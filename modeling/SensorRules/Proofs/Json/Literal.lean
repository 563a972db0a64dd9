import SensorRules.Json.Printer
import SensorRules.Json.Reader
import SensorRules.Proofs.Number.Whole

/-!
Whole numbers and strings that are written and read again.

* `Json.Stops`: what comes next does not belong to a number;
* `Json.number?_intText`: a whole number is read as it was written;
* `Json.pieces?_flatMap_escape`, `Json.string?_flatMap_escape`: and so is a string.
-/

namespace SensorRules.Json

open Number (toDigits ofDigits)

variable {c : Char} {cs ds rest : List Char} {n : Nat}

/-! ### Numbers -/

/-- No character of a number comes next. -/
def Stops (rest : List Char) : Prop :=
  ∀ c ∈ rest.head?, c.isDigit = false ∧ c ≠ '.' ∧ c ≠ 'e' ∧ c ≠ 'E'

lemma stops_nil : Stops [] :=
  nofun

lemma stops_cons (h : c.isDigit = false ∧ c ≠ '.' ∧ c ≠ 'e' ∧ c ≠ 'E') : Stops (c :: rest) := by
  intro c' hc'
  obtain rfl : c = c' := Option.some.inj hc'
  exact h

/-- A run of digits ends where no digit comes next. -/
lemma digitRun_append (hds : ∀ c ∈ ds, c.isDigit) (hrest : Stops rest) :
    digitRun (ds ++ rest) = (ds, rest) := by
  have hstop : rest.takeWhile Char.isDigit = [] ∧ rest.dropWhile Char.isDigit = rest := by
    cases rest with
    | nil => exact ⟨rfl, rfl⟩
    | cons c rest =>
        have hc := (hrest c rfl).1
        simp [hc]
  rw [digitRun, List.takeWhile_append_of_pos hds, List.dropWhile_append_of_pos hds, hstop.1,
    hstop.2, List.append_nil]

/-- The digits of a number are its whole part. -/
lemma wholePart?_toDigits (hrest : Stops rest) :
    wholePart? (toDigits n ++ rest) = some (toDigits n, rest) := by
  have hrun := digitRun_append (fun c => Number.isDigit_of_mem_toDigits (n := n)) hrest
  rcases hds : toDigits n with _ | ⟨c, ds⟩
  · exact absurd hds Number.toDigits_ne_nil
  by_cases hc : c = '0'
  · subst hc
    obtain rfl := Number.eq_zero_of_toDigits hds
    obtain rfl : ds = [] := (List.cons.inj hds).2.symm
    rfl
  · rw [hds] at hrun
    rw [wholePart?, hrun]
    simpa using hc

lemma fractionPart?_of_stops (hrest : Stops rest) : fractionPart? rest = some ([], rest) := by
  rw [fractionPart?.eq_def]
  split
  next cs => exact absurd rfl (hrest '.' rfl).2.1
  next => rfl

lemma exponentPart?_of_stops (hrest : Stops rest) : exponentPart? rest = some ([], rest) := by
  cases rest with
  | nil => rfl
  | cons c rest =>
      obtain ⟨-, -, he, hE⟩ := hrest c rfl
      rw [exponentPart?, if_neg (not_or.mpr ⟨he, hE⟩)]

lemma minusSign_toDigits : minusSign (toDigits n ++ rest) = ([], toDigits n ++ rest) := by
  rw [minusSign.eq_def]
  split
  next cs heq =>
    rcases hds : toDigits n with _ | ⟨c, ds⟩
    · exact absurd hds Number.toDigits_ne_nil
    · rw [hds] at heq
      obtain rfl : c = '-' := (List.cons.inj heq).1
      have := Number.isDigit_of_mem_toDigits (hds ▸ List.mem_cons_self)
      exact absurd this (by decide)
  next => rfl

lemma number?_toDigits (hrest : Stops rest) :
    number? (toDigits n ++ rest) = some (.int n, rest) := by
  rw [number?, minusSign_toDigits]
  simp [wholePart?_toDigits hrest, fractionPart?_of_stops hrest, exponentPart?_of_stops hrest]

lemma number?_minus (hn : n ≠ 0) (hrest : Stops rest) :
    number? ('-' :: toDigits n ++ rest) = some (.int (-n), rest) := by
  rw [List.cons_append, number?]
  simp [minusSign, wholePart?_toDigits hrest, fractionPart?_of_stops hrest,
    exponentPart?_of_stops hrest, hn]

/-- A whole number is read as it was written. -/
lemma number?_intText {n : Int} (hrest : Stops rest) :
    number? (intText n ++ rest) = some (.int n, rest) := by
  rw [intText]
  split
  next hneg =>
    have hvalue : -(n.natAbs : Int) = n := by omega
    rw [number?_minus (by omega) hrest, hvalue]
  next hpos =>
    have hvalue : (n.natAbs : Int) = n := by omega
    rw [number?_toDigits hrest, hvalue]

/-! ### Strings -/

lemma hexDigit?_hexChar (h : n < 16) : Number.hexDigit? (hexChar n) = some n := by
  have hall : ∀ n < 16, Number.hexDigit? (hexChar n) = some n := by decide
  exact hall n h

/-- An escaped control character is read by its code. -/
lemma pieces?_control (h : c.toNat < 0x20) :
    pieces? ('\\' :: 'u' :: '0' :: '0' ::
        hexChar (c.toNat / 16) :: hexChar (c.toNat % 16) :: rest) =
      (pieces? rest).map fun p => (.char c :: p.1, p.2) := by
  have hcode : hexCode? '0' '0' (hexChar (c.toNat / 16)) (hexChar (c.toNat % 16)) =
      some c.toNat := by
    have hsum : c.toNat / 16 * 16 + c.toNat % 16 = c.toNat := Nat.div_add_mod' c.toNat 16
    have hzero : Number.hexDigit? '0' = some 0 := by decide
    simp [hexCode?, hzero, hexDigit?_hexChar (show c.toNat / 16 < 16 by omega),
      hexDigit?_hexChar (show c.toNat % 16 < 16 by omega), hsum]
  have hpiece : Piece.ofCode c.toNat = .char c := by
    have hleading : isLeading c.toNat = false := by simp [isLeading]; omega
    have htrailing : isTrailing c.toNat = false := by simp [isTrailing]; omega
    simp [Piece.ofCode, hleading, htrailing]
  rw [pieces?, hcode, Option.bind_eq_bind, Option.bind_some, hpiece]
  cases pieces? rest <;> rfl

/-- A character that a letter names is read by this letter. -/
lemma pieces?_letter {letter : Char} (hu : letter ≠ 'u') (h : escaped? letter = some c) :
    pieces? ('\\' :: letter :: rest) = (pieces? rest).map fun p => (.char c :: p.1, p.2) := by
  rw [pieces?, h, Option.bind_eq_bind, Option.bind_some]
  · cases pieces? rest <;> rfl
  · exact fun _ _ _ _ _ heq _ => hu heq

/-- Any other character stands for itself. -/
lemma pieces?_itself (hquote : c ≠ '"') (hslash : c ≠ '\\') (h : ¬ c.toNat < 0x20) :
    pieces? (c :: rest) = (pieces? rest).map fun p => (.char c :: p.1, p.2) := by
  have hplain : ¬(c.toNat < 0x20 ∨ c = '\\') := not_or.mpr ⟨h, hslash⟩
  rw [pieces?, if_neg hplain]
  · cases pieces? rest <;> rfl
  · exact hquote
  · exact fun _ _ _ _ _ heq _ => hslash heq
  · exact fun _ _ heq _ => hslash heq

/-- A character within a string is read as it was. -/
lemma pieces?_escape :
    pieces? (escape c ++ rest) = (pieces? rest).map fun p => (.char c :: p.1, p.2) := by
  rw [escape.eq_def]
  split
  case h_8 hquote hslash _ _ _ _ _ =>
    split
    next h => exact pieces?_control h
    next h => exact pieces?_itself hquote hslash h
  all_goals exact pieces?_letter (by decide) rfl

/-- The inside of a string is read as it was. -/
lemma pieces?_flatMap_escape :
    pieces? (cs.flatMap escape ++ '"' :: rest) = some (cs.map .char, rest) := by
  induction cs with
  | nil => rfl
  | cons c cs ih => rw [List.flatMap_cons, List.append_assoc, pieces?_escape, ih]; rfl

lemma joinPieces_map_char : joinPieces (cs.map .char) = some cs := by
  induction cs with
  | nil => rfl
  | cons c cs ih => rw [List.map_cons, joinPieces, ih]; rfl

/-- A string is read as it was written. -/
lemma string?_flatMap_escape {s : String} :
    string? (s.toList.flatMap escape ++ '"' :: rest) = some (some s, rest) := by
  rw [string?, pieces?_flatMap_escape, Option.map_some]
  simp only [joinPieces_map_char, Option.map_some, String.ofList_toList]

end SensorRules.Json
