import Mathlib.Data.List.DropRight
import SensorRules.Proofs.Json.Literal

/-!
Values that are written and read again.

* `Json.Plain`: a value whose numbers are whole and whose strings have a text;
* `Json.Reads`: a value is read as it is written, at every level and before everything that does not
  belong to a number;
* `Json.items?_prettyItems`, `Json.members?_prettyMembers`: so are lists of such values;
* `Json.Plain.reads`, `Json.read?_toText`: every plain value is read as it is written.
-/

namespace SensorRules.Json

variable {c : Char} {cs rest : List Char} {v : Json} {vs : List Json} {ms : List (String × Json)}
  {level outer fuel bound : Nat}

/-- A value whose numbers are whole and whose strings have a text. -/
inductive Plain : Json → Prop where
  | null : Plain null
  | bool (b : Bool) : Plain (bool b)
  | int (n : Int) : Plain (int n)
  | text (s : String) : Plain (text s)
  | arr {vs : List Json} : (∀ v ∈ vs, Plain v) → Plain (arr vs)
  | object {ms : List (String × Json)} : (∀ m ∈ ms, Plain m.2) → Plain (object ms)

namespace Plain

variable {α : Type} {as : List α} {es : List (String × α)} {ss : List String} {encode : α → Json}

lemma list (h : ∀ a, (encode a).Plain) : (Json.arr (as.map encode)).Plain := by
  refine .arr fun v hv => ?_
  obtain ⟨a, -, rfl⟩ := List.mem_map.mp hv
  exact h a

lemma texts : (Json.texts ss).Plain :=
  list .text

lemma table (h : ∀ a, (encode a).Plain) :
    (Json.object (es.map fun e => (e.1, encode e.2))).Plain := by
  refine .object fun m hm => ?_
  obtain ⟨e, -, rfl⟩ := List.mem_map.mp hm
  exact h e.2

end Plain

/-- A value is read as it is written. -/
def Reads (v : Json) : Prop :=
  ∀ ⦃level fuel rest⦄, (pretty level v).length < fuel → Stops rest →
    value? fuel (pretty level v ++ rest) = some (v, rest)

/-! ### White space -/

lemma skipSpace_cons (h : isSpace c = false) : skipSpace (c :: cs) = c :: cs :=
  List.dropWhile_cons_of_neg (by rw [h]; decide)

/-- A new line is white space. -/
lemma skipSpace_newline : skipSpace (newline level ++ cs) = skipSpace cs := by
  have hall : ∀ c ∈ newline level, isSpace c := by
    intro c hc
    rcases List.mem_cons.mp hc with rfl | hc
    · decide
    · rw [List.eq_of_mem_replicate hc]
      decide
  exact List.dropWhile_append_of_pos hall

lemma stops_newline : Stops (newline level ++ cs) :=
  stops_cons (by decide)

/-- White space before a value does not count. -/
lemma value?_skipSpace : value? fuel (skipSpace cs) = value? fuel cs := by
  cases fuel with
  | zero => rfl
  | succ fuel => rw [value?, value?, skipSpace, skipSpace, List.dropWhile_idempotent]

lemma value?_newline : value? fuel (newline level ++ cs) = value? fuel cs := by
  rw [← value?_skipSpace, skipSpace_newline, value?_skipSpace]

/-! ### How a value begins -/

/-- A whole number begins with a sign or a digit. -/
lemma intText_eq_cons (n : Int) : ∃ c cs, intText n = c :: cs ∧ (c = '-' ∨ c.isDigit) := by
  rw [intText]
  split
  next => exact ⟨'-', _, rfl, .inl rfl⟩
  next =>
    rcases hds : Number.toDigits n.natAbs with _ | ⟨c, ds⟩
    · exact absurd hds Number.toDigits_ne_nil
    · exact ⟨c, ds, rfl, .inr (Number.isDigit_of_mem_toDigits (hds ▸ List.mem_cons_self))⟩

lemma ne_of_sign_or_digit (h : c = '-' ∨ c.isDigit) {c' : Char}
    (h' : c' ≠ '-' ∧ c'.isDigit = false) : c ≠ c' := by
  rintro rfl
  rcases h with h | h
  · exact h'.1 h
  · rw [h'.2] at h
    exact absurd h (by decide)

/-- A value begins with something that is neither white space nor the end of an array. -/
lemma Plain.pretty_eq_cons (h : v.Plain) (level : Nat) :
    ∃ c cs, pretty level v = c :: cs ∧ isSpace c = false ∧ c ≠ ']' := by
  cases h with
  | null => exact ⟨'n', _, rfl, by decide, by decide⟩
  | bool b => cases b with
    | true => exact ⟨'t', _, rfl, by decide, by decide⟩
    | false => exact ⟨'f', _, rfl, by decide, by decide⟩
  | int n =>
      obtain ⟨c, cs, heq, hc⟩ := intText_eq_cons n
      have hspace : isSpace c = false := by
        simp [isSpace, ne_of_sign_or_digit hc]
      exact ⟨c, cs, heq, hspace, ne_of_sign_or_digit hc (by decide)⟩
  | text s => exact ⟨'"', _, rfl, by decide, by decide⟩
  | @arr vs h => cases vs with
    | nil => exact ⟨'[', _, rfl, by decide, by decide⟩
    | cons v vs => exact ⟨'[', _, rfl, by decide, by decide⟩
  | @object ms h => cases ms with
    | nil => exact ⟨'\x7B', _, rfl, by decide, by decide⟩
    | cons m ms => exact ⟨'\x7B', _, rfl, by decide, by decide⟩

/-- What begins with a sign or a digit is read as a number. -/
lemma value?_number (h : c = '-' ∨ c.isDigit) :
    value? (fuel + 1) (c :: cs) = number? (c :: cs) := by
  have hspace : isSpace c = false := by
    simp [isSpace, ne_of_sign_or_digit h]
  have hne (c' : Char) (h' : c' ≠ '-' ∧ c'.isDigit = false) : c ≠ c' := ne_of_sign_or_digit h h'
  rw [value?, skipSpace_cons hspace]
  split
  case h_7 => rfl
  all_goals
    next heq => exact absurd (List.cons.inj heq).1 (hne _ (by decide))

/-- What begins with a quote is read as a string. -/
lemma value?_string :
    value? (fuel + 1) ('"' :: cs) = (string? cs).map fun p => (.str p.1, p.2) :=
  rfl

/-- An array with something in it. -/
lemma value?_array (h : ∀ cs', skipSpace cs ≠ ']' :: cs') : value? (fuel + 1) ('[' :: cs) =
    (items? (value? fuel) (fuel + 1) (skipSpace cs)).map fun p => (.arr p.1, p.2) := by
  rw [value?, skipSpace_cons (by decide)]
  simp only []

/-- An object with something in it. -/
lemma value?_object (h : ∀ cs', skipSpace cs ≠ '\x7D' :: cs') : value? (fuel + 1) ('\x7B' :: cs) =
    (members? (value? fuel) (fuel + 1) (skipSpace cs)).map fun p => (.obj p.1, p.2) := by
  rw [value?, skipSpace_cons (by decide)]
  simp only []

/-! ### Arrays -/

section Items

variable {value : List Char → Option (Json × List Char)} {rest' : List Char}

lemma items?_last (hv : value cs = some (v, rest)) (hend : skipSpace rest = ']' :: rest') :
    items? value (fuel + 1) cs = some ([v], rest') := by
  rw [items?, hv, Option.bind_eq_bind, Option.bind_some]
  simp only [hend]

lemma items?_more (hv : value cs = some (v, ',' :: rest)) : items? value (fuel + 1) cs =
    (items? value fuel rest).map fun p => (v :: p.1, p.2) := by
  rw [items?, hv, Option.bind_eq_bind, Option.bind_some]
  simp only [skipSpace_cons (show isSpace ',' = false by decide)]
  cases items? value fuel rest <;> rfl

lemma items?_skipSpace :
    items? (value? bound) fuel (skipSpace cs) = items? (value? bound) fuel cs := by
  cases fuel with
  | zero => rfl
  | succ fuel => rw [items?, items?, value?_skipSpace]

end Items

lemma prettyItems_cons_cons {v' : Json} : prettyItems level (v :: v' :: vs) =
    newline level ++ (pretty level v ++ ',' :: prettyItems level (v' :: vs)) := by
  rw [prettyItems, List.append_assoc]
  exact List.cons_ne_nil v' vs

/-- Items are read as they are written. -/
lemma items?_prettyItems (hne : vs ≠ []) (h : ∀ v ∈ vs, v.Reads)
    (hbound : (prettyItems level vs).length < bound)
    (hfuel : (prettyItems level vs).length < fuel) :
    items? (value? bound) fuel (prettyItems level vs ++ (newline outer ++ ']' :: rest)) =
      some (vs, rest) := by
  induction vs generalizing fuel with
  | nil => exact absurd rfl hne
  | cons v vs ih =>
      obtain ⟨fuel, rfl⟩ := Nat.exists_eq_add_one_of_ne_zero (Nat.ne_zero_of_lt hfuel)
      have hv := h v List.mem_cons_self
      cases vs with
      | nil =>
          have hlast : value? bound (prettyItems level [v] ++ (newline outer ++ ']' :: rest)) =
              some (v, newline outer ++ ']' :: rest) := by
            rw [prettyItems, List.length_append] at hbound
            rw [prettyItems, List.append_assoc, value?_newline]
            exact hv (by omega) stops_newline
          refine items?_last hlast ?_
          rw [skipSpace_newline, skipSpace_cons (by decide)]
      | cons v' vs =>
          rw [prettyItems_cons_cons] at hbound hfuel ⊢
          simp only [List.length_append, List.length_cons] at hbound hfuel
          have hfirst : value? bound (newline level ++ (pretty level v ++
                ',' :: prettyItems level (v' :: vs)) ++ (newline outer ++ ']' :: rest)) =
              some (v,
                ',' :: (prettyItems level (v' :: vs) ++ (newline outer ++ ']' :: rest))) := by
            rw [List.append_assoc, value?_newline, List.append_assoc]
            exact hv (by omega) (stops_cons (by decide))
          have hothers : ∀ w ∈ v' :: vs, w.Reads := fun w hw => h w (List.mem_cons_of_mem v hw)
          rw [items?_more hfirst, ih (List.cons_ne_nil v' vs) hothers (by omega) (by omega)]
          rfl

/-! ### Objects -/

section Members

variable {value : List Char → Option (Json × List Char)} {body rest' : List Char} {key : String}

/-- The key of a member is read as it is written. -/
lemma string?_key : string? (key.toList.flatMap escape ++ ['"'] ++ ':' :: body) =
    some (some key, ':' :: body) := by
  rw [List.append_assoc]
  exact string?_flatMap_escape

lemma members?_last (hkey : skipSpace cs = quoted key.toList ++ ':' :: body)
    (hv : value body = some (v, rest)) (hend : skipSpace rest = '\x7D' :: rest') :
    members? value (fuel + 1) cs = some ([(some key, v)], rest') := by
  have hcolon : skipSpace (':' :: body) = ':' :: body := skipSpace_cons (by decide)
  rw [members?, hkey, quoted]
  simp only [List.cons_append, string?_key, Option.bind_eq_bind, Option.bind_some, hcolon, hv, hend]

lemma members?_more (hkey : skipSpace cs = quoted key.toList ++ ':' :: body)
    (hv : value body = some (v, ',' :: rest)) : members? value (fuel + 1) cs =
    (members? value fuel rest).map fun p => ((some key, v) :: p.1, p.2) := by
  have hcolon : skipSpace (':' :: body) = ':' :: body := skipSpace_cons (by decide)
  have hcomma : skipSpace (',' :: rest) = ',' :: rest := skipSpace_cons (by decide)
  rw [members?, hkey, quoted]
  simp only [List.cons_append, string?_key, Option.bind_eq_bind, Option.bind_some, hcolon, hv,
    hcomma]
  cases members? value fuel rest <;> rfl

lemma members?_skipSpace : members? value fuel (skipSpace cs) = members? value fuel cs := by
  cases fuel with
  | zero => rfl
  | succ fuel => rw [members?, members?, skipSpace, skipSpace, List.dropWhile_idempotent]

end Members

/-- The members of an object, with their keys as they are read. -/
def withKeys (ms : List (String × Json)) : List (Option String × Json) :=
  ms.map fun m => (some m.1, m.2)

lemma prettyMembers_singleton {m : String × Json} : prettyMembers level (withKeys [m]) =
    newline level ++ (quoted m.1.toList ++ ':' :: ' ' :: pretty level m.2) := by
  rw [withKeys, List.map_singleton, prettyMembers, List.append_assoc]
  rfl

lemma prettyMembers_cons_cons {m m' : String × Json} :
    prettyMembers level (withKeys (m :: m' :: ms)) =
      newline level ++ (quoted m.1.toList ++ ':' :: ' ' ::
        (pretty level m.2 ++ ',' :: prettyMembers level (withKeys (m' :: ms)))) := by
  rw [withKeys, List.map_cons, prettyMembers, List.append_assoc, List.append_assoc]
  · rfl
  · exact List.cons_ne_nil _ _

/-- A key begins a member, whatever white space is before it. -/
lemma skipSpace_key {key : String} : skipSpace (newline level ++ (quoted key.toList ++ cs)) =
    quoted key.toList ++ cs := by
  rw [skipSpace_newline]
  exact skipSpace_cons (by decide)

/-- A value is read after a blank. -/
lemma Reads.after_blank (h : v.Reads) (hbound : (pretty level v).length < bound)
    (hrest : Stops rest) : value? bound (' ' :: (pretty level v ++ rest)) = some (v, rest) := by
  rw [← value?_skipSpace, skipSpace, List.dropWhile_cons_of_pos (by decide), ← skipSpace,
    value?_skipSpace]
  exact h hbound hrest

/-- Members are read as they are written. -/
lemma members?_prettyMembers (hne : ms ≠ []) (h : ∀ m ∈ ms, m.2.Reads)
    (hbound : (prettyMembers level (withKeys ms)).length < bound)
    (hfuel : (prettyMembers level (withKeys ms)).length < fuel) :
    members? (value? bound) fuel
        (prettyMembers level (withKeys ms) ++ (newline outer ++ '\x7D' :: rest)) =
      some (withKeys ms, rest) := by
  induction ms generalizing fuel with
  | nil => exact absurd rfl hne
  | cons m ms ih =>
      obtain ⟨fuel, rfl⟩ := Nat.exists_eq_add_one_of_ne_zero (Nat.ne_zero_of_lt hfuel)
      have hm := h m List.mem_cons_self
      cases ms with
      | nil =>
          rw [prettyMembers_singleton] at hbound ⊢
          simp only [List.length_append, List.length_cons] at hbound
          simp only [List.append_assoc, List.cons_append]
          refine members?_last skipSpace_key (hm.after_blank (by omega) stops_newline) ?_
          rw [skipSpace_newline, skipSpace_cons (by decide)]
      | cons m' ms =>
          rw [prettyMembers_cons_cons] at hbound hfuel ⊢
          simp only [List.length_append, List.length_cons] at hbound hfuel
          have hothers : ∀ w ∈ m' :: ms, w.2.Reads := fun w hw => h w (List.mem_cons_of_mem m hw)
          simp only [List.append_assoc, List.cons_append]
          rw [members?_more skipSpace_key (hm.after_blank (by omega) (stops_cons (by decide))),
            ih (List.cons_ne_nil m' ms) hothers (by omega) (by omega)]
          rfl

/-! ### Values -/

/-- An item is not the end of its array. -/
lemma skipSpace_prettyItems_ne (h : v.Plain) (cs' : List Char) :
    skipSpace (prettyItems level (v :: vs) ++ cs) ≠ ']' :: cs' := by
  obtain ⟨tail, htail⟩ : ∃ tail, prettyItems level (v :: vs) =
      newline level ++ (pretty level v ++ tail) := by
    cases vs with
    | nil => exact ⟨[], by rw [prettyItems, List.append_nil]⟩
    | cons v' vs => exact ⟨_, prettyItems_cons_cons⟩
  obtain ⟨c, body, hpretty, hspace, hc⟩ := h.pretty_eq_cons level
  rw [htail, List.append_assoc, skipSpace_newline, hpretty, List.cons_append, List.cons_append,
    skipSpace_cons hspace]
  exact fun heq => hc (List.cons.inj heq).1

/-- A member is not the end of its object. -/
lemma skipSpace_prettyMembers_ne {m : String × Json} (cs' : List Char) :
    skipSpace (prettyMembers level (withKeys (m :: ms)) ++ cs) ≠ '\x7D' :: cs' := by
  obtain ⟨tail, htail⟩ : ∃ tail, prettyMembers level (withKeys (m :: ms)) =
      newline level ++ (quoted m.1.toList ++ tail) := by
    cases ms with
    | nil => exact ⟨_, prettyMembers_singleton⟩
    | cons m' ms => exact ⟨_, prettyMembers_cons_cons⟩
  rw [htail, List.append_assoc, List.append_assoc, skipSpace_key]
  exact fun heq => absurd (List.cons.inj heq).1 (by decide)

lemma reads_of_succ (h : ∀ level fuel rest, (pretty level v).length ≤ fuel → Stops rest →
    value? (fuel + 1) (pretty level v ++ rest) = some (v, rest)) : v.Reads := by
  intro level fuel rest hfuel hrest
  obtain ⟨fuel, rfl⟩ := Nat.exists_eq_add_one_of_ne_zero (Nat.ne_zero_of_lt hfuel)
  exact h level fuel rest (Nat.le_of_lt_succ hfuel) hrest

/-- Every plain value is read as it is written. -/
lemma Plain.reads (h : v.Plain) : v.Reads := by
  induction h with
  | null => exact reads_of_succ fun level fuel rest _ _ => rfl
  | bool b => exact reads_of_succ fun level fuel rest _ _ => by cases b <;> rfl
  | int n =>
      refine reads_of_succ fun level fuel rest _ hrest => ?_
      obtain ⟨c, cs, heq, hc⟩ := intText_eq_cons n
      rw [pretty, heq, List.cons_append, value?_number hc, ← List.cons_append, ← heq]
      exact number?_intText hrest
  | text s =>
      refine reads_of_succ fun level fuel rest _ _ => ?_
      rw [Json.text, pretty, quoted, Option.getD_some, List.append_assoc, List.cons_append,
        value?_string, List.singleton_append, string?_flatMap_escape]
      rfl
  | @arr vs h ih =>
      refine reads_of_succ fun level fuel rest hfuel _ => ?_
      cases vs with
      | nil => rfl
      | cons v vs =>
          rw [pretty] at hfuel ⊢
          simp only [List.cons_append, List.append_assoc, List.nil_append, List.length_cons,
            List.length_append] at hfuel ⊢
          rw [value?_array (skipSpace_prettyItems_ne (h v List.mem_cons_self)), items?_skipSpace,
            items?_prettyItems (List.cons_ne_nil v vs) ih (by omega) (by omega)]
          rfl
  | @object ms h ih =>
      refine reads_of_succ fun level fuel rest hfuel _ => ?_
      cases ms with
      | nil => rfl
      | cons m ms =>
          have hpretty : pretty level (Json.object (m :: ms)) =
              '\x7B' :: prettyMembers (level + 1) (withKeys (m :: ms)) ++ newline level ++
                ['\x7D'] := by
            rw [Json.object, List.map_cons, pretty]
            rfl
          rw [hpretty] at hfuel ⊢
          simp only [List.cons_append, List.append_assoc, List.nil_append, List.length_cons,
            List.length_append] at hfuel ⊢
          rw [value?_object skipSpace_prettyMembers_ne, members?_skipSpace,
            members?_prettyMembers (List.cons_ne_nil m ms) ih (by omega) (by omega)]
          rfl

/-- **Written and read again.** A plain value is the value of its own text. -/
theorem read?_toText (h : v.Plain) : read? v.toText = some v := by
  have hread := h.reads (Nat.lt_succ_self (pretty 0 v).length) stops_nil
  rw [List.append_nil] at hread
  rw [read?, toText, String.toList_ofList, hread]
  rfl

end SensorRules.Json
