import Mathlib.Data.List.Basic
import SensorRules.Pattern.Reader

/-!
Reading a text inside a group: single characters, escapes and classes.

* `closing`: the end of a group, with the anchor for the end of the text after it;
* `Prolonged`: a text with `closing` written after it, or not: in verbose layout a comment that goes
  on to the end of the text swallows what is written there;
* `Prolonging`: what one reader reads of a text, another one reads of the text prolonged;
* `prolonging_escape?` and `prolonging_class?`: so it is with escapes and with classes, whatever
  sets there are under the names of properties.

No reader of these looks for a closing bracket, and so none is misled by the one that is put after a
text.
-/

namespace SensorRules.Pattern

variable {α β : Type} {cs cs' rest name : List Char} {c : Char} {n fuel fuel' : Nat}
  {p : Char → Bool} {mode : Mode}

/-- The end of a group and the anchor for the end of a text. -/
def closing : List Char :=
  [')', '$']

/-- The text with `closing` after it, or the text as it is, where `closing` stands in a comment. -/
inductive Prolonged (cs : List Char) : List Char → Prop
  | kept : Prolonged cs (cs ++ closing)
  | swallowed : Prolonged cs cs

/-- What `f` reads of a text, `g` reads of the text prolonged. -/
def Prolonging (f g : List Char → Option (α × List Char)) : Prop :=
  ∀ ⦃cs x rest⦄, f cs = some (x, rest) → ∀ ⦃cs'⦄, Prolonged cs cs' →
    ∃ rest', g cs' = some (x, rest') ∧ Prolonged rest rest'

/-! ### Texts prolonged -/

lemma Prolonged.cons (h : Prolonged cs cs') (c : Char) : Prolonged (c :: cs) (c :: cs') := by
  cases h with
  | kept => exact .kept
  | swallowed => exact .swallowed

lemma Prolonged.exists_cons (h : Prolonged cs cs') (hcs : cs = c :: rest) :
    ∃ rest', cs' = c :: rest' ∧ Prolonged rest rest' := by
  subst hcs
  cases h with
  | kept => exact ⟨_, rfl, .kept⟩
  | swallowed => exact ⟨_, rfl, .swallowed⟩

lemma Prolonged.nil (h : Prolonged [] cs') : cs' = [] ∨ cs' = closing := by
  cases h with
  | kept => exact .inr rfl
  | swallowed => exact .inl rfl

lemma Prolonged.eq_nil (h : Prolonged cs []) : cs = [] := by
  cases cs with
  | nil => rfl
  | cons c cs =>
      obtain ⟨ds, heq, -⟩ := h.exists_cons rfl
      cases heq

/-- Only a closing bracket can be the first character of what is written after a text. -/
lemma Prolonged.of_cons (h : Prolonged cs (c :: cs')) (hc : c ≠ ')') :
    ∃ ds, cs = c :: ds ∧ Prolonged ds cs' := by
  cases cs with
  | nil =>
      rcases h.nil with h | h
      · cases h
      · exact absurd (List.cons.inj h).1 hc
  | cons d ds =>
      obtain ⟨es, heq, h⟩ := h.exists_cons rfl
      cases heq
      exact ⟨ds, rfl, h⟩

lemma Prolonged.exists_cons_cons {d : Char} (h : Prolonged cs cs') (hcs : cs = c :: d :: rest) :
    ∃ rest', cs' = c :: d :: rest' ∧ Prolonged rest rest' := by
  obtain ⟨_, rfl, htail⟩ := h.exists_cons hcs
  obtain ⟨rest', rfl, hrest⟩ := htail.exists_cons rfl
  exact ⟨rest', rfl, hrest⟩

lemma Prolonged.ne_cons (h : Prolonged cs cs') (hne : ∀ ds, cs ≠ c :: ds) (hc : c ≠ ')')
    (ds : List Char) : cs' ≠ c :: ds := by
  rintro rfl
  obtain ⟨es, rfl, -⟩ := h.of_cons hc
  exact hne es rfl

lemma Prolonged.ne_cons_cons {d : Char} (h : Prolonged cs cs') (hne : ∀ ds, cs ≠ c :: d :: ds)
    (hc : c ≠ ')') (hd : d ≠ ')') (ds : List Char) : cs' ≠ c :: d :: ds := by
  rintro rfl
  obtain ⟨es, rfl, htail⟩ := h.of_cons hc
  obtain ⟨es, rfl, -⟩ := htail.of_cons hd
  exact hne es rfl

lemma Prolonged.length_le (h : Prolonged cs cs') : cs.length ≤ cs'.length := by
  cases h with
  | kept => simp
  | swallowed => exact Nat.le_refl _

lemma prolonged_go (comment : Bool) (cs : List Char) :
    Prolonged (Mode.skipLayout.go comment cs) (Mode.skipLayout.go comment (cs ++ closing)) := by
  induction cs generalizing comment with
  | nil =>
      cases comment with
      | true => exact .swallowed
      | false => exact .kept
  | cons c cs ih =>
      simp only [List.cons_append, Mode.skipLayout.go]
      split
      · exact ih _
      split
      · exact ih _
      split
      · exact ih _
      · exact .kept

lemma Prolonged.skipLayout (h : Prolonged cs cs') (mode : Mode) :
    Prolonged (mode.skipLayout cs) (mode.skipLayout cs') := by
  cases h with
  | swallowed => exact .swallowed
  | kept =>
      unfold Mode.skipLayout
      split
      · exact prolonged_go false cs
      · exact .kept

/-- A run of characters that another one ends within the text is the same in the text prolonged. -/
lemma run_go_closing {comment : Bool} (h : Mode.run.go mode p comment cs = (name, c :: rest)) :
    Mode.run.go mode p comment (cs ++ closing) = (name, c :: (rest ++ closing)) := by
  induction cs generalizing comment name with
  | nil => cases h
  | cons d cs ih =>
      simp only [List.cons_append, Mode.run.go] at h ⊢
      split at h
      next hcomment =>
        rw [if_pos hcomment]
        exact ih h
      next hcomment =>
      rw [if_neg hcomment]
      split at h
      next hsign =>
        rw [if_pos hsign]
        exact ih h
      next hsign =>
      rw [if_neg hsign]
      split at h
      next hblank =>
        rw [if_pos hblank]
        exact ih h
      next hblank =>
      rw [if_neg hblank]
      split at h
      next hkind =>
        obtain ⟨rfl, hrest⟩ := Prod.mk.inj h
        rw [if_pos hkind, ih (Prod.ext rfl hrest)]
      next hkind =>
        rw [if_neg hkind]
        cases h
        rfl

lemma Prolonged.run (h : Prolonged cs cs') (hrun : mode.run p cs = (name, c :: rest)) :
    ∃ rest', mode.run p cs' = (name, c :: rest') ∧ Prolonged rest rest' := by
  cases h with
  | kept => exact ⟨_, run_go_closing hrun, .kept⟩
  | swallowed => exact ⟨_, hrun, .swallowed⟩

/-- What is looked for in brackets is not the bracket that is put after a text. -/
lemma Prolonged.peek?_ne (h : Prolonged cs cs') (mode : Mode) (hc : c ≠ ')') :
    (mode.peek? cs' != some c) = (mode.peek? cs != some c) := by
  cases h with
  | swallowed => rfl
  | kept =>
      have hbracket : (some ')' != some c) = true := by simpa using hc.symm
      have hgo : ∀ comment, (Mode.peek?.go comment (cs ++ closing) != some c) =
          (Mode.peek?.go comment cs != some c) := by
        induction cs with
        | nil =>
            intro comment
            have hblank : Text.isBlank ')' = false := by decide
            have hpeek : Mode.peek?.go comment closing = some ')' := by
              simp [closing, Mode.peek?.go, hblank]
            exact (congrArg (· != some c) hpeek).trans hbracket
        | cons d cs ih =>
            intro comment
            simp only [List.cons_append, Mode.peek?.go]
            split
            · exact ih _
            split
            · exact ih _
            · rfl
      unfold Mode.peek?
      split
      · exact hgo false
      · cases cs with
        | nil => exact hbracket
        | cons d cs => rfl

lemma takeWhile_closing (hp : p ')' = false) :
    (cs ++ closing).takeWhile p = cs.takeWhile p := by
  rw [List.takeWhile_append]
  split
  next h => simp [closing, hp, (List.takeWhile_prefix p).eq_of_length h]
  next => rfl

/-- A run of characters that another one ends within the text is the same in the text prolonged. -/
lemma takeWhile_closing_of_drop (h : cs.drop (cs.takeWhile p).length = c :: rest) :
    (cs ++ closing).takeWhile p = cs.takeWhile p := by
  rw [List.takeWhile_append, if_neg]
  intro hlength
  rw [hlength, List.drop_length] at h
  cases h

lemma drop_closing (h : n ≤ cs.length) : (cs ++ closing).drop n = cs.drop n ++ closing :=
  List.drop_append_of_le_length h

lemma drop_takeWhile_closing :
    (cs ++ closing).drop (cs.takeWhile p).length = cs.drop (cs.takeWhile p).length ++ closing :=
  drop_closing (List.takeWhile_prefix p).length_le

/-- A run of characters that ends with the text goes on to the end of the text prolonged. -/
lemma drop_takeWhile_eq_nil (hp : closing.takeWhile p = closing)
    (h : cs.drop (cs.takeWhile p).length = []) :
    (cs ++ closing).drop ((cs ++ closing).takeWhile p).length = [] := by
  have hall : cs.takeWhile p = cs :=
    (List.takeWhile_prefix p).eq_of_length_le (List.drop_eq_nil_iff.mp h)
  rw [List.takeWhile_append, if_pos (congrArg List.length hall), hp, List.drop_length]

/-! ### Readers without layout -/

lemma prolonging_of_append {f : List Char → Option (α × List Char)}
    (h : ∀ cs x rest, f cs = some (x, rest) → f (cs ++ closing) = some (x, rest ++ closing)) :
    Prolonging f f := by
  intro cs x rest hf cs' hcs
  cases hcs with
  | kept => exact ⟨_, h cs x rest hf, .kept⟩
  | swallowed => exact ⟨_, hf, .swallowed⟩

lemma Prolonging.map {f g : List Char → Option (α × List Char)} (h : Prolonging f g) (k : α → β) :
    Prolonging (fun cs => (f cs).map fun (a, rest) => (k a, rest))
      fun cs => (g cs).map fun (a, rest) => (k a, rest) := by
  intro cs x rest hf cs' hcs
  obtain ⟨⟨a, _⟩, ha, ⟨⟩⟩ := Option.map_eq_some_iff.mp hf
  obtain ⟨rest', hg, hrest⟩ := h ha hcs
  exact ⟨rest', by simp only [hg, Option.map_some], hrest⟩

lemma prolonging_count? : Prolonging count? count? := by
  refine prolonging_of_append fun cs x rest h => ?_
  have hdigits : (cs ++ closing).takeWhile Char.isDigit = cs.takeWhile Char.isDigit :=
    takeWhile_closing rfl
  unfold count? at h ⊢
  simp only [hdigits, drop_takeWhile_closing]
  obtain ⟨hcount, ⟨⟩⟩ := Option.ite_none_right_eq_some.mp h
  rw [if_pos hcount]

lemma prolonging_hexDigits? (mode : Mode) (n : Nat) :
    Prolonging (hexDigits? mode n) (hexDigits? mode n) := by
  induction n with
  | zero =>
      rintro cs x rest ⟨⟩ cs' hcs
      exact ⟨cs', rfl, hcs⟩
  | succ n ih =>
      intro cs x rest h cs' hcs
      rw [hexDigits?] at h ⊢
      split at h
      next => cases h
      next c more heq =>
        obtain ⟨more', heq', hmore⟩ := (hcs.skipLayout mode).exists_cons heq
        obtain ⟨hdigit, h⟩ := Option.ite_none_right_eq_some.mp h
        obtain ⟨⟨digits, rest⟩, hdigits, ⟨⟩⟩ := Option.map_eq_some_iff.mp h
        obtain ⟨rest', hdigits', hrest⟩ := ih hdigits hmore
        exact ⟨rest', by simp only [heq', if_pos hdigit, hdigits', Option.map_some], hrest⟩

lemma prolonging_hexEscape? (mode : Mode) (width : Nat) :
    Prolonging (hexEscape? mode width) (hexEscape? mode width) := by
  intro cs x rest h cs' hcs
  have hskip := hcs.skipLayout mode
  unfold hexEscape? at h ⊢
  split at h
  next inner heq =>
    obtain ⟨inner', heq', hinner⟩ := hskip.exists_cons heq
    rw [heq']
    simp only
    split at h
    next digits d more hrun =>
      obtain ⟨c, hc, ⟨⟩⟩ := Option.map_eq_some_iff.mp h
      obtain ⟨more', hrun', hmore⟩ := hinner.run hrun
      exact ⟨more', by simp only [hrun', hc, Option.map_some], hmore⟩
    next => cases h
  next hbrace =>
    obtain ⟨⟨digits, more⟩, hdigits, h⟩ := Option.bind_eq_some_iff.mp h
    obtain ⟨more', hdigits', hmore⟩ := prolonging_hexDigits? mode width hdigits hskip
    obtain ⟨c, hc, h⟩ := Option.bind_eq_some_iff.mp h
    obtain ⟨hascii, heq⟩ := Option.ite_none_left_eq_some.mp h
    cases heq
    refine ⟨more', ?_, hmore⟩
    split
    next heq => exact absurd heq (hskip.ne_cons hbrace (by decide) _)
    next => simp only [hdigits', hc, Option.bind_eq_bind, Option.bind_some, if_neg hascii]

lemma prolonging_boundary? (mode : Mode) : Prolonging (boundary? mode) (boundary? mode) := by
  intro cs x rest h cs' hcs
  unfold boundary? at h
  split at h
  next inner =>
    obtain ⟨inner', rfl, hinner⟩ := hcs.exists_cons rfl
    simp only [boundary?]
    split at h
    next => cases h
    next more hnil hrun =>
      cases h
      obtain ⟨c, ds, rfl⟩ := List.exists_cons_of_ne_nil hnil
      obtain ⟨more', hrun', -⟩ := hinner.run hrun
      exact ⟨_, by rw [hrun'], hcs⟩
    next name more hname hrun =>
      obtain ⟨more', hrun', hmore⟩ := hinner.run hrun
      rw [hrun']
      split at h <;> cases h <;> exact ⟨more', by simp only [*], hmore⟩
    next => cases h
  next hbrace =>
    cases h
    refine ⟨cs', ?_, hcs⟩
    unfold boundary?
    split
    next => exact absurd rfl (hcs.ne_cons hbrace (by decide) _)
    next => rfl

lemma prolonging_groupName? : Prolonging groupName? groupName? := by
  refine prolonging_of_append fun cs x rest h => ?_
  simp only [groupName?] at h ⊢
  split at h
  next c more d _ hname hdrop =>
    obtain ⟨hchars, ⟨⟩⟩ := Option.ite_none_right_eq_some.mp h
    simp only [takeWhile_closing_of_drop hdrop, drop_takeWhile_closing, hdrop, List.cons_append]
    simp only [hname, if_pos hchars]
  next => cases h

lemma prolonging_flags? (mode : Mode) (seen : List Char) (cleared dangling : Bool) :
    Prolonging (flags? mode seen cleared dangling) (flags? mode seen cleared dangling) := by
  refine prolonging_of_append fun cs x rest h => ?_
  induction cs generalizing mode seen cleared dangling with
  | nil => cases h
  | cons c cs ih =>
      rw [flags?] at h
      rw [List.cons_append, flags?]
      split at h
      next hend =>
        rw [if_pos hend]
        obtain ⟨hdangling, ⟨⟩⟩ := Option.ite_none_left_eq_some.mp h
        exact if_neg hdangling
      next hend =>
      rw [if_neg hend]
      split at h
      next hminus =>
        rw [if_pos hminus]
        obtain ⟨hcleared, h⟩ := Option.ite_none_left_eq_some.mp h
        rw [if_neg hcleared]
        exact ih _ _ _ _ h
      next hminus =>
        obtain ⟨hseen, h⟩ := Option.ite_none_left_eq_some.mp h
        obtain ⟨mode', hflag, h⟩ := Option.bind_eq_some_iff.mp h
        rw [if_neg hminus, if_neg hseen, hflag]
        exact ih _ _ _ _ h

/-! ### Readers that look up properties -/

lemma prolonging_propertyName? [PropertyTable] (mode : Mode) :
    Prolonging (propertyName? mode) (propertyName? mode) := by
  intro cs x rest h cs' hcs
  have hskip := hcs.skipLayout mode
  unfold propertyName? at h ⊢
  split at h
  next => cases h
  next => cases h
  next inner heq =>
    obtain ⟨inner', heq', hinner⟩ := hskip.exists_cons heq
    rw [heq']
    simp only
    split at h
    next name d more hrun =>
      obtain ⟨found, hfound, ⟨⟩⟩ := Option.map_eq_some_iff.mp h
      obtain ⟨more', hrun', hmore⟩ := hinner.run hrun
      exact ⟨more', by simp only [hrun', hfound, Option.map_some], hmore⟩
    next => cases h
  next c more hbackslash hbrace heq =>
    obtain ⟨more', heq', hmore⟩ := hskip.exists_cons heq
    obtain ⟨s, hs, ⟨⟩⟩ := Option.map_eq_some_iff.mp h
    refine ⟨more', ?_, hmore⟩
    rw [heq']
    split
    next heq => cases heq
    next heq => exact (hbackslash (List.cons.inj heq).1).elim
    next heq => exact (hbrace (List.cons.inj heq).1).elim
    next heq =>
      cases heq
      rw [hs]
      rfl

lemma prolonging_propertySet? [PropertyTable] (mode : Mode) (negated : Bool) :
    Prolonging (propertySet? mode negated) (propertySet? mode negated) := by
  intro cs x rest h cs' hcs
  obtain ⟨hascii, h⟩ := Option.ite_none_left_eq_some.mp h
  obtain ⟨⟨⟨other, s⟩, more⟩, hname, h⟩ := Option.bind_eq_some_iff.mp h
  obtain ⟨more', hname', hmore⟩ := prolonging_propertyName? mode hname hcs
  obtain ⟨t, ht, heq⟩ := Option.bind_eq_some_iff.mp h
  cases heq
  refine ⟨more', ?_, hmore⟩
  rw [propertySet?, if_neg hascii]
  simp only [hname', ht, Option.bind_eq_bind, Option.bind_some]

/-- Apart from codes, properties and word boundaries, an escape is one character. -/
lemma escape?_cons [PropertyTable] (mode : Mode) (hc : c ∉ ['x', 'u', 'U', 'p', 'P', 'b'])
    (cs : List Char) :
    escape? mode (c :: cs) = ((escape? mode [c]).map Prod.fst).map fun atom => (atom, cs) := by
  simp only [List.mem_cons, List.not_mem_nil, or_false, not_or] at hc
  obtain ⟨hx, hu, hU, hp, hP, hb⟩ := hc
  simp only [escape?]
  split <;> simp_all [Function.comp_def]

lemma prolonging_escape? [PropertyTable] (mode : Mode) :
    Prolonging (escape? mode) (escape? mode) := by
  intro cs x rest h cs' hcs
  cases cs with
  | nil => cases h
  | cons c cs =>
      obtain ⟨ds, rfl, hds⟩ := hcs.exists_cons rfl
      by_cases hc : c ∈ ['x', 'u', 'U', 'p', 'P', 'b']
      · simp only [List.mem_cons, List.not_mem_nil, or_false] at hc
        rcases hc with rfl | rfl | rfl | rfl | rfl | rfl
        · exact prolonging_hexEscape? mode 2 h hds
        · exact prolonging_hexEscape? mode 4 h hds
        · exact prolonging_hexEscape? mode 8 h hds
        · exact prolonging_propertySet? mode false h hds
        · exact prolonging_propertySet? mode true h hds
        · exact prolonging_boundary? mode h hds
      · rw [escape?_cons mode hc] at h
        obtain ⟨atom, hatom, ⟨⟩⟩ := Option.map_eq_some_iff.mp h
        exact ⟨ds, by rw [escape?_cons mode hc, hatom]; rfl, hds⟩

/-! ### Classes -/

lemma Prolonged.head?_eq (h : Prolonged cs cs') (hc : c ≠ ')') :
    (cs'.head? == some c) = (cs.head? == some c) := by
  cases cs with
  | nil =>
      rcases h.nil with rfl | rfl
      · rfl
      · simpa [closing] using hc.symm
  | cons d ds =>
      obtain ⟨es, rfl, -⟩ := h.exists_cons rfl
      rfl

/-- What is no named class must be none in the text prolonged either, as a nested class is read
there instead. -/
lemma namedClass?_append (mode : Mode) (cs : List Char) : namedClass? mode (cs ++ closing) =
    (namedClass? mode cs).map fun (s, rest) => (s, rest ++ closing) := by
  cases cs with
  | nil => rfl
  | cons c cs =>
      by_cases hc : c = ':'
      · subst hc
        have hhead : ((cs ++ closing).head? == some '^') = (cs.head? == some '^') :=
          Prolonged.kept.head?_eq (by decide)
        have hname : (if cs.head? == some '^' then (cs ++ closing).drop 1 else cs ++ closing) =
            (if cs.head? == some '^' then cs.drop 1 else cs) ++ closing := by
          cases cs <;> simp [closing, apply_ite (· ++ [')', '$'])]
        simp only [List.cons_append, namedClass?, hhead, hname]
        generalize (if cs.head? == some '^' then cs.drop 1 else cs) = name
        cases hdrop : name.drop (name.takeWhile (· != ':')).length with
        | nil =>
            rw [drop_takeWhile_eq_nil rfl hdrop]
            rfl
        | cons d rest =>
            rw [takeWhile_closing_of_drop hdrop, drop_takeWhile_closing, hdrop]
            cases rest with
            | nil => simp [closing]
            | cons e rest =>
                simp only [List.cons_append]
                split <;> simp_all [Option.map_map, Function.comp_def]
      · have hnone (ds : List Char) : namedClass? mode (c :: ds) = none := by
          unfold namedClass?
          split
          next heq => exact absurd (List.cons.inj heq).1 hc
          next => rfl
        rw [List.cons_append, hnone, hnone]
        rfl

lemma prolonging_namedClass? (mode : Mode) : Prolonging (namedClass? mode) (namedClass? mode) :=
  prolonging_of_append fun cs x rest h => by rw [namedClass?_append, h]; rfl

lemma Prolonged.namedClass?_eq_none (h : Prolonged cs cs') (hnone : namedClass? mode cs = none) :
    namedClass? mode cs' = none := by
  cases h with
  | kept => rw [namedClass?_append, hnone]; rfl
  | swallowed => exact hnone

lemma classAtom?_cons [PropertyTable] (mode : Mode) (hc : c ≠ '\\') (cs : List Char) :
    classAtom? mode (c :: cs) = some (.literal c, cs) := by
  unfold classAtom?
  split <;> simp_all

lemma prolonging_classAtom? [PropertyTable] (mode : Mode) :
    Prolonging (classAtom? mode) (classAtom? mode) := by
  intro cs x rest h cs' hcs
  cases cs with
  | nil => cases h
  | cons c cs =>
      obtain ⟨ds, rfl, hds⟩ := hcs.exists_cons rfl
      by_cases hc : c = '\\'
      · subst hc
        exact prolonging_escape? mode h hds
      · rw [classAtom?_cons mode hc] at h
        cases h
        exact ⟨ds, classAtom?_cons mode hc ds, hds⟩

lemma beginsRange_of_ne (mode : Mode) (h : ∀ ds, cs ≠ '-' :: ds) :
    beginsRange mode cs = false := by
  unfold beginsRange
  split
  next => exact absurd rfl (h _)
  next => rfl

lemma Prolonged.beginsRange_eq (h : Prolonged cs cs') (mode : Mode) :
    beginsRange mode cs' = beginsRange mode cs := by
  by_cases hminus : ∃ ds, cs = '-' :: ds
  · obtain ⟨ds, rfl⟩ := hminus
    obtain ⟨es, rfl, htail⟩ := h.exists_cons rfl
    rw [beginsRange, beginsRange, htail.peek?_ne mode (by decide), htail.peek?_ne mode (by decide)]
  · have hminus := not_exists.mp hminus
    rw [beginsRange_of_ne mode hminus, beginsRange_of_ne mode (h.ne_cons hminus (by decide))]

lemma prolonging_classRange? [PropertyTable] (mode : Mode) :
    Prolonging (classRange? mode) (classRange? mode) := by
  intro cs x rest h cs' hcs
  obtain ⟨⟨first, more⟩, hfirst, h⟩ := Option.bind_eq_some_iff.mp h
  obtain ⟨more', hfirst', hmore⟩ := prolonging_classAtom? mode hfirst hcs
  have hmore := hmore.skipLayout mode
  simp only [classRange?, hfirst', Option.bind_eq_bind, Option.bind_some, hmore.beginsRange_eq]
  simp only at h
  split at h
  next hrange =>
    rw [if_pos hrange]
    obtain ⟨⟨last, end'⟩, hlast, h⟩ := Option.bind_eq_some_iff.mp h
    obtain ⟨ds, hds⟩ : ∃ ds, mode.skipLayout more = '-' :: ds := by
      by_contra hminus
      rw [beginsRange_of_ne mode (not_exists.mp hminus)] at hrange
      cases hrange
    obtain ⟨es, hes, htail⟩ := hmore.exists_cons hds
    rw [hds] at hlast
    obtain ⟨rest', hlast', hrest⟩ := prolonging_classAtom? mode hlast (htail.skipLayout mode)
    obtain ⟨a, ha, h⟩ := Option.bind_eq_some_iff.mp h
    obtain ⟨b, hb, h⟩ := Option.bind_eq_some_iff.mp h
    obtain ⟨hle, ⟨⟩⟩ := Option.ite_none_right_eq_some.mp h
    refine ⟨rest', ?_, hrest⟩
    simp only [hes, List.drop_succ_cons, List.drop_zero, hlast', ha, hb, Option.bind_some,
      if_pos hle]
  next hrange =>
    rw [if_neg hrange]
    split at h
    next s =>
      cases h
      exact ⟨_, rfl, hmore⟩
    next => cases h
    next c =>
      obtain ⟨a, ha, ⟨⟩⟩ := Option.map_eq_some_iff.mp h
      exact ⟨_, by rw [ha]; rfl, hmore⟩

lemma length_skipLayout_le (mode : Mode) (cs : List Char) :
    (mode.skipLayout cs).length ≤ cs.length := by
  have hgo : ∀ comment, (Mode.skipLayout.go comment cs).length ≤ cs.length := by
    induction cs with
    | nil => exact fun _ => Nat.le_refl _
    | cons c cs ih =>
        intro comment
        rw [Mode.skipLayout.go, List.length_cons]
        split
        · exact Nat.le_succ_of_le (ih _)
        split
        · exact Nat.le_succ_of_le (ih _)
        split
        · exact Nat.le_succ_of_le (ih _)
        · exact Nat.le_refl _
  unfold Mode.skipLayout
  split
  · exact hgo false
  · exact Nat.le_refl _

lemma leadingMinus_of_ne (o : Operand) (h : ∀ ds, cs ≠ '-' :: ds) :
    leadingMinus mode fuel cs o = (o, cs) := by
  unfold leadingMinus
  split
  next => exact absurd rfl (h _)
  next => rfl

lemma leadingMinus_prolonged (o : Operand) (h : Prolonged cs cs') (hfuel : cs.length ≤ fuel)
    (hfuel' : cs'.length ≤ fuel') :
    ∃ o' rest rest', leadingMinus mode fuel cs o = (o', rest) ∧
      leadingMinus mode fuel' cs' o = (o', rest') ∧ Prolonged rest rest' := by
  induction fuel generalizing fuel' cs cs' o with
  | zero =>
      obtain rfl : cs = [] := List.length_eq_zero_iff.mp (Nat.le_zero.mp hfuel)
      have hminus : ∀ ds, cs' ≠ '-' :: ds := h.ne_cons (by simp) (by decide)
      exact ⟨o, [], cs', rfl, leadingMinus_of_ne o hminus, h⟩
  | succ fuel ih =>
      by_cases hminus : ∃ ds, cs = '-' :: ds
      · obtain ⟨ds, rfl⟩ := hminus
        obtain ⟨es, rfl, htail⟩ := h.exists_cons rfl
        rw [List.length_cons] at hfuel hfuel'
        obtain ⟨fuel', rfl⟩ : ∃ k, fuel' = k + 1 := ⟨fuel' - 1, by omega⟩
        have hds := length_skipLayout_le mode ds
        have hes := length_skipLayout_le mode es
        exact ih _ (htail.skipLayout mode) (by omega) (by omega)
      · have hminus := not_exists.mp hminus
        exact ⟨o, cs, cs', leadingMinus_of_ne o hminus,
          leadingMinus_of_ne o (h.ne_cons hminus (by decide)), h⟩

lemma Prolonged.skipCaret (h : Prolonged cs cs') (mode : Mode) :
    Prolonged (if cs.head? == some '^' then mode.skipLayout (cs.drop 1) else cs)
      (if cs.head? == some '^' then mode.skipLayout (cs'.drop 1) else cs') := by
  split
  next hcaret =>
    obtain ⟨ds, rfl⟩ : ∃ ds, cs = '^' :: ds :=
      ⟨cs.tail, (List.cons_head?_tail (beq_iff_eq.mp hcaret)).symm⟩
    obtain ⟨es, rfl, htail⟩ := h.exists_cons rfl
    exact htail.skipLayout mode
  next => exact h

lemma classStart_prolonged (mode : Mode) (h : Prolonged cs cs') :
    ∃ negated o rest rest', classStart mode cs = (negated, o, rest) ∧
      classStart mode cs' = (negated, o, rest') ∧ Prolonged rest rest' := by
  have hcs := h.skipLayout mode
  have hhead : ((mode.skipLayout cs').head? == some '^') =
      ((mode.skipLayout cs).head? == some '^') := hcs.head?_eq (by decide)
  simp only [classStart, hhead]
  generalize mode.skipLayout cs = ds at *
  generalize mode.skipLayout cs' = ds' at *
  have hinside := hcs.skipCaret mode
  generalize (if ds.head? == some '^' then mode.skipLayout (ds.drop 1) else ds) = es at *
  generalize (if ds.head? == some '^' then mode.skipLayout (ds'.drop 1) else ds') = es' at *
  obtain ⟨o, rest, rest', hminus, hminus', hrest⟩ :=
    leadingMinus_prolonged {} hinside (Nat.le_refl _) (Nat.le_refl _)
  rw [hminus, hminus']
  simp only
  by_cases hbracket : o.items = 0 ∧ ∃ ds, rest = ']' :: ds
  · obtain ⟨hitems, ds, rfl⟩ := hbracket
    obtain ⟨es, rfl, htail⟩ := hrest.exists_cons rfl
    rw [hitems]
    exact ⟨_, _, ds, es, rfl, rfl, htail⟩
  · refine ⟨ds.head? == some '^', o, rest, rest', ?_, ?_, hrest⟩
    · split
      next more hitems => exact absurd ⟨hitems, more, rfl⟩ hbracket
      next => rfl
    · split
      next more hitems =>
        obtain ⟨ds, rfl, -⟩ := hrest.of_cons (by decide)
        exact absurd ⟨hitems, ds, rfl⟩ hbracket
      next => rfl

lemma prolonging_classItems? [PropertyTable] (mode : Mode) (hfuel : fuel ≤ fuel') (negated : Bool)
    (waiting : Option Waiting) (o : Operand) :
    Prolonging (classItems? mode negated fuel waiting o)
      (classItems? mode negated fuel' waiting o) := by
  intro cs x rest h cs' hcs
  induction fuel generalizing fuel' negated waiting o cs x rest cs' with
  | zero => cases h
  | succ fuel ih =>
      obtain ⟨fuel', rfl⟩ : ∃ k, fuel' = k + 1 := ⟨fuel' - 1, by omega⟩
      have hfuel : fuel ≤ fuel' := Nat.le_of_succ_le_succ hfuel
      have hskip := hcs.skipLayout mode
      rw [classItems?] at h ⊢
      split at h
      next => cases h
      next more heq =>
        obtain ⟨more', heq', hmore⟩ := hskip.exists_cons heq
        obtain ⟨s, hs, ⟨⟩⟩ := Option.map_eq_some_iff.mp h
        rw [heq']
        exact ⟨more', Option.map_eq_some_iff.mpr ⟨s, hs, rfl⟩, hmore⟩
      next more heq =>
        obtain ⟨more', heq', hmore⟩ := hskip.exists_cons_cons heq
        rw [heq']
        exact ih hfuel _ _ _ h hmore
      next more heq =>
        obtain ⟨more', heq', hmore⟩ := hskip.exists_cons_cons heq
        rw [heq']
        exact ih hfuel _ _ _ h hmore
      next more heq =>
        obtain ⟨more', heq', hmore⟩ := hskip.exists_cons_cons heq
        rw [heq']
        exact ih hfuel _ _ _ h hmore
      next inner heq =>
        obtain ⟨inner', heq', hinner⟩ := hskip.exists_cons heq
        rw [heq']
        simp only
        split at h
        next => cases h
        next t more hnamed =>
          obtain ⟨more', hnamed', hmore⟩ := prolonging_namedClass? mode hnamed hinner
          rw [hnamed']
          exact ih hfuel _ _ _ h hmore
        next hnamed =>
          rw [hinner.namedClass?_eq_none hnamed]
          obtain ⟨negated', start, more, more', hstart, hstart', hmore⟩ :=
            classStart_prolonged mode hinner
          simp only [hstart, hstart'] at h ⊢
          obtain ⟨⟨⟨t, depth⟩, last⟩, ht, h⟩ := Option.bind_eq_some_iff.mp h
          obtain ⟨last', ht', hlast⟩ := ih hfuel _ _ _ ht hmore
          simp only [ht', Option.bind_eq_bind, Option.bind_some]
          exact ih hfuel _ _ _ h hlast
      next hnil hbracket hinter hdiff hsymm hopen =>
        obtain ⟨⟨t, more⟩, ht, h⟩ := Option.bind_eq_some_iff.mp h
        obtain ⟨more', ht', hmore⟩ := prolonging_classRange? mode ht hskip
        obtain ⟨rest', hrest', hrest⟩ := ih hfuel _ _ _ h hmore
        refine ⟨rest', ?_, hrest⟩
        split
        next heq => exact absurd (heq ▸ hskip).eq_nil hnil
        next heq => exact absurd heq (hskip.ne_cons hbracket (by decide) _)
        next heq => exact absurd heq (hskip.ne_cons_cons hinter (by decide) (by decide) _)
        next heq => exact absurd heq (hskip.ne_cons_cons hdiff (by decide) (by decide) _)
        next heq => exact absurd heq (hskip.ne_cons_cons hsymm (by decide) (by decide) _)
        next heq => exact absurd heq (hskip.ne_cons hopen (by decide) _)
        next =>
          simp only [ht', Option.bind_eq_bind, Option.bind_some]
          exact hrest'

lemma prolonging_class? [PropertyTable] (mode : Mode) : Prolonging (class? mode) (class? mode) := by
  intro cs x rest h cs' hcs
  obtain ⟨negated, o, more, more', hstart, hstart', hmore⟩ := classStart_prolonged mode hcs
  simp only [class?, hstart, hstart'] at h ⊢
  exact prolonging_classItems? mode (Nat.succ_le_succ hmore.length_le) negated none o h hmore

end SensorRules.Pattern
