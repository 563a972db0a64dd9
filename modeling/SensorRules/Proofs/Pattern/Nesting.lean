import SensorRules.Proofs.Pattern.Prolonging

/-!
Reading a text inside a group: repetitions, groups, sequences and choices.

* `prolonging_repetitions?` and `prolonging_opening?`: repetitions and the beginnings of groups are
  read in a text prolonged as in the text itself;
* `ProlongingAt`: so are choices, sequences, single parts and groups, of which each reader calls the
  next one a step deeper;
* `prolongingAt`: this holds at every depth, if the text prolonged is read at no smaller one.
-/

namespace SensorRules.Pattern

variable {cs cs' : List Char} {fuel fuel' : Nat} {mode : Mode}

/-! ### Repetitions -/

lemma prolonging_bounds? (mode : Mode) : Prolonging (bounds? mode) (bounds? mode) := by
  intro cs x rest h cs' hcs
  obtain ⟨⟨least, more⟩, hleast, h⟩ := Option.bind_eq_some_iff.mp h
  obtain ⟨more', hleast', hmore⟩ := prolonging_count? hleast (hcs.skipLayout mode)
  have hmore := hmore.skipLayout mode
  simp only [bounds?, hleast', Option.bind_eq_bind, Option.bind_some]
  simp only at h
  split at h
  next last heq =>
    cases h
    obtain ⟨last', heq', hlast⟩ := hmore.exists_cons heq
    rw [heq']
    exact ⟨last', rfl, hlast⟩
  next last heq =>
    obtain ⟨last', heq', hlast⟩ := hmore.exists_cons heq
    have hlast := hlast.skipLayout mode
    rw [heq']
    simp only
    split at h
    next heq =>
      cases h
      obtain ⟨end', heq', hend⟩ := hlast.exists_cons heq
      rw [heq']
      exact ⟨end', rfl, hend⟩
    next hbrace =>
      obtain ⟨⟨most, more⟩, hmost, h⟩ := Option.bind_eq_some_iff.mp h
      obtain ⟨more', hmost', hmore⟩ := prolonging_count? hmost hlast
      have hmore := hmore.skipLayout mode
      simp only at h
      split at h
      next last heq =>
        obtain ⟨hle, ⟨⟩⟩ := Option.ite_none_right_eq_some.mp h
        obtain ⟨rest', heq', hrest⟩ := hmore.exists_cons heq
        refine ⟨rest', ?_, hrest⟩
        split
        next heq => exact absurd heq (hlast.ne_cons hbrace (by decide) _)
        next =>
          simp only [hmost', Option.bind_some, heq', if_pos hle]
      next => cases h
  next => cases h

lemma laziness_of_ne (mode : Mode) (h : ∀ ds, cs ≠ '?' :: ds) :
    laziness mode cs = (mode.lazy, cs) := by
  unfold laziness
  split
  next => exact absurd rfl (h _)
  next => rfl

lemma laziness_prolonged (mode : Mode) (h : Prolonged cs cs') :
    ∃ rest', laziness mode cs' = ((laziness mode cs).1, rest') ∧
      Prolonged (laziness mode cs).2 rest' := by
  by_cases hmark : ∃ ds, cs = '?' :: ds
  · obtain ⟨ds, rfl⟩ := hmark
    obtain ⟨es, rfl, htail⟩ := h.exists_cons rfl
    exact ⟨es, rfl, htail⟩
  · have hmark := not_exists.mp hmark
    rw [laziness_of_ne mode hmark, laziness_of_ne mode (h.ne_cons hmark (by decide))]
    exact ⟨cs', rfl, h⟩

lemma prolonging_repetitions? (mode : Mode) (hfuel : fuel ≤ fuel') (q : Part) :
    Prolonging (repetitions? mode fuel q) (repetitions? mode fuel' q) := by
  intro cs x rest h cs' hcs
  induction fuel generalizing fuel' q cs cs' with
  | zero => cases h
  | succ fuel ih =>
      obtain ⟨fuel', rfl⟩ : ∃ k, fuel' = k + 1 := ⟨fuel' - 1, by omega⟩
      have hskip := hcs.skipLayout mode
      have hgo {least : Nat} {most : Option Nat} {more more' : List Char}
          (hmore : Prolonged more more')
          (h : repetitions? mode fuel (q.repeating least most (laziness mode more).1)
            (laziness mode more).2 = some (x, rest)) :
          ∃ rest', repetitions? mode fuel' (q.repeating least most (laziness mode more').1)
            (laziness mode more').2 = some (x, rest') ∧ Prolonged rest rest' := by
        obtain ⟨last', hlast', hlast⟩ := laziness_prolonged mode hmore
        rw [hlast']
        exact ih (Nat.le_of_succ_le_succ hfuel) _ h hlast
      simp only [repetitions?] at h ⊢
      split at h
      next more heq =>
        obtain ⟨more', heq', hmore⟩ := hskip.exists_cons heq
        rw [heq']
        exact hgo hmore h
      next more heq =>
        obtain ⟨more', heq', hmore⟩ := hskip.exists_cons heq
        rw [heq']
        exact hgo hmore h
      next more heq =>
        obtain ⟨more', heq', hmore⟩ := hskip.exists_cons heq
        rw [heq']
        exact hgo hmore h
      next more heq =>
        obtain ⟨more', heq', hmore⟩ := hskip.exists_cons heq
        rw [heq']
        obtain ⟨⟨⟨least, most⟩, last⟩, hbounds, h⟩ := Option.bind_eq_some_iff.mp h
        obtain ⟨last', hbounds', hlast⟩ := prolonging_bounds? mode hbounds hmore
        simp only [hbounds', Option.bind_eq_bind, Option.bind_some]
        exact hgo (hlast.skipLayout mode) h
      next hmark hstar hplus hbrace =>
        cases h
        refine ⟨mode.skipLayout cs', ?_, hskip⟩
        split
        next heq => exact absurd heq (hskip.ne_cons hmark (by decide) _)
        next heq => exact absurd heq (hskip.ne_cons hstar (by decide) _)
        next heq => exact absurd heq (hskip.ne_cons hplus (by decide) _)
        next heq => exact absurd heq (hskip.ne_cons hbrace (by decide) _)
        next => rfl

/-! ### Groups, sequences and choices -/

lemma beginsRepetition_cons (c : Char) (cs : List Char) :
    beginsRepetition (c :: cs) = (c == '?' || c == '*' || c == '+' || c == '{') := by
  unfold beginsRepetition
  split <;> simp_all

lemma Prolonged.beginsRepetition_eq (h : Prolonged cs cs') :
    beginsRepetition cs' = beginsRepetition cs := by
  cases cs with
  | nil => rcases h.nil with rfl | rfl <;> rfl
  | cons c cs =>
      obtain ⟨ds, rfl, -⟩ := h.exists_cons rfl
      rw [beginsRepetition_cons, beginsRepetition_cons]

lemma prolonging_opening? (mode : Mode) : Prolonging (opening? mode) (opening? mode) := by
  intro cs x rest h cs' hcs
  have hskip := hcs.skipLayout mode
  unfold opening? at h ⊢
  split at h
  next => cases h
  next => cases h
  next => cases h
  next => cases h
  next name heq =>
    obtain ⟨_, heq', hmore⟩ := hskip.exists_cons_cons heq
    obtain ⟨name', rfl, hname⟩ := hmore.exists_cons rfl
    rw [heq']
    exact prolonging_groupName?.map (fun name => Opening.remembered (some name)) h hname
  next name hbehind hnotBehind heq =>
    obtain ⟨name', heq', hname⟩ := hskip.exists_cons_cons heq
    obtain ⟨rest', hrest', hrest⟩ :=
      prolonging_groupName?.map (fun name => Opening.remembered (some name)) h hname
    -- The name does not make a condition on what lies behind of the text prolonged.
    have hbehind' := hname.ne_cons hbehind (by decide)
    have hnotBehind' := hname.ne_cons hnotBehind (by decide)
    refine ⟨rest', ?_, hrest⟩
    rw [heq']
    simp only
    exact hrest'
  next flags hahead hnotAhead hbehind hnotBehind hnamed hnamedSo heq =>
    obtain ⟨flags', heq', hflags⟩ := hskip.exists_cons heq
    -- All the other beginnings with a question mark are ruled out in the text prolonged, too.
    have hahead' := hflags.ne_cons hahead (by decide)
    have hnotAhead' := hflags.ne_cons hnotAhead (by decide)
    have hbehind' := hflags.ne_cons_cons hbehind (by decide) (by decide)
    have hnotBehind' := hflags.ne_cons_cons hnotBehind (by decide) (by decide)
    have hnamed' := hflags.ne_cons_cons hnamed (by decide) (by decide)
    have hnamedSo' := hflags.ne_cons hnamedSo (by decide)
    simp only [heq']
    split at h
    next => cases h
    next mode' given more hflag hread =>
      cases h
      obtain ⟨rest', hread', hrest⟩ := prolonging_flags? mode [] false false hread hflags
      simp only [hread']
      exact ⟨rest', rfl, hrest⟩
    next mode' given last more hend hend' hread =>
      cases h
      obtain ⟨rest', hread', hrest⟩ := prolonging_flags? mode [] false false hread hflags
      simp only [hread']
      exact ⟨rest', rfl, hrest⟩
    next => cases h
  next hmark =>
    cases h
    refine ⟨mode.skipLayout cs', ?_, hskip⟩
    split
    case h_8 => rfl
    all_goals exact absurd ‹_› (hskip.ne_cons hmark (by decide) _)

variable [PropertyTable]

lemma prolonging_simpleItem? (mode : Mode) :
    Prolonging (simpleItem? mode) (simpleItem? mode) := by
  intro cs x rest h cs' hcs
  unfold simpleItem? at h
  split at h
  next => cases h
  next cs =>
    obtain ⟨ds, rfl, hds⟩ := hcs.exists_cons rfl
    exact (prolonging_escape? mode).map (Atom.toPart mode) h hds
  next cs =>
    obtain ⟨ds, rfl, hds⟩ := hcs.exists_cons rfl
    exact (prolonging_class? mode).map (fun s => Part.ofSet mode.ascii s.1 s.2) h hds
  next cs =>
    obtain ⟨ds, rfl, hds⟩ := hcs.exists_cons rfl
    obtain ⟨s, hs, ⟨⟩⟩ := Option.map_eq_some_iff.mp h
    exact ⟨ds, by simp only [simpleItem?, hs, Option.map_some], hds⟩
  next cs =>
    obtain ⟨ds, rfl, hds⟩ := hcs.exists_cons rfl
    cases h
    exact ⟨ds, rfl, hds⟩
  next cs =>
    obtain ⟨ds, rfl, hds⟩ := hcs.exists_cons rfl
    cases h
    exact ⟨ds, rfl, hds⟩
  next c cs hescape hclass hdot hstart hend =>
    obtain ⟨ds, rfl, hds⟩ := hcs.exists_cons rfl
    obtain ⟨hrepetition, ⟨⟩⟩ := Option.ite_none_left_eq_some.mp h
    rw [beginsRepetition_cons, ← beginsRepetition_cons c ds] at hrepetition
    refine ⟨ds, ?_, hds⟩
    rw [simpleItem?, if_neg hrepetition] <;> assumption

/-- A part that is no group, with its repetitions. -/
lemma item?_of_ne (fuel : Nat) (scope : Scope) (h : ∀ ds, cs ≠ '(' :: ds) :
    item? (fuel + 1) scope cs = (do
      let (p, rest) ← simpleItem? scope.mode cs
      let (p, rest) ← repetitions? scope.mode (rest.length + 1) p rest
      some ((p, scope), rest)) := by
  rw [item?]
  exact h

/-- With two depths of reading, what all readers of groups, sequences and choices read of a text at
the first they read of the text prolonged at the second. -/
structure ProlongingAt (fuel fuel' : Nat) : Prop where
  alternatives : ∀ scope, Prolonging (alternatives? fuel scope) (alternatives? fuel' scope)
  sequence : ∀ scope, Prolonging (sequence? fuel scope) (sequence? fuel' scope)
  item : ∀ scope, Prolonging (item? fuel scope) (item? fuel' scope)
  group : ∀ number outer inner,
    Prolonging (group? fuel number outer inner) (group? fuel' number outer inner)

namespace ProlongingAt

lemma alternatives_succ (ih : ProlongingAt fuel fuel') (scope : Scope) :
    Prolonging (alternatives? (fuel + 1) scope) (alternatives? (fuel' + 1) scope) := by
  intro cs x rest h cs' hcs
  rw [alternatives?] at h ⊢
  obtain ⟨⟨⟨ps, scope'⟩, more⟩, hps, h⟩ := Option.bind_eq_some_iff.mp h
  obtain ⟨more', hps', hmore⟩ := ih.sequence scope hps hcs
  simp only [hps', Option.bind_eq_bind, Option.bind_some]
  simp only at h
  split at h
  next last =>
    obtain ⟨last', rfl, hlast⟩ := hmore.exists_cons rfl
    obtain ⟨⟨⟨qs, scope''⟩, rest⟩, hqs, ⟨⟩⟩ := Option.bind_eq_some_iff.mp h
    obtain ⟨rest', hqs', hrest⟩ := ih.alternatives scope' hqs hlast
    exact ⟨rest', by simp only [hqs', Option.bind_some], hrest⟩
  next hbar =>
    cases h
    refine ⟨more', ?_, hmore⟩
    split
    next heq => exact absurd rfl (hmore.ne_cons hbar (by decide) _)
    next => rfl

lemma sequence_succ (ih : ProlongingAt fuel fuel') (scope : Scope) :
    Prolonging (sequence? (fuel + 1) scope) (sequence? (fuel' + 1) scope) := by
  intro cs x rest h cs' hcs
  have hskip := hcs.skipLayout scope.mode
  rw [sequence?] at h ⊢
  split at h
  next heq =>
    cases h
    -- After the end of the text the closing bracket of the group may stand, or nothing.
    rw [heq] at hskip
    rcases hskip.nil with heq' | heq'
    · rw [heq']
      exact ⟨[], rfl, .swallowed⟩
    · rw [heq']
      exact ⟨closing, rfl, .kept⟩
  next last heq =>
    cases h
    obtain ⟨last', heq', hlast⟩ := hskip.exists_cons heq
    rw [heq']
    exact ⟨_, rfl, hlast.cons _⟩
  next last heq =>
    cases h
    obtain ⟨last', heq', hlast⟩ := hskip.exists_cons heq
    rw [heq']
    exact ⟨_, rfl, hlast.cons _⟩
  next hnil hbar hbracket =>
    obtain ⟨⟨⟨p, scope'⟩, more⟩, hp, h⟩ := Option.bind_eq_some_iff.mp h
    obtain ⟨more', hp', hmore⟩ := ih.item scope hp hskip
    obtain ⟨⟨⟨ps, scope''⟩, rest⟩, hps, ⟨⟩⟩ := Option.bind_eq_some_iff.mp h
    obtain ⟨rest', hps', hrest⟩ := ih.sequence scope' hps hmore
    refine ⟨rest', ?_, hrest⟩
    obtain ⟨c, ds, heq⟩ := List.exists_cons_of_ne_nil hnil
    obtain ⟨ds', heq', -⟩ := hskip.exists_cons heq
    split
    next hnil' => cases heq'.symm.trans hnil'
    next hbar' => exact absurd hbar' (hskip.ne_cons hbar (by decide) _)
    next hbracket' =>
      cases heq'.symm.trans hbracket'
      exact absurd heq (hbracket ds)
    next => simp only [hp', hps', Option.bind_eq_bind, Option.bind_some]

lemma item_succ (ih : ProlongingAt fuel fuel') (scope : Scope) :
    Prolonging (item? (fuel + 1) scope) (item? (fuel' + 1) scope) := by
  intro cs x rest h cs' hcs
  by_cases hopen : ∃ ds, cs = '(' :: ds
  · obtain ⟨ds, rfl⟩ := hopen
    obtain ⟨ds', rfl, hds⟩ := hcs.exists_cons rfl
    rw [item?] at h ⊢
    obtain ⟨⟨opening, more⟩, hopening, h⟩ := Option.bind_eq_some_iff.mp h
    obtain ⟨more', hopening', hmore⟩ := prolonging_opening? scope.mode hopening hds
    simp only [hopening', Option.bind_eq_bind, Option.bind_some]
    cases opening with
    | directive mode =>
        simp only at h ⊢
        rw [(hmore.skipLayout mode).beginsRepetition_eq]
        obtain ⟨hrepetition, ⟨⟩⟩ := Option.ite_none_left_eq_some.mp h
        exact ⟨more', if_neg hrepetition, hmore⟩
    | plain mode => exact ih.group _ _ _ h hmore
    | remembered name =>
        simp only at h ⊢
        obtain ⟨hname, h⟩ := Option.ite_none_left_eq_some.mp h
        rw [if_neg hname]
        exact ih.group _ _ _ h hmore
  · have hopen := not_exists.mp hopen
    rw [item?_of_ne fuel scope hopen] at h
    rw [item?_of_ne fuel' scope (hcs.ne_cons hopen (by decide))]
    obtain ⟨⟨p, more⟩, hp, h⟩ := Option.bind_eq_some_iff.mp h
    obtain ⟨more', hp', hmore⟩ := prolonging_simpleItem? scope.mode hp hcs
    obtain ⟨⟨q, rest⟩, hq, ⟨⟩⟩ := Option.bind_eq_some_iff.mp h
    have hlength := Nat.succ_le_succ hmore.length_le
    obtain ⟨rest', hq', hrest⟩ := prolonging_repetitions? scope.mode hlength p hq hmore
    exact ⟨rest', by simp only [hp', hq', Option.bind_eq_bind, Option.bind_some], hrest⟩

lemma group_succ (ih : ProlongingAt fuel fuel') (number : Option Nat) (outer inner : Scope) :
    Prolonging (group? (fuel + 1) number outer inner) (group? (fuel' + 1) number outer inner) := by
  intro cs x rest h cs' hcs
  rw [group?] at h ⊢
  obtain ⟨⟨⟨ps, inner'⟩, more⟩, hps, h⟩ := Option.bind_eq_some_iff.mp h
  obtain ⟨more', hps', hmore⟩ := ih.alternatives inner hps hcs
  simp only [hps', Option.bind_eq_bind, Option.bind_some]
  simp only at h
  split at h
  next last =>
    obtain ⟨last', rfl, hlast⟩ := hmore.exists_cons rfl
    obtain ⟨⟨p, rest⟩, hp, ⟨⟩⟩ := Option.bind_eq_some_iff.mp h
    have hlength := Nat.succ_le_succ hlast.length_le
    obtain ⟨rest', hp', hrest⟩ := prolonging_repetitions? outer.mode hlength _ hp hlast
    exact ⟨rest', by simp only [hp', Option.bind_some], hrest⟩
  next => cases h

end ProlongingAt

/-- By induction on the depth at which the text itself is read. -/
lemma prolongingAt (hfuel : fuel ≤ fuel') : ProlongingAt fuel fuel' := by
  induction fuel generalizing fuel' with
  | zero =>
      constructor
      · rintro scope cs x rest ⟨⟩
      · rintro scope cs x rest ⟨⟩
      · rintro scope cs x rest ⟨⟩
      · rintro number outer inner cs x rest ⟨⟩
  | succ fuel ih =>
      obtain ⟨fuel', rfl⟩ : ∃ k, fuel' = k + 1 := ⟨fuel' - 1, by omega⟩
      have ih := ih (Nat.le_of_succ_le_succ hfuel)
      exact ⟨ih.alternatives_succ, ih.sequence_succ, ih.item_succ, ih.group_succ⟩

end SensorRules.Pattern
