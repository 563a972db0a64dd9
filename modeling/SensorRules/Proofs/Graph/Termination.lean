import SensorRules.Proofs.Graph.Visit

/-!
Visits end, loops or not.

* `Arrival` and `Trip`: a visit as a whole, with all arrivals at rules that it makes, its own and
  those of the visits within it;
* `Trip.Row` and `RuleNode.Looks`: the visits to the preconditions of a rule, one after the other;
* `RuleGraph.IsTrip`: the rules for visits, without a bound on how deep they may nest;
* `RuleGraph.IsTrip.isPath`: on every arrival the positions on the way are positions of rules, none
  twice, so visits nest no deeper than there are rules (`IsPath.length_le`);
* `RuleGraph.exists_isTrip`: so each visit comes to an end, with the verdict and the cache of
  `RuleGraph.visit` for every depth that leaves room for the rules not yet on the way;
* `RuleGraph.IsTrip.unique`: and it has one course only;
* `RuleGraph.visit_terminates`: all this for the visits that are made directly.
-/

namespace SensorRules

/-! ### Trips -/

/-- An arrival at a position: how deep the visits nest there, and the positions on the way. -/
structure Arrival where
  level : Nat
  path : List Nat
  position : Nat

/-- A visit as a whole. -/
structure Trip where
  position : Nat
  /-- What is known before. -/
  before : Cache
  verdict : Verdict
  /-- What is known afterwards. -/
  after : Cache
  /-- All arrivals, that at the position first. -/
  arrivals : List Arrival

/-- Trips to positions, one after the other, up to the first whose verdict is `stopAt`: whether that
is so of the last one or not, the trips, the answer and what is known afterwards. -/
inductive Trip.Row (stopAt : Bool) : List Nat → Cache → List Trip → Bool → Cache → Prop
  | nil {c : Cache} : Row stopAt [] c [] (!stopAt) c
  | stop {t : Trip} {js : List Nat} :
      t.verdict.ok = stopAt → Row stopAt (t.position :: js) t.before [t] stopAt t.after
  | next {t : Trip} {js : List Nat} {ts : List Trip} {answer : Bool} {c : Cache} :
      t.verdict.ok = !stopAt → Row stopAt js t.after ts answer c →
      Row stopAt (t.position :: js) t.before (t :: ts) answer c

/-- The trips to the preconditions of a rule: to those that must all be met, up to the first that is
not, and then to those of which one must be met, up to the first that is. -/
inductive RuleNode.Looks (n : RuleNode) (c : Cache) : List Trip → Bool → Cache → Prop
  | notAll {ts : List Trip} {c' : Cache} :
      Trip.Row false n.allOf c ts false c' → Looks n c ts false c'
  | noneAsked {ts : List Trip} {c' : Cache} :
      Trip.Row false n.allOf c ts true c' → n.anyOf = [] → Looks n c ts true c'
  | some {ts us : List Trip} {c' c'' : Cache} {answer : Bool} :
      Trip.Row false n.allOf c ts true c' → n.anyOf ≠ [] → Trip.Row true n.anyOf c' us answer c'' →
      Looks n c (ts ++ us) answer c''

namespace RuleGraph

/-- A visit along a path, by the rules for visits alone. -/
inductive IsTrip (g : RuleGraph) (setting : Setting) : Nat → List Nat → Trip → Prop
  /-- The rule is reached again on its own way. -/
  | loop {level i : Nat} {path : List Nat} {c : Cache} : i ∈ path →
      IsTrip g setting level path ⟨i, c, g.loopVerdict path i, c, [⟨level, path, i⟩]⟩
  /-- The verdict is known. -/
  | known {level i : Nat} {path : List Nat} {c : Cache} {v : Verdict} : i ∉ path →
      c.known? i = some v → IsTrip g setting level path ⟨i, c, v, c, [⟨level, path, i⟩]⟩
  /-- There is no rule. -/
  | missing {level i : Nat} {path : List Nat} {c : Cache} : i ∉ path → c.known? i = none →
      g.nodes[i]? = none →
      IsTrip g setting level path ⟨i, c, .violated ∅, c, [⟨level, path, i⟩]⟩
  /-- The preconditions of the rule are looked at one level deeper, with the rule on the way. -/
  | node {level i : Nat} {path : List Nat} {c c' : Cache} {n : RuleNode} {ts : List Trip}
      {holds : Bool} : i ∉ path → c.known? i = none → g.nodes[i]? = some n →
      (∀ t ∈ ts, IsTrip g setting (level + 1) (i :: path) t) → n.Looks c ts holds c' →
      IsTrip g setting level path
        ⟨i, c, nodeVerdict setting n holds, c'.set i (some (nodeVerdict setting n holds)),
          ⟨level, path, i⟩ :: ts.flatMap Trip.arrivals⟩

/-! ### Rows of trips -/

section Row

variable {visit : Nat → Cache → Verdict × Cache} {stopAt answer answer' : Bool} {js : List Nat}
  {c c' c'' : Cache} {ts ts' : List Trip} {n : RuleNode} {P : Trip → Prop}

/-- The look at rules one after the other, up to the first whose verdict is `stopAt`. -/
def lookUntil (visit : Nat → Cache → Verdict × Cache) (stopAt : Bool) :
    List Nat → Cache → Bool × Cache
  | [], c => (!stopAt, c)
  | j :: js, c =>
    if (visit j c).1.ok = stopAt then (stopAt, (visit j c).2)
    else lookUntil visit stopAt js (visit j c).2

lemma allHold_eq_lookUntil : allHold visit js c = lookUntil visit false js c := by
  induction js generalizing c with
  | nil => rfl
  | cons j js ih =>
      rw [allHold_cons, lookUntil]
      cases (visit j c).1.ok with
      | true => exact ih
      | false => rfl

lemma someHolds_eq_lookUntil : someHolds visit js c = lookUntil visit true js c := by
  induction js generalizing c with
  | nil => rfl
  | cons j js ih =>
      rw [someHolds_cons, lookUntil]
      cases (visit j c).1.ok with
      | true => rfl
      | false => exact ih

lemma row_lookUntil (stopAt : Bool)
    (h : ∀ j ∈ js, ∀ c, ∃ as, P ⟨j, c, (visit j c).1, (visit j c).2, as⟩) (c : Cache) :
    ∃ ts, (∀ t ∈ ts, P t) ∧
      Trip.Row stopAt js c ts (lookUntil visit stopAt js c).1 (lookUntil visit stopAt js c).2 := by
  induction js generalizing c with
  | nil => exact ⟨[], by simp, .nil⟩
  | cons j js ih =>
      obtain ⟨as, ht⟩ := h j List.mem_cons_self c
      rw [lookUntil]
      by_cases hok : (visit j c).1.ok = stopAt
      · rw [if_pos hok]
        exact ⟨[_], by simpa using ht, .stop (t := ⟨j, c, _, _, as⟩) hok⟩
      · obtain ⟨ts, hts, hrow⟩ := ih (fun k hk => h k (List.mem_cons_of_mem j hk)) (visit j c).2
        rw [if_neg hok]
        exact ⟨_ :: ts, List.forall_mem_cons.mpr ⟨ht, hts⟩,
          .next (t := ⟨j, c, _, _, as⟩) (Bool.eq_not_of_ne hok) hrow⟩

/-- If the visits to the preconditions of a rule are trips, so is the look at them. -/
lemma exists_looks
    (h : ∀ j, j ∈ n.allOf ∨ j ∈ n.anyOf → ∀ c, ∃ as, P ⟨j, c, (visit j c).1, (visit j c).2, as⟩) :
    ∃ ts, (∀ t ∈ ts, P t) ∧
      n.Looks c ts (preconditionsHold visit n c).1 (preconditionsHold visit n c).2 := by
  obtain ⟨ts, hts, hall⟩ := row_lookUntil false (fun j hj => h j (.inl hj)) c
  rw [← allHold_eq_lookUntil] at hall
  rw [preconditionsHold_eq]
  cases hb : (allHold visit n.allOf c).1 with
  | false =>
      rw [hb] at hall
      exact ⟨ts, hts, .notAll hall⟩
  | true =>
      rw [hb] at hall
      by_cases hnil : n.anyOf = []
      · simp only [hnil, List.isEmpty_nil, Bool.not_true, Bool.false_eq_true, if_false, if_true]
        exact ⟨ts, hts, .noneAsked hall hnil⟩
      · obtain ⟨us, hus, hsome⟩ :=
          row_lookUntil true (fun j hj => h j (.inr hj)) (allHold visit n.allOf c).2
        have hne : n.anyOf.isEmpty = false := by simpa using hnil
        simp only [hne, Bool.not_true, Bool.false_eq_true, if_false, someHolds_eq_lookUntil]
        exact ⟨ts ++ us, List.forall_mem_append.mpr ⟨hts, hus⟩, .some hall hnil hsome⟩

lemma position_mem_of_row (h : Trip.Row stopAt js c ts answer c') :
    ∀ t ∈ ts, t.position ∈ js := by
  induction h with
  | nil => simp
  | stop _ => simp
  | next _ _ ih =>
      intro u hu
      rcases List.mem_cons.mp hu with rfl | hu
      · exact List.mem_cons_self
      · exact List.mem_cons_of_mem _ (ih u hu)

lemma position_mem_of_looks (h : n.Looks c ts answer c') :
    ∀ t ∈ ts, t.position ∈ n.allOf ∨ t.position ∈ n.anyOf := by
  intro t ht
  cases h with
  | notAll hall => exact .inl (position_mem_of_row hall t ht)
  | noneAsked hall _ => exact .inl (position_mem_of_row hall t ht)
  | some hall _ hsome =>
      rcases List.mem_append.mp ht with ht | ht
      · exact .inl (position_mem_of_row hall t ht)
      · exact .inr (position_mem_of_row hsome t ht)

lemma row_cons {j : Nat} (h : Trip.Row stopAt (j :: js) c ts answer c') :
    ∃ t us, ts = t :: us ∧ t.position = j ∧ t.before = c ∧
      (t.verdict.ok = stopAt ∧ us = [] ∧ answer = stopAt ∧ c' = t.after ∨
        t.verdict.ok = !stopAt ∧ Trip.Row stopAt js t.after us answer c') := by
  cases h with
  | @stop t _ hok => exact ⟨t, [], rfl, rfl, rfl, .inl ⟨hok, rfl, rfl, rfl⟩⟩
  | @next t _ us _ _ hok hrow => exact ⟨t, us, rfl, rfl, rfl, .inr ⟨hok, hrow⟩⟩

/-- If each of the trips is decided by where it starts, so is the row. -/
lemma row_unique (h : Trip.Row stopAt js c ts answer c')
    (h' : Trip.Row stopAt js c ts' answer' c'')
    (hts : ∀ t ∈ ts, ∀ u ∈ ts', t.position = u.position → t.before = u.before → t = u) :
    ts = ts' ∧ answer = answer' ∧ c' = c'' := by
  induction js generalizing c ts ts' with
  | nil =>
      cases h
      cases h'
      exact ⟨rfl, rfl, rfl⟩
  | cons j js ih =>
      obtain ⟨t, us, rfl, hj, hc, hcases⟩ := row_cons h
      obtain ⟨u, vs, rfl, hj', hc', hcases'⟩ := row_cons h'
      obtain rfl : t = u :=
        hts t List.mem_cons_self u List.mem_cons_self (hj.trans hj'.symm) (hc.trans hc'.symm)
      rcases hcases with ⟨hok, rfl, rfl, rfl⟩ | ⟨hok, hrow⟩
      · rcases hcases' with ⟨-, rfl, rfl, rfl⟩ | ⟨hok', -⟩
        · exact ⟨rfl, rfl, rfl⟩
        · simp [hok] at hok'
      · rcases hcases' with ⟨hok', -⟩ | ⟨-, hrow'⟩
        · simp [hok] at hok'
        · obtain ⟨rfl, hanswer, hafter⟩ := ih hrow hrow' fun t ht u hu =>
            hts t (List.mem_cons_of_mem _ ht) u (List.mem_cons_of_mem _ hu)
          exact ⟨rfl, hanswer, hafter⟩

lemma looks_unique (h : n.Looks c ts answer c') (h' : n.Looks c ts' answer' c'')
    (hts : ∀ t ∈ ts, ∀ u ∈ ts', t.position = u.position → t.before = u.before → t = u) :
    ts = ts' ∧ answer = answer' ∧ c' = c'' := by
  cases h with
  | notAll hall =>
      cases h' with
      | notAll hall' => exact row_unique hall hall' hts
      | noneAsked hall' _ => exact nomatch (row_unique hall hall' hts).2.1
      | some hall' _ _ =>
          exact nomatch (row_unique hall hall' fun t ht u hu =>
            hts t ht u (List.mem_append_left _ hu)).2.1
  | noneAsked hall hnil =>
      cases h' with
      | notAll hall' => exact nomatch (row_unique hall hall' hts).2.1
      | noneAsked hall' _ => exact row_unique hall hall' hts
      | some _ hne _ => exact absurd hnil hne
  | some hall hne hsome =>
      cases h' with
      | notAll hall' =>
          exact nomatch (row_unique hall hall' fun t ht =>
            hts t (List.mem_append_left _ ht)).2.1
      | noneAsked _ hnil => exact absurd hnil hne
      | some hall' _ hsome' =>
          obtain ⟨rfl, -, rfl⟩ := row_unique hall hall' fun t ht u hu =>
            hts t (List.mem_append_left _ ht) u (List.mem_append_left _ hu)
          obtain ⟨rfl, hanswer, hafter⟩ := row_unique hsome hsome' fun t ht u hu =>
            hts t (List.mem_append_right _ ht) u (List.mem_append_right _ hu)
          exact ⟨rfl, hanswer, hafter⟩

end Row

/-! ### Visits -/

variable {g : RuleGraph} {setting : Setting} {level depth i : Nat} {path : List Nat} {c : Cache}
  {t u : Trip}

/-- **On every arrival** the positions on the way are positions of rules, none twice, and as many as
there are visits around it. -/
theorem IsTrip.isPath (h : g.IsTrip setting level path t) (hpath : g.IsPath path t.position)
    (hlevel : level = path.length + 1) :
    ∀ a ∈ t.arrivals, g.IsPath a.path a.position ∧ a.level = a.path.length + 1 := by
  induction h with
  | loop _ => simpa using ⟨hpath, hlevel⟩
  | known _ _ => simpa using ⟨hpath, hlevel⟩
  | missing _ _ _ => simpa using ⟨hpath, hlevel⟩
  | @node level i path c c' n ts holds hi _ hn _ hlooks ih =>
      refine List.forall_mem_cons.mpr ⟨⟨hpath, hlevel⟩, fun a ha => ?_⟩
      obtain ⟨t, ht, ha⟩ := List.mem_flatMap.mp ha
      have hneeds : g.Needs i t.position := needs_of_mem hn (position_mem_of_looks hlooks t ht)
      exact ih t ht (hpath.step hi hneeds) (by simp [hlevel]) a ha

/-- Where a visit starts decides its whole course. -/
theorem IsTrip.unique (h : g.IsTrip setting level path t) (h' : g.IsTrip setting level path u)
    (hposition : t.position = u.position) (hbefore : t.before = u.before) : t = u := by
  induction h generalizing u with
  | loop _ => cases h' <;> simp_all
  | known _ _ => cases h' <;> simp_all
  | missing _ _ _ => cases h' <;> simp_all
  | node _ _ hn hts hlooks ih =>
      cases h' with
      | node _ _ hn' hts' hlooks' =>
          dsimp only at hposition hbefore
          subst hposition hbefore
          obtain rfl := Option.some.inj (hn.symm.trans hn')
          obtain ⟨rfl, rfl, rfl⟩ :=
            looks_unique hlooks hlooks' fun t ht u hu => ih t ht (hts' u hu)
          rfl
      | _ => simp_all

/-- **A visit comes to an end** if there is room for all rules that are not on its way. -/
theorem exists_isTrip (setting : Setting) (hpath : g.IsPath path i)
    (hdepth : g.size < depth + path.length) (level : Nat) (c : Cache) :
    ∃ as, g.IsTrip setting level path ⟨i, c, (g.visit setting depth path i c).1,
      (g.visit setting depth path i c).2, as⟩ := by
  induction depth generalizing path i level c with
  | zero =>
      have := hpath.length_le
      omega
  | succ depth ih =>
      by_cases hi : i ∈ path
      · rw [visit_of_mem hi]
        exact ⟨_, .loop hi⟩
      cases hv : c.known? i with
      | some v =>
          rw [visit_of_known hi hv]
          exact ⟨_, .known hi hv⟩
      | none =>
          cases hn : g.nodes[i]? with
          | none =>
              rw [visit_of_missing hi hv hn]
              exact ⟨_, .missing hi hv hn⟩
          | some n =>
              have htrip : ∀ j, j ∈ n.allOf ∨ j ∈ n.anyOf → ∀ c, ∃ as,
                  g.IsTrip setting (level + 1) (i :: path)
                    ⟨j, c, (g.visit setting depth (i :: path) j c).1,
                      (g.visit setting depth (i :: path) j c).2, as⟩ := by
                intro j hj c
                have hroom : g.size < depth + (i :: path).length := by
                  rw [List.length_cons]
                  omega
                exact ih (hpath.step hi (needs_of_mem hn hj)) hroom (level + 1) c
              obtain ⟨ts, hts, hlooks⟩ := exists_looks htrip
              rw [visit_of_node hi hv hn]
              exact ⟨_, .node hi hv hn hts hlooks⟩

/-- **Visits end**, loops or not. A visit that is made directly, with anything known before, has
just one course by the rules for visits, in which no bound is set to how deep they nest. Whenever it
arrives at a rule, the positions on the way are positions of rules, none twice, and visits nest no
deeper than one above the number of rules. Every depth from there on leads to the verdict and the
cache of this course. -/
theorem visit_terminates (g : RuleGraph) (setting : Setting) (i : Nat) (c : Cache) :
    ∃ v c' as, g.IsTrip setting 1 [] ⟨i, c, v, c', as⟩ ∧
      (∀ t, g.IsTrip setting 1 [] t → t.position = i → t.before = c → t = ⟨i, c, v, c', as⟩) ∧
      (∀ a ∈ as, a.path.Nodup ∧ (∀ k ∈ a.path, k < g.size) ∧ a.level = a.path.length + 1 ∧
        a.level ≤ g.size + 1) ∧
      ∀ depth, g.size + 1 ≤ depth → g.visit setting depth [] i c = (v, c') := by
  have hends : ∀ depth, g.size + 1 ≤ depth → ∃ as, g.IsTrip setting 1 []
      ⟨i, c, (g.visit setting depth [] i c).1, (g.visit setting depth [] i c).2, as⟩ :=
    fun depth hdepth => exists_isTrip setting .nil (by rw [List.length_nil]; omega) 1 c
  obtain ⟨as, htrip⟩ := hends (g.size + 1) le_rfl
  refine ⟨_, _, as, htrip, fun t ht hi hc => ht.unique htrip hi hc, fun a ha => ?_,
    fun depth hdepth => ?_⟩
  · obtain ⟨hpath, hlevel⟩ := htrip.isPath .nil rfl a ha
    have hlength := hpath.length_le
    exact ⟨hpath.nodup, hpath.lt_size, hlevel, by omega⟩
  · obtain ⟨as', htrip'⟩ := hends depth hdepth
    have heq := htrip'.unique htrip rfl rfl
    simp only [Trip.mk.injEq] at heq
    exact Prod.ext heq.2.2.1 heq.2.2.2.1

end RuleGraph

end SensorRules
