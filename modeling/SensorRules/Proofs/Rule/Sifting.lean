import SensorRules.Proofs.Rule.Gating

/-!
Repeated names and expressions that cannot be read are left out twice: when rules are loaded, and
when a graph is built. Loading takes a rule that cannot be read to have used up its name, and the
graph does not.

* `RuleGraph.ofRules_eq_iff`: a graph is determined by the rules that stand in it;
* `Rule.Masked`: the first rule of a name cannot be read;
* `Rule.kept_eq_filter`: of the rules that stand in the graph of a list, loading keeps those whose
  names are not masked;
* `RuleSet.graph_of_ofText`: so the graph of the rules that are loaded is that of all rules of the
  text just if no rule that can be read has a masked name;
* `RuleSet.masking_matters`: and it need not be.
-/

namespace SensorRules

namespace RuleGraph

variable {rs rs' : List Rule} {taken : NameSet} {r : Rule} {e : Rule × Expression}

/-- What is taken into a graph is found again from its rules. -/
lemma filterMap_entry?_select :
    ((select taken rs).map Prod.fst).filterMap entry? = select taken rs := by
  have hentry : ∀ e ∈ select taken rs, entry? e.1 = some e := by
    intro e he
    have hread : Expression.read e.1.expression = .ok e.2 := read_of_mem_select he
    simp [hread, entry?, Except.toOption]
  rw [List.filterMap_map]
  exact (List.filterMap_congr hentry).trans List.filterMap_some

/-- Two graphs that are built are equal if they have the same rules in the same order. -/
lemma ofRules_eq_iff : ofRules rs = ofRules rs' ↔
    (ofRules rs).nodes.map RuleNode.rule = (ofRules rs').nodes.map RuleNode.rule := by
  refine ⟨fun h => by rw [h], fun h => ?_⟩
  rw [rules_ofRules, rules_ofRules] at h
  have hselect : select ∅ rs = select ∅ rs' := by
    calc select ∅ rs
        = ((select ∅ rs).map Prod.fst).filterMap entry? := filterMap_entry?_select.symm
      _ = ((select ∅ rs').map Prod.fst).filterMap entry? := by rw [h]
      _ = select ∅ rs' := filterMap_entry?_select
  simp only [ofRules, hselect]

/-- If a rule can be read, some rule of its name is taken. -/
lemma exists_mem_select_of_readable (hr : r ∈ rs) (hread : r.Readable) (htaken : r.name ∉ taken) :
    ∃ e ∈ select taken rs, e.1.name = r.name := by
  fun_induction select taken rs with
  | case1 => simp at hr
  | case2 taken r' rs hr' ih =>
      rcases List.mem_cons.mp hr with rfl | hr
      · exact absurd hr' htaken
      · exact ih hr htaken
  | case3 taken r' rs _ x _ ih =>
      by_cases hname : r'.name = r.name
      · exact ⟨(r', x), List.mem_cons_self, hname⟩
      · have hlater : r ∈ rs := by
          rcases List.mem_cons.mp hr with rfl | hr
          · exact absurd rfl hname
          · exact hr
        have htaken' : r.name ∉ taken.insert r'.name := by simp [hname, htaken]
        obtain ⟨e, he, hname'⟩ := ih hlater htaken'
        exact ⟨e, List.mem_cons_of_mem _ he, hname'⟩
  | case4 taken r' rs _ x hx ih =>
      rcases List.mem_cons.mp hr with rfl | hr
      · exact absurd hread (Rule.not_readable_of_error hx)
      · exact ih hr htaken

end RuleGraph

namespace Rule

variable {rs : List Rule} {taken seen : NameSet} {r r' : Rule} {name : String}

instance : DecidablePred Readable := fun r =>
  match h : Expression.read r.expression with
  | .ok e => .isTrue ⟨e, h⟩
  | .error _ => .isFalse (not_readable_of_error h)

/-- The first rule of a name cannot be read. -/
def Masked (rs : List Rule) (name : String) : Prop :=
  ∃ r ∈ rs.find? (·.name == name), ¬ r.Readable

instance (rs : List Rule) (name : String) : Decidable (Masked rs name) :=
  inferInstanceAs (Decidable (∃ r ∈ rs.find? (·.name == name), ¬ r.Readable))

lemma masked_cons_self : Masked (r :: rs) r.name ↔ ¬ r.Readable := by
  simp [Masked]

lemma masked_cons_of_ne (h : r.name ≠ name) : Masked (r :: rs) name ↔ Masked rs name := by
  simp [Masked, h]

lemma kept_cons : kept seen (r :: rs) =
    if r.name ∉ seen ∧ r.Readable then r :: kept (seen.insert r.name) rs
    else kept (seen.insert r.name) rs := by
  split
  next h => exact kept_cons_of_loaded (status_eq_loaded_iff.mpr h)
  next h => exact kept_cons_of_skipped (mt status_eq_loaded_iff.mp h)

/-- Of the later rules that are taken, those with the name of a rule that was taken, seen before or
not read do not count, whether the name is taken to be seen or to be masked. -/
lemma filter_select_cons (h : r.name ∈ taken ∨ r.name ∈ seen ∨ ¬ r.Readable) :
    ((RuleGraph.select taken rs).map Prod.fst).filter
        (fun r' => r'.name ∉ seen.insert r.name ∧ ¬ Masked rs r'.name) =
      ((RuleGraph.select taken rs).map Prod.fst).filter
        fun r' => r'.name ∉ seen ∧ ¬ Masked (r :: rs) r'.name := by
  refine List.filter_congr fun r' hr' => decide_eq_decide.mpr ?_
  obtain ⟨e, he, rfl⟩ := List.mem_map.mp hr'
  have htaken : e.1.name ∉ taken := RuleGraph.name_notMem_of_mem_select he
  rw [NameSet.mem_insert]
  by_cases hname : r.name = e.1.name
  · rw [← hname] at htaken ⊢
    have hout : r.name ∈ seen ∨ ¬ r.Readable := h.resolve_left htaken
    rw [masked_cons_self]
    tauto
  · rw [masked_cons_of_ne hname, or_iff_right hname]

/-- Loading keeps of the rules that a graph takes those with names that neither have been seen nor
are masked, as long as every name that is taken has been seen. -/
lemma kept_eq_filter_of_seen (hseen : ∀ name ∈ taken, name ∈ seen) : kept seen rs =
    ((RuleGraph.select taken rs).map Prod.fst).filter
      fun r => r.name ∉ seen ∧ ¬ Masked rs r.name := by
  induction rs generalizing taken seen with
  | nil => rfl
  | cons r rs ih =>
      have hinsert : ∀ name ∈ taken, name ∈ seen.insert r.name := fun name hname =>
        NameSet.mem_insert.mpr (.inr (hseen name hname))
      by_cases htaken : r.name ∈ taken
      · have hr : r.name ∈ seen := hseen r.name htaken
        rw [RuleGraph.select, if_pos htaken, kept_cons, if_neg fun h => h.1 hr, ih hinsert,
          filter_select_cons (.inl htaken)]
      · cases hx : Expression.read r.expression with
        | error x =>
            have hread : ¬ r.Readable := not_readable_of_error hx
            rw [RuleGraph.select, if_neg htaken, hx, kept_cons, if_neg fun h => hread h.2,
              ih hinsert, filter_select_cons (.inr (.inr hread))]
        | ok x =>
            -- the name is taken now, and has been seen from now on
            have hread : r.Readable := ⟨x, hx⟩
            have hinsert' : ∀ name ∈ taken.insert r.name, name ∈ seen.insert r.name := by
              intro name hname
              rw [NameSet.mem_insert] at hname ⊢
              exact hname.imp_right (hseen name)
            have hself : r.name ∈ taken.insert r.name := NameSet.mem_insert.mpr (.inl rfl)
            rw [RuleGraph.select, if_neg htaken, hx, kept_cons, List.map_cons, List.filter_cons,
              ih hinsert', filter_select_cons (.inl hself)]
            simp only [masked_cons_self, hread, not_true_eq_false, not_false_eq_true, and_true,
              decide_eq_true_eq]

/-- Loading keeps of the rules that stand in the graph of a list those whose names are not
masked. -/
lemma kept_eq_filter : kept ∅ rs =
    ((RuleGraph.ofRules rs).nodes.map RuleNode.rule).filter fun r => ¬ Masked rs r.name := by
  rw [RuleGraph.rules_ofRules, kept_eq_filter_of_seen fun _ => id]
  simp

/-- Loading keeps all rules of a graph just if no rule that can be read has a masked name. -/
lemma ofRules_kept_eq_iff : RuleGraph.ofRules (kept ∅ rs) = RuleGraph.ofRules rs ↔
    ∀ r ∈ rs, r.Readable → ¬ Masked rs r.name := by
  rw [RuleGraph.ofRules_eq_iff, rules_ofRules_kept, kept_eq_filter, List.filter_eq_self,
    RuleGraph.rules_ofRules]
  simp only [decide_eq_true_eq]
  constructor
  · intro h r hr hread
    obtain ⟨e, he, hname⟩ :=
      RuleGraph.exists_mem_select_of_readable hr hread Std.ExtTreeSet.not_mem_empty
    exact hname ▸ h e.1 (List.mem_map_of_mem he)
  · intro h r hr
    obtain ⟨e, he, rfl⟩ := List.mem_map.mp hr
    exact h e.1 (RuleGraph.mem_of_mem_select he) ⟨e.2, RuleGraph.read_of_mem_select he⟩

end Rule

namespace RuleSet

variable {s : String} {set : RuleSet} {rs : List Rule}

/-- What is loaded from a text are the rules that are kept of those that stand there. -/
lemma ofText_eq_ok_iff :
    ofText s = .ok set ↔ ∃ rs, Rule.listOfText s = .ok rs ∧ ofRules rs = set := by
  rw [ofText]
  cases Rule.listOfText s with
  | ok rs => simp [Except.map]
  | error e => simp [Except.map]

lemma graph_ofRules : (ofRules rs).graph = RuleGraph.ofRules (Rule.kept ∅ rs) := rfl

/-- **Two filters.** The rules that are loaded from a text are those that stand in the graph of all
rules of the text, less those of which an earlier rule with the same name cannot be read. So the two
graphs are the same, with the same preconditions, just if there are no such rules. -/
theorem graph_of_ofText (s : String) (set : RuleSet) (h : ofText s = .ok set) :
    ∃ rs, Rule.listOfText s = .ok rs ∧
      set.graph.nodes.map RuleNode.rule =
        ((RuleGraph.ofRules rs).nodes.map RuleNode.rule).filter
          (fun r => ¬ Rule.Masked rs r.name) ∧
      (set.graph = .ofRules rs ↔ ∀ r ∈ rs, r.Readable → ¬ Rule.Masked rs r.name) := by
  obtain ⟨rs, hrs, rfl⟩ := ofText_eq_ok_iff.mp h
  rw [graph_ofRules, Rule.rules_ofRules_kept]
  exact ⟨rs, hrs, Rule.kept_eq_filter, Rule.ofRules_kept_eq_iff⟩

/-- A rule with an expression that cannot be read, and a name that is given twice. -/
def repeatedText : String :=
  "[\x7B\"Name\": \"Motion\"\x7D, " ++
  "\x7B\"Name\": \"Motion\", \"Expression\": \"MOTION equals on\"\x7D, " ++
  "\x7B\"Name\": \"Alarm\", \"Expression\": \"what is this\"\x7D]"

/-- Of `repeatedText` both filters leave the first rule only. -/
theorem graph_of_ofText_repeated : ∃ set rs, ofText repeatedText = .ok set ∧
    Rule.listOfText repeatedText = .ok rs ∧ rs.map Rule.name = ["Motion", "Motion", "Alarm"] ∧
    set.graph = .ofRules rs ∧ set.graph.size = 1 := by
  have hall : (Rule.listOfText repeatedText).map (fun rs => (rs.map Rule.name,
      decide (∀ r ∈ rs, r.Readable → ¬ Rule.Masked rs r.name), (ofRules rs).graph.size)) =
      .ok (["Motion", "Motion", "Alarm"], true, 1) := by
    decide +kernel
  cases hrs : Rule.listOfText repeatedText with
  | error e =>
      rw [hrs] at hall
      cases hall
  | ok rs =>
      rw [hrs] at hall
      obtain ⟨hnames, hall⟩ := Prod.mk.inj (Except.ok.inj hall)
      obtain ⟨hread, hsize⟩ := Prod.mk.inj hall
      have hset : ofText repeatedText = .ok (ofRules rs) := ofText_eq_ok_iff.mpr ⟨rs, hrs, rfl⟩
      obtain ⟨rs', hrs', -, hiff⟩ := graph_of_ofText repeatedText (ofRules rs) hset
      obtain rfl : rs = rs' := Except.ok.inj (hrs.symm.trans hrs')
      exact ⟨ofRules rs, rs, hset, rfl, hnames, hiff.mpr (of_decide_eq_true hread), hsize⟩

/-- A rule that cannot be read, one of its name that can, and one with this name as its
precondition. -/
def maskedText : String :=
  "[\x7B\"Name\": \"Motion\", \"Expression\": \"what is this\"\x7D, " ++
  "\x7B\"Name\": \"Motion\"\x7D, " ++
  "\x7B\"Name\": \"Alarm\", \"RequiredTrueRules\": [\"Motion\"]\x7D]"

/-- **A masked name matters**: the graph of the rules that are loaded from a text need not be that
of all its rules. Of `maskedText` the second rule is not loaded, though it stands in the graph of
the three and gates the third one there. -/
theorem masking_matters : ¬ ∀ (s : String) (rs : List Rule) (set : RuleSet),
    Rule.listOfText s = .ok rs → ofText s = .ok set → set.graph = .ofRules rs := by
  intro h
  have hall : (Rule.listOfText maskedText).map (fun rs =>
      ((ofRules rs).graph.nodes.map (fun n => (n.name, n.allOf)),
        (RuleGraph.ofRules rs).nodes.map fun n => (n.name, n.allOf))) =
      .ok ([("Alarm", [])], [("Motion", []), ("Alarm", [0])]) := by
    decide +kernel
  cases hrs : Rule.listOfText maskedText with
  | error e =>
      rw [hrs] at hall
      cases hall
  | ok rs =>
      rw [hrs] at hall
      obtain ⟨hkept, hraw⟩ := Prod.mk.inj (Except.ok.inj hall)
      have hset : ofText maskedText = .ok (ofRules rs) := ofText_eq_ok_iff.mpr ⟨rs, hrs, rfl⟩
      rw [h maskedText rs (ofRules rs) hrs hset, hraw] at hkept
      simp at hkept

end RuleSet

end SensorRules
