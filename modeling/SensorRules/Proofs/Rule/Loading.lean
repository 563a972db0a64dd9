import SensorRules.Proofs.Graph.Building
import SensorRules.Proofs.Rule.Reading
import SensorRules.Rule.Loading

/-!
Which rules of a list of documents are kept.

* `Rule.sift_append`, `Rule.status_eq_loaded_iff`: what becomes of a rule depends on the names
  before it and on its expression;
* `Rule.kept`: the rules that are kept; they have different names (`Rule.nodup_kept`), expressions
  that can be read (`Rule.readable_of_mem_kept`), and so they all stand in the graph, each at its
  place (`Rule.rules_ofRules_kept`);
* `RuleSet.Accounts`: a rule set accounts for every document of a list;
* `RuleSet.ofDocuments_accounts`: a list either fails for its first malformed document or gives a
  rule set that accounts for it.
-/

namespace SensorRules

namespace Rule

variable {r : Rule} {rs rs' : List Rule} {seen : NameSet} {name : String}

/-- The expression of a rule can be read. -/
def Readable (r : Rule) : Prop :=
  ∃ e, Expression.read r.expression = .ok e

lemma not_readable_of_error {x : Expression.Error}
    (h : Expression.read r.expression = .error x) : ¬ r.Readable := by
  rintro ⟨e, he⟩
  cases h.symm.trans he

/-! ### What becomes of a rule -/

/-- The names that count as seen after rules. -/
def namesSeen (seen : NameSet) (rs : List Rule) : NameSet :=
  rs.foldl (fun seen r => seen.insert r.name) seen

lemma mem_namesSeen : name ∈ namesSeen seen rs ↔ name ∈ seen ∨ ∃ r ∈ rs, r.name = name := by
  rw [namesSeen]
  induction rs generalizing seen with
  | nil => simp
  | cons r rs ih =>
      rw [List.foldl_cons, ih, NameSet.mem_insert, List.exists_mem_cons_iff, or_left_comm, or_assoc]

lemma status_eq_loaded_iff : r.status seen = .loaded ↔ r.name ∉ seen ∧ r.Readable := by
  rw [status, Readable]
  split
  next hseen => exact ⟨nofun, fun h => absurd hseen h.1⟩
  next hseen =>
    split
    next e he => exact ⟨fun _ => ⟨hseen, e, he⟩, fun _ => rfl⟩
    next e he => exact ⟨nofun, fun ⟨_, e', he'⟩ => by simp [he'] at he⟩

lemma map_fst_sift : (sift seen rs).map Prod.fst = rs := by
  induction rs generalizing seen with
  | nil => rfl
  | cons r rs ih => rw [sift, List.map_cons, ih]

lemma sift_append : sift seen (rs ++ rs') = sift seen rs ++ sift (namesSeen seen rs) rs' := by
  induction rs generalizing seen with
  | nil => rfl
  | cons r rs ih => rw [List.cons_append, sift, ih, sift, List.cons_append]; rfl

/-! ### The rules that are kept -/

/-- The rules of a list that are kept. -/
def kept (seen : NameSet) (rs : List Rule) : List Rule :=
  ((sift seen rs).filter (·.2 = .loaded)).map (·.1)

lemma kept_cons_of_loaded (h : r.status seen = .loaded) :
    kept seen (r :: rs) = r :: kept (seen.insert r.name) rs := by
  rw [kept, sift, List.filter_cons_of_pos (by simpa using h)]
  rfl

lemma kept_cons_of_skipped (h : r.status seen ≠ .loaded) :
    kept seen (r :: rs) = kept (seen.insert r.name) rs := by
  rw [kept, sift, List.filter_cons_of_neg (by simpa using h)]
  rfl

lemma mem_of_mem_kept (h : r ∈ kept seen rs) : r ∈ rs := by
  obtain ⟨e, he, rfl⟩ := List.mem_map.mp h
  have hfst : (sift seen rs).map Prod.fst = rs := map_fst_sift
  rw [← hfst]
  exact List.mem_map_of_mem (List.mem_filter.mp he).1

/-- A rule that is kept was loaded after names that hold all those seen at the beginning. -/
lemma exists_status_of_mem_kept (h : r ∈ kept seen rs) :
    ∃ seen', (∀ name ∈ seen, name ∈ seen') ∧ r.status seen' = .loaded := by
  induction rs generalizing seen with
  | nil => exact absurd h List.not_mem_nil
  | cons r' rs ih =>
      have later (h : r ∈ kept (seen.insert r'.name) rs) :
          ∃ seen', (∀ name ∈ seen, name ∈ seen') ∧ r.status seen' = .loaded := by
        obtain ⟨seen', hseen', hr⟩ := ih h
        exact ⟨seen', fun name hname => hseen' name (NameSet.mem_insert.mpr (.inr hname)), hr⟩
      by_cases hr' : r'.status seen = .loaded
      · rw [kept_cons_of_loaded hr'] at h
        rcases List.mem_cons.mp h with rfl | h
        · exact ⟨seen, fun _ => id, hr'⟩
        · exact later h
      · rw [kept_cons_of_skipped hr'] at h
        exact later h

lemma readable_of_mem_kept (h : r ∈ kept seen rs) : r.Readable := by
  obtain ⟨seen', -, hr⟩ := exists_status_of_mem_kept h
  exact (status_eq_loaded_iff.mp hr).2

lemma name_notMem_of_mem_kept (h : r ∈ kept seen rs) : r.name ∉ seen := by
  obtain ⟨seen', hseen', hr⟩ := exists_status_of_mem_kept h
  exact fun hmem => (status_eq_loaded_iff.mp hr).1 (hseen' r.name hmem)

/-- No two rules that are kept have one name. -/
lemma nodup_kept : ((kept seen rs).map Rule.name).Nodup := by
  induction rs generalizing seen with
  | nil => exact List.nodup_nil
  | cons r rs ih =>
      by_cases hr : r.status seen = .loaded
      · rw [kept_cons_of_loaded hr, List.map_cons, List.nodup_cons]
        refine ⟨fun hmem => ?_, ih⟩
        obtain ⟨r', hr', hname⟩ := List.mem_map.mp hmem
        exact name_notMem_of_mem_kept hr' (NameSet.mem_insert.mpr (.inl hname.symm))
      · rw [kept_cons_of_skipped hr]
        exact ih

/-- All rules that are kept stand in the graph, each at its place. -/
lemma rules_ofRules_kept :
    (RuleGraph.ofRules (kept seen rs)).nodes.map RuleNode.rule = kept seen rs := by
  have htaken : ∀ r ∈ kept seen rs, r.name ∉ (∅ : NameSet) :=
    fun _ _ => Std.ExtTreeSet.not_mem_empty
  rw [RuleGraph.rules_ofRules, RuleGraph.select_eq_filterMap nodup_kept htaken, List.map_filterMap]
  have hentry : ∀ r ∈ kept seen rs, (RuleGraph.entry? r).map Prod.fst = some r := by
    intro r hr
    obtain ⟨e, he⟩ := readable_of_mem_kept hr
    rw [RuleGraph.entry?, he]
    rfl
  rw [List.filterMap_congr hentry, List.filterMap_some]

end Rule

namespace RuleSet

variable {ds : List RuleDocument} {rs : List Rule} {set : RuleSet} {seen : NameSet}

/-- A rule set accounts for every document of a list. -/
structure Accounts (set : RuleSet) (ds : List RuleDocument) : Prop where
  /-- There is one result for each document, in order and under its name. -/
  names : set.results.map LoadResult.ruleName = ds.map RuleDocument.ruleName
  /-- A document is loaded if no earlier one has its name and its expression can be read. -/
  loaded_iff : ∀ before d after, ds = before ++ d :: after →
    ∃ result, set.results[before.length]? = some result ∧
      (result.status = .loaded ↔ (∀ d' ∈ before, d'.ruleName ≠ d.ruleName) ∧
        ∃ e, Expression.read (Text.trim d.expression) = .ok e)
  /-- The rules are those of the documents that are loaded, in order. -/
  rules : ((ds.zip set.results).filter (·.2.status = .loaded)).map (fun e => Rule.ofDocument e.1) =
    set.rules.map .ok
  /-- No two rules have one name. -/
  nodup : (set.rules.map Rule.name).Nodup
  /-- A rule has a name, which is none of its preconditions. -/
  proper : ∀ r ∈ set.rules, r.name ≠ "" ∧ r.name ∉ r.requiredTrue ∧ r.name ∉ r.orRules
  /-- All rules stand in the graph, each at its place. -/
  graph : (RuleGraph.ofRules set.rules).nodes.map RuleNode.rule = set.rules

/-! ### Success and failure -/

lemma ofDocuments_eq_ok_iff : ofDocuments ds = .ok set ↔
    ∃ rs, ds.map Rule.ofDocument = rs.map .ok ∧ ofRules rs = set := by
  rw [ofDocuments, Rule.ofDocuments]
  simp only [← Traversal.mapM_eq_ok_iff]
  cases ds.mapM Rule.ofDocument with
  | ok rs => simp [Except.mapError, Except.map]
  | error e => simp [Except.mapError, Except.map]

lemma ofDocuments_eq_error_iff {e : LoadError} : ofDocuments ds = .error e ↔
    ∃ e', ds.mapM Rule.ofDocument = .error e' ∧ .badRule e' = e := by
  rw [ofDocuments, Rule.ofDocuments]
  cases ds.mapM Rule.ofDocument with
  | ok rs => simp [Except.mapError, Except.map]
  | error e => simp [Except.mapError, Except.map]

/-- If there is a first malformed document, its error is reported. -/
lemma ofDocuments_of_malformed {before after : List RuleDocument} {d : RuleDocument}
    (hbefore : ∀ d' ∈ before, ¬ d'.Malformed) (hd : d.Malformed) :
    ∃ e, d.Fault e ∧ Rule.ofDocument d = .error e ∧
      ofDocuments (before ++ d :: after) = .error (.badRule e) := by
  obtain ⟨e, he, hfault⟩ := Rule.exists_ofDocument_error hd
  refine ⟨e, hfault, he, ofDocuments_eq_error_iff.mpr ⟨e, ?_, rfl⟩⟩
  refine Traversal.mapM_eq_error_iff.mpr ⟨before, d, after, rfl, fun d' hd' => ?_, he⟩
  exact Rule.exists_ofDocument_iff.mpr (hbefore d' hd')

lemma exists_malformed_of_error {e : LoadError} (h : ofDocuments ds = .error e) :
    ∃ d ∈ ds, d.Malformed := by
  obtain ⟨e', he', -⟩ := ofDocuments_eq_error_iff.mp h
  obtain ⟨before, d, after, rfl, -, hd⟩ := Traversal.mapM_eq_error_iff.mp he'
  exact ⟨d, List.mem_append_right before List.mem_cons_self, e', Rule.fault_of_ofDocument hd⟩

lemma exists_error_of_malformed (h : ∃ d ∈ ds, d.Malformed) : ∃ e, ofDocuments ds = .error e := by
  cases hset : ofDocuments ds with
  | error e => exact ⟨e, rfl⟩
  | ok set =>
      obtain ⟨rs, hrs, -⟩ := ofDocuments_eq_ok_iff.mp hset
      obtain ⟨d, hd, hbad⟩ := h
      obtain ⟨r, -, hr⟩ := Traversal.exists_read_of_mem hrs hd
      exact absurd hbad (Rule.exists_ofDocument_iff.mp ⟨r, hr⟩)

/-! ### The account of a list -/

lemma ruleNames_eq (h : ds.map Rule.ofDocument = rs.map .ok) :
    rs.map Rule.name = ds.map RuleDocument.ruleName := by
  induction ds generalizing rs with
  | nil => cases rs with
    | nil => rfl
    | cons => cases h
  | cons d ds ih => cases rs with
    | nil => cases h
    | cons r rs =>
        obtain ⟨hd, hds⟩ := List.cons.inj h
        rw [List.map_cons, List.map_cons, ih hds, Rule.name_of_ofDocument hd]

/-- A rule has a new name if its name is that of no earlier document. -/
lemma notMem_namesSeen_iff (h : ds.map Rule.ofDocument = rs.map .ok) {name : String} :
    name ∉ Rule.namesSeen ∅ rs ↔ ∀ d ∈ ds, d.ruleName ≠ name := by
  have hmem : name ∈ rs.map Rule.name ↔ name ∈ ds.map RuleDocument.ruleName := by
    rw [ruleNames_eq h]
  rw [Rule.mem_namesSeen, or_iff_right Std.ExtTreeSet.not_mem_empty, ← List.mem_map, hmem,
    List.mem_map, not_exists]
  exact forall_congr' fun d => not_and

lemma getElem?_results {before after : List Rule} {r : Rule} {i : Nat} (hi : before.length = i) :
    (ofRules (before ++ r :: after)).results[i]? =
      some ⟨r.name, r.status (Rule.namesSeen ∅ before)⟩ := by
  have hlength : (Rule.sift ∅ before).length = i := by
    have hfst : ((Rule.sift ∅ before).map Prod.fst).length = before.length := by
      rw [Rule.map_fst_sift]
    rw [List.length_map] at hfst
    exact hfst.trans hi
  rw [ofRules, Rule.sift_append, List.getElem?_map,
    List.getElem?_append_right (Nat.le_of_eq hlength), hlength, Nat.sub_self]
  rfl

/-- The rules that are kept are those of the documents that are loaded. -/
lemma map_ofDocument_loaded (h : ds.map Rule.ofDocument = rs.map .ok) :
    ((ds.zip ((Rule.sift seen rs).map fun e => (⟨e.1.name, e.2⟩ : LoadResult))).filter
        (·.2.status = .loaded)).map (fun e => Rule.ofDocument e.1) =
      (Rule.kept seen rs).map .ok := by
  induction ds generalizing rs seen with
  | nil => cases rs with
    | nil => rfl
    | cons => cases h
  | cons d ds ih => cases rs with
    | nil => cases h
    | cons r rs =>
        obtain ⟨hd, hds⟩ := List.cons.inj h
        rw [Rule.sift, List.map_cons, List.zip_cons_cons]
        by_cases hr : r.status seen = .loaded
        · rw [List.filter_cons_of_pos (by simpa using hr), Rule.kept_cons_of_loaded hr,
            List.map_cons, List.map_cons, ih hds, hd]
        · rw [List.filter_cons_of_neg (by simpa using hr), Rule.kept_cons_of_skipped hr, ih hds]

/-- The rule set of a list without malformed documents accounts for all of them. -/
lemma accounts_of_ofDocuments (h : ofDocuments ds = .ok set) : set.Accounts ds := by
  obtain ⟨rs, hrs, rfl⟩ := ofDocuments_eq_ok_iff.mp h
  refine ⟨?names, ?loaded_iff, ?rules, ?nodup, ?proper, ?graph⟩
  case names =>
    rw [ofRules, List.map_map, ← ruleNames_eq hrs]
    exact (List.map_map (g := Rule.name) (f := Prod.fst)).symm.trans
      (congrArg (List.map Rule.name) Rule.map_fst_sift)
  case loaded_iff =>
    rintro before d after rfl
    rw [List.map_append, List.map_cons] at hrs
    obtain ⟨earlier, rs', rfl, hearlier, hrs'⟩ := List.map_eq_append_iff.mp hrs.symm
    obtain ⟨r, later, rfl, hr, -⟩ := List.map_eq_cons_iff.mp hrs'
    refine ⟨⟨r.name, r.status (Rule.namesSeen ∅ earlier)⟩, ?_, ?_⟩
    · exact getElem?_results (by simpa using congrArg List.length hearlier)
    · rw [Rule.status_eq_loaded_iff, notMem_namesSeen_iff hearlier.symm, Rule.Readable,
        Rule.name_of_ofDocument hr.symm, Rule.expression_of_ofDocument hr.symm]
  case rules => exact map_ofDocument_loaded hrs
  case nodup => exact Rule.nodup_kept
  case proper =>
    intro r hr
    obtain ⟨d, -, hd⟩ := Traversal.exists_of_mem_read hrs (Rule.mem_of_mem_kept hr)
    exact ⟨Rule.name_ne_of_ofDocument hd, Rule.notMem_of_ofDocument hd⟩
  case graph => exact Rule.rules_ofRules_kept

/-- **What becomes of a list of documents.** A text that writes the list is loaded as the list is.
Loading fails if some document of the list is malformed, and then with the error of the first such
document; otherwise it gives a rule set that accounts for every document. -/
theorem ofDocuments_accounts (ds : List RuleDocument) :
    (∀ s, RuleDocument.listOfText? s = some ds → ofText s = ofDocuments ds) ∧
    ((∃ e, ofDocuments ds = .error e) ↔ ∃ d ∈ ds, d.Malformed) ∧
    (∀ before d after, ds = before ++ d :: after → (∀ d' ∈ before, ¬ d'.Malformed) →
      d.Malformed → ∃ e, d.Fault e ∧ Rule.ofDocument d = .error e ∧
        ofDocuments ds = .error (.badRule e)) ∧
    ((∀ d ∈ ds, ¬ d.Malformed) → ∃ set, ofDocuments ds = .ok set ∧ set.Accounts ds) := by
  refine ⟨fun s hs => ?_, ⟨fun ⟨e, he⟩ => exists_malformed_of_error he, exists_error_of_malformed⟩,
    ?_, fun h => ?_⟩
  · rw [ofText, Rule.listOfText, hs, ofDocuments]
  · rintro before d after rfl hbefore hd
    exact ofDocuments_of_malformed hbefore hd
  · cases hset : ofDocuments ds with
    | ok set => exact ⟨set, rfl, accounts_of_ofDocuments hset⟩
    | error e =>
        obtain ⟨d, hd, hbad⟩ := exists_malformed_of_error hset
        exact absurd hbad (h d hd)

end RuleSet

end SensorRules
