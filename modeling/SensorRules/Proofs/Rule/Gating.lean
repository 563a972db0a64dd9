import SensorRules.Proofs.Rule.Loading
import SensorRules.Proofs.Text.Blank

/-!
How a document has to write the name of a rule to make it a precondition.

* `RuleSet.loaded`: the documents that are loaded, each at the position of its rule in the graph
  (`RuleSet.names_loaded`);
* `RuleSet.mem_preconditions_iff`: of the names that a document lists, those of other loaded rules
  are its preconditions;
* `RuleSet.Gates` and `RuleSet.gates_of_ofText`: the names that count are the trimmed ones, and a
  name that is listed with blanks at its ends stands for no rule;
* `RuleSet.blanks_matter`: it does so even if the rule is written with just these blanks.
-/

namespace SensorRules

lemma RuleGraph.Distinct.mem_filterMap_index? {g : RuleGraph} (distinct : g.Distinct)
    {names : NameSet} {j : Nat} :
    j ∈ names.toList.filterMap g.index? ↔ ∃ m, g.nodes[j]? = some m ∧ m.name ∈ names := by
  simp only [List.mem_filterMap, distinct.index?_eq_some_iff, Std.ExtTreeSet.mem_toList]
  constructor
  · rintro ⟨_, hmem, m, hm, rfl⟩
    exact ⟨m, hm, hmem⟩
  · rintro ⟨m, hm, hmem⟩
    exact ⟨m.name, hmem, m, hm, rfl⟩

namespace RuleSet

variable {s : String} {set : RuleSet} {ds : List RuleDocument} {a b : RuleDocument} {n : RuleNode}
  {i j : Nat} {names : List String}

/-- The documents of a list that were loaded into a rule set. -/
def loaded (set : RuleSet) (ds : List RuleDocument) : List RuleDocument :=
  ((ds.zip set.results).filter (·.2.status = .loaded)).map (·.1)

/-- The graph of the rules that were loaded. -/
def graph (set : RuleSet) : RuleGraph :=
  .ofRules set.rules

/-- The gates between the rules of a set that is loaded from documents: names are trimmed, and what
is listed as a precondition is taken as it stands. -/
structure Gates (set : RuleSet) (ds : List RuleDocument) : Prop where
  /-- The loaded rules stand in the graph in order, under their trimmed names. -/
  names_eq : set.graph.nodes.map RuleNode.name = (set.loaded ds).map RuleDocument.ruleName
  /-- What must be met for a rule are the other loaded rules that are listed by their trimmed
  names. -/
  allOf : ∀ (i : Nat) (a : RuleDocument) (n : RuleNode), (set.loaded ds)[i]? = some a →
    set.graph.nodes[i]? = some n → ∀ j, j ∈ n.allOf ↔
      j ≠ i ∧ ∃ b, (set.loaded ds)[j]? = some b ∧ b.ruleName ∈ a.requiredTrueRules
  /-- So it is with the rules of which one must be met. -/
  anyOf : ∀ (i : Nat) (a : RuleDocument) (n : RuleNode), (set.loaded ds)[i]? = some a →
    set.graph.nodes[i]? = some n → ∀ j, j ∈ n.anyOf ↔
      j ≠ i ∧ ∃ b, (set.loaded ds)[j]? = some b ∧ b.ruleName ∈ a.requiredFalseRules
  /-- A name that is written without blanks at its ends may be listed as it is written. -/
  written : ∀ (i j : Nat) (a b : RuleDocument) (n : RuleNode), (set.loaded ds)[i]? = some a →
    (set.loaded ds)[j]? = some b → set.graph.nodes[i]? = some n → j ≠ i →
      Text.trim b.name = b.name →
        (b.name ∈ a.requiredTrueRules → j ∈ n.allOf) ∧
          (b.name ∈ a.requiredFalseRules → j ∈ n.anyOf)
  /-- What is listed with blanks at its ends stands for no rule. -/
  unresolved : ∀ name, Text.trim name ≠ name → set.graph.index? name = none

/-! ### Loaded documents and their rules -/

lemma rules_loaded (accounts : set.Accounts ds) :
    (set.loaded ds).map Rule.ofDocument = set.rules.map .ok := by
  rw [loaded, List.map_map]
  exact accounts.rules

lemma names_loaded (accounts : set.Accounts ds) :
    set.graph.nodes.map RuleNode.name = (set.loaded ds).map RuleDocument.ruleName := by
  have hrules : set.graph.nodes.map RuleNode.name = set.rules.map Rule.name := by
    rw [← accounts.graph, List.map_map]
    rfl
  rw [hrules, ruleNames_eq (rules_loaded accounts)]

lemma ofDocument_of_loaded (accounts : set.Accounts ds) (ha : (set.loaded ds)[i]? = some a)
    (hn : set.graph.nodes[i]? = some n) : Rule.ofDocument a = .ok n.rule := by
  have hrule : set.rules[i]? = some n.rule := by
    rw [← accounts.graph, List.getElem?_map, ← graph, hn, Option.map_some]
  have heq := congrArg (·[i]?) (rules_loaded accounts)
  simp only [List.getElem?_map, ha, hrule, Option.map_some, Option.some.injEq] at heq
  exact heq

/-- A document is loaded at a position if its rule stands there. -/
lemma loaded_iff_node (accounts : set.Accounts ds) {name : String} :
    (∃ b, (set.loaded ds)[j]? = some b ∧ b.ruleName = name) ↔
      ∃ m, set.graph.nodes[j]? = some m ∧ m.name = name := by
  have heq := congrArg (·[j]?) (names_loaded accounts)
  simp only [List.getElem?_map] at heq
  rw [← Option.map_eq_some_iff, ← Option.map_eq_some_iff, heq]

/-- Of the names that a document lists, those of other loaded rules are its preconditions. -/
lemma mem_preconditions_iff (accounts : set.Accounts ds) (ha : (set.loaded ds)[i]? = some a) :
    j ∈ (Rule.others a.ruleName names).toList.filterMap set.graph.index? ↔
      j ≠ i ∧ ∃ b, (set.loaded ds)[j]? = some b ∧ b.ruleName ∈ names := by
  have distinct : set.graph.Distinct := RuleGraph.distinct_ofRules
  rw [distinct.mem_filterMap_index?]
  constructor
  · rintro ⟨m, hm, hmem⟩
    obtain ⟨hlisted, hother⟩ := Rule.mem_others.mp hmem
    obtain ⟨b, hb, hname⟩ := (loaded_iff_node accounts).mpr ⟨m, hm, rfl⟩
    refine ⟨?_, b, hb, hname ▸ hlisted⟩
    rintro rfl
    obtain rfl : b = a := Option.some.inj (hb.symm.trans ha)
    exact hother hname.symm
  · rintro ⟨hne, b, hb, hlisted⟩
    obtain ⟨m, hm, hname⟩ := (loaded_iff_node accounts).mp ⟨b, hb, rfl⟩
    obtain ⟨n, hn, hname'⟩ := (loaded_iff_node accounts).mp ⟨a, ha, rfl⟩
    refine ⟨m, hm, Rule.mem_others.mpr ⟨hname ▸ hlisted, fun heq => hne ?_⟩⟩
    exact distinct.index_unique hm hn (heq.trans hname'.symm)

lemma index?_eq_none_of_trim_ne (accounts : set.Accounts ds) {name : String}
    (hname : Text.trim name ≠ name) : set.graph.index? name = none := by
  cases hidx : set.graph.index? name with
  | none => rfl
  | some j =>
      obtain ⟨b, -, rfl⟩ := (loaded_iff_node accounts).mpr (RuleGraph.node_of_index? hidx)
      exact absurd Text.trim_trim hname

lemma allOf_of_loaded (accounts : set.Accounts ds) (ha : (set.loaded ds)[i]? = some a)
    (hn : set.graph.nodes[i]? = some n) : n.allOf =
      (Rule.others a.ruleName a.requiredTrueRules).toList.filterMap set.graph.index? := by
  have hrule := ofDocument_of_loaded accounts ha hn
  obtain ⟨-, _, _, -, -, heq⟩ := Rule.ofDocument_eq_ok_iff.mp hrule
  rw [RuleGraph.allOf_of_node hn, ← heq]
  rfl

lemma anyOf_of_loaded (accounts : set.Accounts ds) (ha : (set.loaded ds)[i]? = some a)
    (hn : set.graph.nodes[i]? = some n) : n.anyOf =
      (Rule.others a.ruleName a.requiredFalseRules).toList.filterMap set.graph.index? := by
  have hrule := ofDocument_of_loaded accounts ha hn
  obtain ⟨-, _, _, -, -, heq⟩ := Rule.ofDocument_eq_ok_iff.mp hrule
  rw [RuleGraph.anyOf_of_node hn, ← heq]
  rfl

lemma gates_of_accounts (accounts : set.Accounts ds) : set.Gates ds where
  names_eq := names_loaded accounts
  allOf i a n ha hn j := by
    rw [allOf_of_loaded accounts ha hn]
    exact mem_preconditions_iff accounts ha
  anyOf i a n ha hn j := by
    rw [anyOf_of_loaded accounts ha hn]
    exact mem_preconditions_iff accounts ha
  written i j a b n ha hb hn hne htrim := by
    have hname : b.ruleName = b.name := htrim
    rw [← hname, allOf_of_loaded accounts ha hn, anyOf_of_loaded accounts ha hn,
      mem_preconditions_iff accounts ha, mem_preconditions_iff accounts ha]
    exact ⟨fun hlisted => ⟨hne, b, hb, hlisted⟩, fun hlisted => ⟨hne, b, hb, hlisted⟩⟩
  unresolved _ := index?_eq_none_of_trim_ne accounts

/-! ### From a text -/

lemma exists_documents_of_ofText (h : ofText s = .ok set) :
    ∃ ds, RuleDocument.listOfText? s = some ds ∧ ofDocuments ds = .ok set := by
  rw [ofText, Rule.listOfText] at h
  cases hds : RuleDocument.listOfText? s with
  | none =>
      rw [hds] at h
      cases h
  | some ds =>
      rw [hds] at h
      exact ⟨ds, rfl, h⟩

/-- **Gates between loaded rules.** Of every text that is loaded, the preconditions of a rule are
the other loaded rules whose trimmed names it lists, and nothing that it lists with blanks at the
ends stands for a rule. -/
theorem gates_of_ofText (s : String) (set : RuleSet) (h : ofText s = .ok set) :
    ∃ ds, RuleDocument.listOfText? s = some ds ∧ set.Gates ds := by
  obtain ⟨ds, hds, hset⟩ := exists_documents_of_ofText h
  exact ⟨ds, hds, gates_of_accounts (accounts_of_ofDocuments hset)⟩

/-- A rule with a blank after its name, which two others list: once as it is written, and once as it
is named. -/
def armedText : String :=
  "[\x7B\"Name\": \"Armed \"\x7D" ++
  ", \x7B\"Name\": \"Door\", \"RequiredTrueRules\": [\"Armed \"]\x7D" ++
  ", \x7B\"Name\": \"Window\", \"RequiredTrueRules\": [\"Armed\"]\x7D]"

/-- What is loaded from `armedText`: only the window is gated. -/
lemma loaded_armedText : ∃ ds set, RuleDocument.listOfText? armedText = some ds ∧
    ofText armedText = .ok set ∧
    (set.loaded ds).map (fun d => (d.name, d.requiredTrueRules)) =
      [("Armed ", []), ("Door", ["Armed "]), ("Window", ["Armed"])] ∧
    set.graph.nodes.map (fun n => (n.name, n.allOf)) =
      [("Armed", []), ("Door", []), ("Window", [0])] := by
  have hall : ((RuleDocument.listOfText? armedText).bind fun ds =>
      (ofText armedText).toOption.map fun set =>
        ((set.loaded ds).map (fun d => (d.name, d.requiredTrueRules)),
          set.graph.nodes.map (fun n => (n.name, n.allOf)))) =
      some ([("Armed ", []), ("Door", ["Armed "]), ("Window", ["Armed"])],
        [("Armed", []), ("Door", []), ("Window", [0])]) := by
    decide +kernel
  obtain ⟨ds, hds, hall⟩ := Option.bind_eq_some_iff.mp hall
  cases hset : ofText armedText with
  | error e =>
      rw [hset] at hall
      cases hall
  | ok set =>
      rw [hset] at hall
      obtain ⟨hloaded, hnodes⟩ := Prod.mk.inj (Option.some.inj hall)
      exact ⟨ds, set, hds, rfl, hloaded, hnodes⟩

/-- The window of `armedText` lists the other rule by its trimmed name, and is gated by it. -/
theorem gates_of_ofText_armed : ∃ ds set, ofText armedText = .ok set ∧
    RuleDocument.listOfText? armedText = some ds ∧ set.Gates ds ∧
    (set.loaded ds).map RuleDocument.ruleName = ["Armed", "Door", "Window"] ∧
    set.graph.nodes.map RuleNode.allOf = [[], [], [0]] := by
  obtain ⟨ds, set, hds, hset, -, hnodes⟩ := loaded_armedText
  obtain ⟨ds', hds', hgates⟩ := gates_of_ofText armedText set hset
  obtain rfl : ds = ds' := Option.some.inj (hds.symm.trans hds')
  have hnames := congrArg (List.map Prod.fst) hnodes
  have hallOf := congrArg (List.map Prod.snd) hnodes
  rw [List.map_map] at hnames hallOf
  exact ⟨ds, set, hset, hds, hgates, hgates.names_eq.symm.trans hnames, hallOf⟩

/-- **Blanks around a name matter**: a rule that is listed exactly as it is written need not become
a precondition. The door of `armedText` lists the other rule so, and stands in the graph ungated. -/
theorem blanks_matter : ¬ ∀ (s : String) (ds : List RuleDocument) (set : RuleSet),
    RuleDocument.listOfText? s = some ds → ofText s = .ok set →
      ∀ (i j : Nat) (a b : RuleDocument) (n : RuleNode), (set.loaded ds)[i]? = some a →
        (set.loaded ds)[j]? = some b → set.graph.nodes[i]? = some n → j ≠ i →
          b.name ∈ a.requiredTrueRules → j ∈ n.allOf := by
  intro h
  obtain ⟨ds, set, hds, hset, hloaded, hnodes⟩ := loaded_armedText
  obtain ⟨armed, _, hcons, harmed, htail⟩ := List.map_eq_cons_iff.mp hloaded
  obtain ⟨door, _, rfl, hdoor, -⟩ := List.map_eq_cons_iff.mp htail
  obtain ⟨_, _, hgraph, -, htail⟩ := List.map_eq_cons_iff.mp hnodes
  obtain ⟨node, _, rfl, hnode, -⟩ := List.map_eq_cons_iff.mp htail
  have hlisted : armed.name ∈ door.requiredTrueRules := by
    rw [(Prod.mk.inj harmed).1, (Prod.mk.inj hdoor).2]
    exact List.mem_singleton_self _
  have hmem := h armedText ds set hds hset 1 0 door armed node (by rw [hcons]; rfl)
    (by rw [hcons]; rfl) (by rw [hgraph]; rfl) Nat.zero_ne_one hlisted
  rw [(Prod.mk.inj hnode).2] at hmem
  exact absurd hmem List.not_mem_nil

end RuleSet

end SensorRules
