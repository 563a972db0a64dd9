import SensorRules.Proofs.Number.Whole
import SensorRules.Proofs.Rule.Document
import SensorRules.Proofs.Rule.Levels
import SensorRules.Proofs.Rule.Loading
import SensorRules.Proofs.Text.Blank

/-!
Rules that are written to a text and loaded from it again.

* `Rule.secondsOf?_key`, `Rule.readKeys_ofList`: seconds that are written as keys are read again;
* `Rule.Canonical`: a rule as loading leaves it (`Rule.canonical_of_ofDocument`);
* `Rule.ofDocument_toDocument`: such a rule is the rule of its own document;
* `RuleSet.ofText_listToText`: a list of such rules, with different names and expressions that can
  be read, is loaded from its own text;
* `RuleSet.ofText_of_loaded`: so is every list of rules that was ever loaded.
-/

namespace SensorRules

namespace Rule

variable {α β : Type} {d : RuleDocument} {r : Rule} {rs : List Rule} {rule table : String} {n : Nat}
  {es : List (Nat × α)}

/-! ### Seconds as keys -/

lemma key_injective : Function.Injective key := by
  intro n m h
  have hdigits : Number.toDigits n = Number.toDigits m := String.ofList_injective h
  rw [← Number.ofDigits_toDigits (n := n), hdigits, Number.ofDigits_toDigits]

/-- Seconds that are written as a key are read again. -/
lemma secondsOf?_key (h : n < Number.word64) : secondsOf? (key n) = some n := by
  have hblank : ∀ c ∈ (key n).toList, Text.isBlank c = false := by
    intro c hc
    rw [key, String.toList_ofList] at hc
    exact Text.isBlank_of_isDigit (Number.isDigit_of_mem_toDigits hc)
  have htrim : Text.trim (key n) = key n :=
    Text.trim_eq_self (fun c hc => hblank c (List.mem_of_mem_head? hc))
      fun c hc => hblank c (List.mem_of_mem_getLast? hc)
  rw [secondsOf?, htrim]
  exact Number.unsigned?_toDigits h

/-- Entries that are written as a table are read again, though perhaps in another order. -/
lemma readKeys_ofList (hnodup : (es.map Prod.fst).Nodup) (hes : ∀ e ∈ es, e.1 < Number.word64)
    (f : α → β) : ∃ es',
      readKeys rule table (Std.ExtTreeMap.ofList (es.map fun e => (key e.1, f e.2))) = .ok es' ∧
        es'.Perm (es.map fun e => (e.1, f e.2)) := by
  have hkeys : ((es.map fun e => (key e.1, f e.2)).map Prod.fst).Nodup := by
    have := hnodup.map key_injective
    rw [List.map_map] at this ⊢
    exact this
  have hperm := NameTable.toList_ofList_perm hkeys
  have hentry : ∀ e ∈ es, entryAt? (key e.1, f e.2) = some (e.1, f e.2) :=
    fun e he => entryAt?_eq_some_iff.mpr ⟨secondsOf?_key (hes e he), rfl⟩
  refine ⟨_, readKeys_eq_ok_iff.mpr (Traversal.mapM_eq_some_filterMap fun e he => ?_), ?_⟩
  · obtain ⟨e', he', rfl⟩ := List.mem_map.mp (hperm.mem_iff.mp he)
    rw [hentry e' he']
    rfl
  · have hread : (es.map fun e => (key e.1, f e.2)).filterMap entryAt? =
        es.map fun e => (e.1, f e.2) := by
      rw [List.filterMap_map, ← List.filterMap_eq_map]
      refine List.filterMap_congr fun e he => ?_
      rw [Function.comp_apply, Function.comp_apply, hentry e he]
    rw [← hread]
    exact hperm.filterMap entryAt?

/-! ### Rules as loading leaves them -/

/-- A rule as loading leaves it. -/
structure Canonical (r : Rule) : Prop where
  name_ne : r.name ≠ ""
  trim_name : Text.trim r.name = r.name
  trim_expression : Text.trim r.expression = r.expression
  self_notMem : r.name ∉ r.requiredTrue ∧ r.name ∉ r.orRules
  levels : r.levels.Proper
  seconds : ∀ (k : Nat) (level : Level), r.levels[k]? = some level → k < Number.word64
  inRange : r.toDocument.InRange

lemma lt_of_readKeys {entries : NameTable α} (h : readKeys rule table entries = .ok es)
    (hn : n ∈ es.map Prod.fst) : n < Number.word64 := by
  obtain ⟨e, he, rfl⟩ := List.mem_map.mp hn
  have hread := Traversal.mapM_eq_some_iff.mp (readKeys_eq_ok_iff.mp h)
  obtain ⟨e', -, he'⟩ := Traversal.exists_of_mem_read hread he
  exact (Number.unsigned?_eq_some_iff.mp (entryAt?_eq_some_iff.mp he').1).2

/-- The rule of a document is as loading leaves it. -/
lemma canonical_of_ofDocument (h : ofDocument d = .ok r) (hd : d.InRange) : r.Canonical := by
  obtain ⟨hname, messages, groups, hmessages, hgroups, rfl⟩ := ofDocument_eq_ok_iff.mp h
  exact {
    name_ne := hname
    trim_name := Text.trim_trim
    trim_expression := Text.trim_trim
    self_notMem := notMem_of_ofDocument h
    levels := proper_levelsOf
    seconds := by
      intro k level hk
      rcases mem_of_getElem?_levelsOf hk with hk | hk
      · exact lt_of_readKeys hmessages hk
      · exact lt_of_readKeys hgroups hk
    inRange := hd }

lemma others_toList {names : NameSet} (h : rule ∉ names) : others rule names.toList = names := by
  refine Std.ExtTreeSet.ext_mem fun name => ?_
  rw [mem_others, Std.ExtTreeSet.mem_toList]
  refine and_iff_left_of_imp fun hname heq => h (heq ▸ hname)

namespace Canonical

/-- The seconds of all halves of levels can be written as keys. -/
lemma lt_of_mem_entriesOf (h : r.Canonical) (half : Level → Option α) :
    ∀ e ∈ r.levels.entriesOf half, e.1 < Number.word64 := by
  intro e he
  obtain ⟨level, hlevel, -⟩ := Levels.mem_entriesOf_iff_exists.mp he
  exact h.seconds e.1 level hlevel

lemma readKeys_errorMessages (h : r.Canonical) : ∃ messages,
    readKeys rule table r.toDocument.errorMessages = .ok messages ∧
      messages.Perm r.levels.messages := by
  have hlt := h.lt_of_mem_entriesOf Level.message
  obtain ⟨messages, hread, hperm⟩ := readKeys_ofList Levels.nodup_entriesOf hlt id
  refine ⟨messages, hread, hperm.trans (List.Perm.of_eq ?_)⟩
  exact List.map_id r.levels.messages

lemma readKeys_escalation (h : r.Canonical) : ∃ groups,
    readKeys rule table r.toDocument.escalation = .ok groups ∧
      (asSets groups).Perm r.levels.groups := by
  have hlt := h.lt_of_mem_entriesOf Level.notifyGroups
  obtain ⟨groups, hread, hperm⟩ :=
    readKeys_ofList Levels.nodup_entriesOf hlt fun groups => groups.toList
  refine ⟨groups, hread, (hperm.map _).trans (List.Perm.of_eq ?_)⟩
  rw [List.map_map]
  refine (List.map_congr_left fun e _ => ?_).trans (List.map_id r.levels.groups)
  rw [Function.comp_apply, NameSet.ofNames_toList]
  rfl

/-- A rule as loading leaves it is the rule of its own document. -/
lemma ofDocument_toDocument (h : r.Canonical) : ofDocument r.toDocument = .ok r := by
  have hname : r.toDocument.ruleName = r.name := h.trim_name
  obtain ⟨messages, hmessages, hmessagesPerm⟩ := h.readKeys_errorMessages
  obtain ⟨groups, hgroups, hgroupsPerm⟩ := h.readKeys_escalation
  have hlevels : levelsOf messages groups = r.levels :=
    levelsOf_of_perm h.levels hmessagesPerm hgroupsPerm
  have hparts : withLevels r.toDocument r.levels = r := by
    rw [withLevels, hname]
    simp only [toDocument, h.trim_expression, NameSet.ofNames_toList,
      others_toList h.self_notMem.1, others_toList h.self_notMem.2]
  refine ofDocument_eq_ok_iff.mpr ⟨?_, messages, groups, hmessages, hgroups, ?_⟩
  · rw [hname]
    exact h.name_ne
  · rw [hlevels, hparts]

end Canonical

/-! ### Lists of rules -/

/-- If all rules of a list have new names and can be read, all are loaded. -/
lemma sift_eq_map {seen : NameSet} (hnodup : (rs.map Rule.name).Nodup)
    (hseen : ∀ r ∈ rs, r.name ∉ seen) (hread : ∀ r ∈ rs, r.Readable) :
    sift seen rs = rs.map (·, .loaded) := by
  induction rs generalizing seen with
  | nil => rfl
  | cons r rs ih =>
      rw [List.map_cons, List.nodup_cons] at hnodup
      have hstatus : r.status seen = .loaded :=
        status_eq_loaded_iff.mpr ⟨hseen r List.mem_cons_self, hread r List.mem_cons_self⟩
      have hlater : ∀ r' ∈ rs, r'.name ∉ seen.insert r.name := by
        intro r' hr' hmem
        rcases NameSet.mem_insert.mp hmem with heq | hmem
        · rw [heq] at hnodup
          exact hnodup.1 (List.mem_map_of_mem hr')
        · exact hseen r' (List.mem_cons_of_mem r hr') hmem
      rw [sift, hstatus, List.map_cons,
        ih hnodup.2 hlater fun r' hr' => hread r' (List.mem_cons_of_mem r hr')]

end Rule

namespace RuleSet

variable {rs : List Rule} {set : RuleSet} {s : String}

/-- The rule set in which all rules of a list are loaded. -/
def allLoaded (rs : List Rule) : RuleSet :=
  ⟨rs, rs.map fun r => ⟨r.name, .loaded⟩⟩

lemma ofRules_eq_allLoaded (hnodup : (rs.map Rule.name).Nodup) (hread : ∀ r ∈ rs, r.Readable) :
    ofRules rs = allLoaded rs := by
  have hsift : Rule.sift ∅ rs = rs.map (·, .loaded) :=
    Rule.sift_eq_map hnodup (fun _ _ => Std.ExtTreeSet.not_mem_empty) hread
  have hfilter : (rs.map fun r => (r, LoadStatus.loaded)).filter (·.2 = .loaded) =
      rs.map (·, .loaded) := by
    refine List.filter_eq_self.mpr fun e he => ?_
    obtain ⟨r, -, rfl⟩ := List.mem_map.mp he
    exact decide_eq_true rfl
  rw [ofRules, hsift, allLoaded]
  simp only [hfilter, List.map_map]
  exact congrArg (RuleSet.mk · _) (List.map_id rs)

/-- A list of rules as loading leaves them is loaded from its own text. -/
lemma ofText_listToText (hcanonical : ∀ r ∈ rs, r.Canonical) (hread : ∀ r ∈ rs, r.Readable)
    (hnodup : (rs.map Rule.name).Nodup) :
    ofText (RuleDocument.listToText (rs.map Rule.toDocument)) = .ok (allLoaded rs) := by
  have hinRange : ∀ d ∈ rs.map Rule.toDocument, d.InRange := by
    intro d hd
    obtain ⟨r, hr, rfl⟩ := List.mem_map.mp hd
    exact (hcanonical r hr).inRange
  have hrules : (rs.map Rule.toDocument).map Rule.ofDocument = rs.map .ok := by
    rw [List.map_map]
    refine List.map_congr_left fun r hr => ?_
    rw [Function.comp_apply, (hcanonical r hr).ofDocument_toDocument]
  have hset : ofDocuments (rs.map Rule.toDocument) = .ok (allLoaded rs) :=
    ofDocuments_eq_ok_iff.mpr ⟨rs, hrules, ofRules_eq_allLoaded hnodup hread⟩
  rw [ofText, Rule.listOfText, RuleDocument.listOfText?_listToText hinRange, ← hset]
  rfl

/-- The rules that are loaded from a text are as loading leaves them. -/
lemma canonical_of_ofText (h : ofText s = .ok set) : ∀ r ∈ set.rules, r.Canonical := by
  intro r hr
  rw [ofText, Rule.listOfText] at h
  split at h
  next ds hds =>
    obtain ⟨rs, hrs, rfl⟩ := ofDocuments_eq_ok_iff.mp h
    obtain ⟨d, hd, hdr⟩ := Traversal.exists_of_mem_read hrs (Rule.mem_of_mem_kept hr)
    exact Rule.canonical_of_ofDocument hdr (RuleDocument.inRange_of_listOfText? hds d hd)
  next => cases h

/-- Rules that are loaded from a text are a list that is kept. -/
lemma exists_kept_of_ofText (h : ofText s = .ok set) : ∃ rs, set.rules = Rule.kept ∅ rs := by
  cases hrs : Rule.listOfText s with
  | error e =>
      rw [ofText, hrs] at h
      cases h
  | ok rs =>
      rw [ofText, hrs] at h
      exact ⟨rs, congrArg RuleSet.rules (Except.ok.inj h).symm⟩

lemma readable_of_ofText (h : ofText s = .ok set) : ∀ r ∈ set.rules, r.Readable := by
  obtain ⟨rs, hrs⟩ := exists_kept_of_ofText h
  rw [hrs]
  exact fun r => Rule.readable_of_mem_kept

lemma nodup_of_ofText (h : ofText s = .ok set) : (set.rules.map Rule.name).Nodup := by
  obtain ⟨rs, hrs⟩ := exists_kept_of_ofText h
  rw [hrs]
  exact Rule.nodup_kept

/-- **Loaded, written and loaded again.** The rules that are loaded from a text are all loaded from
the text that they are written as, in the same order. -/
theorem ofText_of_loaded (s : String) (set : RuleSet) (h : ofText s = .ok set) :
    ofText (RuleDocument.listToText (set.rules.map Rule.toDocument)) =
      .ok ⟨set.rules, set.rules.map fun r => ⟨r.name, .loaded⟩⟩ := by
  have hread := readable_of_ofText h
  have hnodup := nodup_of_ofText h
  exact ofText_listToText (canonical_of_ofText h) hread hnodup

/-- A rule that names itself, and another one with its name. -/
def doorText : String :=
  "[\x7B\"Name\": \"Door \", \"OrRules\": [\"Door\"], \"ErrorMessages\": \x7B\"5\": \"open\"\x7D" ++
  ", \"Escalation\": \x7B\"05\": []\x7D\x7D, \x7B\"Name\": \"Door\"\x7D]"

/-- The first of the two rules is loaded, and it is loaded again. -/
theorem ofText_of_loaded_door : ∃ set, ofText doorText = .ok set ∧
    set.rules.map Rule.name = ["Door"] ∧
    ofText (RuleDocument.listToText (set.rules.map Rule.toDocument)) =
      .ok ⟨set.rules, set.rules.map fun r => ⟨r.name, .loaded⟩⟩ := by
  have hnames : (ofText doorText).map (fun set => set.rules.map Rule.name) = .ok ["Door"] := by
    decide +kernel
  cases hset : ofText doorText with
  | error e =>
      rw [hset] at hnames
      exact absurd hnames nofun
  | ok set =>
      rw [hset] at hnames
      exact ⟨set, rfl, Except.ok.inj hnames, ofText_of_loaded doorText set hset⟩

end RuleSet

end SensorRules
