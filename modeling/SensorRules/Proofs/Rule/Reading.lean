import SensorRules.Proofs.Names
import SensorRules.Proofs.Number.Whole
import SensorRules.Proofs.Text.Blank
import SensorRules.Proofs.Traversal
import SensorRules.Rule.Document

/-!
The rule of a document.

* `Rule.KeyWrites`: the keys that write a number of seconds (`Rule.secondsOf?_eq_some_iff`);
* `RuleDocument.Fault`: what can be wrong with a document, and `RuleDocument.Malformed`;
* `Rule.readKeys_eq_ok_iff`: a table is read if each of its keys is;
* `Rule.ofDocument_eq_ok_iff`: the rule of a document, part by part;
* `Rule.fault_of_ofDocument`: every error names what is wrong;
* `Rule.exists_ofDocument_iff`: there is a rule unless something is wrong.
-/

namespace SensorRules

variable {α : Type} {d : RuleDocument} {r : Rule} {e : Rule.Error} {rule table key : String}
  {n : Nat} {entries : NameTable α} {es : List (Nat × α)}

/-- The number of seconds that a key of a table writes, blanks around it aside. -/
def Rule.secondsOf? (key : String) : Option Nat :=
  Number.unsigned? Number.word64 (Text.trim key)

/-- A key of a table is a number of 64 bits: digits of ASCII with an optional plus sign, and nothing
but blanks around them. -/
def Rule.KeyWrites (key : String) (n : Nat) : Prop :=
  ∃ body, Text.Trims key body ∧
    (∃ cs, (body.toList = cs ∨ body.toList = '+' :: cs) ∧ (cs ≠ [] ∧ ∀ c ∈ cs, c.isDigit) ∧
      Number.ofDigits cs = n) ∧ n < Number.word64

namespace RuleDocument

/-- The name of the rule that a document is for. -/
def ruleName (d : RuleDocument) : String :=
  Text.trim d.name

/-- What is wrong with a document. -/
inductive Fault (d : RuleDocument) : Rule.Error → Prop where
  | blankName : (∀ c ∈ d.name.toList, Text.isBlank c = true) → Fault d .blankName
  | message (key : String) : key ∈ d.errorMessages → (∀ n, ¬ Rule.KeyWrites key n) →
      Fault d (.notSeconds d.ruleName "ErrorMessages" key)
  | groups (key : String) : key ∈ d.escalation → (∀ n, ¬ Rule.KeyWrites key n) →
      Fault d (.notSeconds d.ruleName "Escalation" key)

/-- Something is wrong with a document. -/
def Malformed (d : RuleDocument) : Prop :=
  ∃ e, d.Fault e

end RuleDocument

namespace Rule

/-! ### Keys -/

/-- A key is read as the number that it writes, and otherwise it is not read. -/
lemma secondsOf?_eq_some_iff : secondsOf? key = some n ↔ KeyWrites key n := by
  rw [secondsOf?, Number.unsigned?_eq_some_iff]
  constructor
  · exact fun h => ⟨Text.trim key, Text.trims_trim key, h⟩
  · rintro ⟨body, hbody, h⟩
    rwa [hbody.trim_eq]

lemma secondsOf?_eq_none_iff : secondsOf? key = none ↔ ∀ n, ¬ KeyWrites key n := by
  rw [Option.eq_none_iff_forall_ne_some]
  exact forall_congr' fun n => not_congr secondsOf?_eq_some_iff

lemma seconds_eq : seconds rule table key =
    match secondsOf? key with
    | some n => .ok n
    | none => .error (.notSeconds rule table key) := by
  -- by cases at once: compared as they stand, the two sides would be evaluated at `2 ^ 64`
  delta seconds secondsOf?
  cases Number.unsigned? Number.word64 (Text.trim key) <;> rfl

lemma seconds_eq_ok_iff : seconds rule table key = .ok n ↔ secondsOf? key = some n := by
  rw [seconds_eq]
  split <;> simp [*]

lemma seconds_eq_error_iff :
    seconds rule table key = .error e ↔ secondsOf? key = none ∧ e = .notSeconds rule table key := by
  rw [seconds_eq]
  split <;> simp [*, eq_comm]

/-- An entry of a table by its seconds. -/
def entryAt? (e : String × α) : Option (Nat × α) :=
  (secondsOf? e.1).map (·, e.2)

lemma entryAt?_eq_some_iff {e : String × α} {e' : Nat × α} :
    entryAt? e = some e' ↔ secondsOf? e.1 = some e'.1 ∧ e.2 = e'.2 := by
  rw [entryAt?, Option.map_eq_some_iff]
  constructor
  · rintro ⟨n, hn, rfl⟩
    exact ⟨hn, rfl⟩
  · rintro ⟨hn, ha⟩
    exact ⟨e'.1, hn, Prod.ext rfl ha⟩

/-- A table is read if each of its keys is. -/
lemma readKeys_eq_ok_iff :
    readKeys rule table entries = .ok es ↔ entries.toList.mapM entryAt? = some es := by
  refine Traversal.mapM_eq_ok_iff_some fun e e' => ?_
  rw [Traversal.bind_eq_ok_iff, entryAt?_eq_some_iff]
  constructor
  · rintro ⟨n, hn, ⟨⟩⟩
    exact ⟨seconds_eq_ok_iff.mp hn, rfl⟩
  · rintro ⟨hn, ha⟩
    exact ⟨e'.1, seconds_eq_ok_iff.mpr hn, congrArg Except.ok (Prod.ext rfl ha)⟩

lemma readKeys_eq_error (h : readKeys rule table entries = .error e) :
    ∃ key ∈ entries, secondsOf? key = none ∧ e = .notSeconds rule table key := by
  obtain ⟨before, a, after, heq, -, ha⟩ := Traversal.mapM_eq_error_iff.mp h
  obtain ha | ⟨_, _, ⟨⟩⟩ := Traversal.bind_eq_error_iff.mp ha
  refine ⟨a.1, ?_, seconds_eq_error_iff.mp ha⟩
  refine NameTable.mem_iff_exists_mem_toList.mpr ⟨a.2, ?_⟩
  rw [heq]
  exact List.mem_append_right before List.mem_cons_self

lemma secondsOf?_ne_none_of_readKeys (h : readKeys rule table entries = .ok es)
    (hkey : key ∈ entries) : secondsOf? key ≠ none := by
  obtain ⟨a, ha⟩ := NameTable.mem_iff_exists_mem_toList.mp hkey
  have hread := Traversal.mapM_eq_some_iff.mp (readKeys_eq_ok_iff.mp h)
  obtain ⟨e, -, he⟩ := Traversal.exists_read_of_mem hread ha
  rw [(entryAt?_eq_some_iff.mp he).1]
  exact Option.some_ne_none e.1

/-! ### Documents -/

/-- The rule with the parts of a document and with levels of its own. -/
def withLevels (d : RuleDocument) (levels : Levels) : Rule where
  name := d.ruleName
  expression := Text.trim d.expression
  sensorNames := NameSet.ofNames d.sensorNames
  viewPermissions := NameSet.ofNames d.viewPermissions
  requiredTrue := others d.ruleName d.requiredTrueRules
  orRules := others d.ruleName d.requiredFalseRules
  okMessage := d.okMessage
  levels := levels
  invisible := d.invisible
  priority := d.priority
  relatedLogs := NameSet.ofNames d.relatedFileLogs

lemma ofDocument_eq : ofDocument d =
    if d.ruleName = "" then .error .blankName
    else readKeys d.ruleName "ErrorMessages" d.errorMessages >>= fun messages =>
      readKeys d.ruleName "Escalation" d.escalation >>= fun groups =>
        .ok (withLevels d (levelsOf messages groups)) := by
  rw [RuleDocument.ruleName, ofDocument]
  split <;> rfl

/-- The rule of a document that has a name and whose tables can be read. -/
lemma ofDocument_eq_ok_iff : ofDocument d = .ok r ↔ d.ruleName ≠ "" ∧ ∃ messages groups,
    readKeys d.ruleName "ErrorMessages" d.errorMessages = .ok messages ∧
      readKeys d.ruleName "Escalation" d.escalation = .ok groups ∧
      withLevels d (levelsOf messages groups) = r := by
  rw [ofDocument_eq]
  split
  next hname => exact ⟨nofun, fun h => absurd hname h.1⟩
  next hname => simp only [Traversal.bind_eq_ok_iff, Except.ok.injEq, exists_and_left, ne_eq, hname,
      not_false_eq_true, true_and]

/-- Every error names what is wrong. -/
lemma fault_of_ofDocument (h : ofDocument d = .error e) : d.Fault e := by
  rw [ofDocument_eq] at h
  split at h
  next hname =>
    cases h
    exact .blankName (Text.trim_eq_empty_iff.mp hname)
  next =>
    obtain h | ⟨messages, -, h⟩ := Traversal.bind_eq_error_iff.mp h
    · obtain ⟨key, hkey, hnone, rfl⟩ := readKeys_eq_error h
      exact .message key hkey (secondsOf?_eq_none_iff.mp hnone)
    obtain h | ⟨groups, -, ⟨⟩⟩ := Traversal.bind_eq_error_iff.mp h
    obtain ⟨key, hkey, hnone, rfl⟩ := readKeys_eq_error h
    exact .groups key hkey (secondsOf?_eq_none_iff.mp hnone)

/-- A document makes a rule unless something is wrong with it. -/
lemma exists_ofDocument_iff : (∃ r, ofDocument d = .ok r) ↔ ¬ d.Malformed := by
  constructor
  · rintro ⟨r, hr⟩ ⟨e, he⟩
    obtain ⟨hname, messages, groups, hmessages, hgroups, -⟩ := ofDocument_eq_ok_iff.mp hr
    cases he with
    | blankName hblank => exact hname (Text.trim_eq_empty_iff.mpr hblank)
    | message key hkey hnone =>
        exact secondsOf?_ne_none_of_readKeys hmessages hkey (secondsOf?_eq_none_iff.mpr hnone)
    | groups key hkey hnone =>
        exact secondsOf?_ne_none_of_readKeys hgroups hkey (secondsOf?_eq_none_iff.mpr hnone)
  · intro h
    cases hd : ofDocument d with
    | ok r => exact ⟨r, rfl⟩
    | error e => exact absurd ⟨e, fault_of_ofDocument hd⟩ h

/-- A document makes no rule if something is wrong with it, and the error names that. -/
lemma exists_ofDocument_error (h : d.Malformed) : ∃ e, ofDocument d = .error e ∧ d.Fault e := by
  cases hd : ofDocument d with
  | ok r => exact absurd h (exists_ofDocument_iff.mp ⟨r, hd⟩)
  | error e => exact ⟨e, rfl, fault_of_ofDocument hd⟩

section Parts

variable (h : ofDocument d = .ok r)
include h

lemma name_of_ofDocument : r.name = d.ruleName := by
  obtain ⟨-, _, _, -, -, rfl⟩ := ofDocument_eq_ok_iff.mp h
  rfl

lemma name_ne_of_ofDocument : r.name ≠ "" := by
  rw [name_of_ofDocument h]
  exact (ofDocument_eq_ok_iff.mp h).1

lemma expression_of_ofDocument : r.expression = Text.trim d.expression := by
  obtain ⟨-, _, _, -, -, rfl⟩ := ofDocument_eq_ok_iff.mp h
  rfl

end Parts

lemma mem_others {name : String} {names : List String} :
    name ∈ others rule names ↔ name ∈ names ∧ name ≠ rule := by
  rw [others, NameSet.mem_ofNames, List.mem_filter, bne_iff_ne]

/-- A rule is none of its own preconditions. -/
lemma notMem_of_ofDocument (h : ofDocument d = .ok r) :
    r.name ∉ r.requiredTrue ∧ r.name ∉ r.orRules := by
  obtain ⟨-, _, _, -, -, rfl⟩ := ofDocument_eq_ok_iff.mp h
  exact ⟨fun hmem => (mem_others.mp hmem).2 rfl, fun hmem => (mem_others.mp hmem).2 rfl⟩

end Rule

end SensorRules
