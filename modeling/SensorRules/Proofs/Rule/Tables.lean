import Mathlib.Data.List.Induction
import SensorRules.Proofs.Rule.Levels
import SensorRules.Proofs.Rule.Reading

/-!
The levels of a rule against the tables of its document. The same number of seconds can be written
as different keys, as in `60`, `060` and `+60`.

* `Rule.LastAt`: what the last of the keys that write a number of seconds says;
* `Rule.latest_eq_some_iff_lastAt`: of the entries of a table, this one counts;
* `Rule.Keeps`, `RuleDocument.KeptIn`: the entries of a table are all there, and nothing else;
* `Rule.keeps_iff_agree`: so they are if the keys that write one number say the same;
* `Rule.levels_of_ofDocument`: the levels of a rule, from the tables of its document;
* `Rule.spellings_matter`: an entry of a document may be lost.
-/

namespace SensorRules

variable {α β : Type} {table : NameTable α} {n k : Nat} {a a' : α} {found : Option α}
  {es : List (Nat × α)} {rule title : String} {f : α → β} {half : Nat → Option β}

lemma Levels.Proper.mem_iff {levels : Levels} (h : levels.Proper) :
    k ∈ levels ↔ levels.level k ≠ ⟨none, none⟩ := by
  rw [Std.ExtTreeMap.mem_iff_isSome_getElem?, h.getElem?_eq]
  split <;> simp [*]

namespace Rule

/-! ### The latest entry -/

lemma latest_concat (e : Nat × α) :
    latest k (es ++ [e]) found = if e.1 = k then some e.2 else latest k es found := by
  rw [latest, List.foldl_append]
  rfl

/-- The latest entry at a number of seconds is one with no other such entry after it. -/
lemma latest_eq_some_iff_append : latest k es none = some a ↔
    ∃ before after, es = before ++ (k, a) :: after ∧ k ∉ after.map Prod.fst := by
  constructor
  · induction es using List.reverseRecOn with
    | nil => exact nofun
    | append_singleton es e ih =>
        intro h
        rw [latest_concat] at h
        split at h
        next heq =>
          obtain rfl : e.2 = a := Option.some.inj h
          exact ⟨es, [], by rw [← heq], List.not_mem_nil⟩
        next hne =>
          obtain ⟨before, after, rfl, hafter⟩ := ih h
          refine ⟨before, after ++ [e], by simp, ?_⟩
          simpa [hafter] using Ne.symm hne
  · rintro ⟨before, after, rfl, hafter⟩
    rw [latest, List.foldl_append, List.foldl_cons, if_pos rfl]
    exact latest_of_notMem hafter

lemma exists_latest (found : Option α) (h : k ∈ es.map Prod.fst) :
    ∃ a, latest k es found = some a := by
  induction es using List.reverseRecOn with
  | nil => exact absurd h List.not_mem_nil
  | append_singleton es e ih =>
      rw [latest_concat]
      split
      next => exact ⟨e.2, rfl⟩
      next hne =>
        rw [List.map_append, List.mem_append] at h
        exact ih (h.resolve_right (by simpa using Ne.symm hne))

lemma latest_ne_none_iff : ¬ latest k es none = none ↔ k ∈ es.map Prod.fst := by
  refine ⟨fun h => ?_, fun hk h => ?_⟩
  · by_contra hk
    exact h (latest_of_notMem hk)
  · obtain ⟨a, ha⟩ := exists_latest none hk
    exact absurd (ha.symm.trans h) (Option.some_ne_none a)

lemma latest_map (f : α → β) (found : Option α) :
    latest k (es.map fun e => (e.1, f e.2)) (found.map f) = (latest k es found).map f := by
  induction es using List.reverseRecOn with
  | nil => rfl
  | append_singleton es e ih =>
      rw [List.map_append, List.map_singleton, latest_concat, latest_concat, ih]
      split <;> rfl

/-! ### The last key -/

/-- Some key of a table writes a number of seconds. -/
def Writes (table : NameTable α) (n : Nat) : Prop :=
  ∃ key ∈ table, secondsOf? key = some n

/-- The last of the keys of a table that write a number of seconds stands before a value. -/
def LastAt (table : NameTable α) (n : Nat) (a : α) : Prop :=
  ∃ key, table[key]? = some a ∧ secondsOf? key = some n ∧
    ∀ key' ∈ table, secondsOf? key' = some n → key' ≤ key

lemma mem_of_getElem?_eq_some {key : String} (h : table[key]? = some a) : key ∈ table :=
  Std.ExtTreeMap.mem_iff_isSome_getElem?.mpr (h ▸ rfl)

lemma LastAt.writes (h : LastAt table n a) : Writes table n := by
  obtain ⟨key, hkey, hn, -⟩ := h
  exact ⟨key, mem_of_getElem?_eq_some hkey, hn⟩

/-- There is only one last key. -/
lemma LastAt.unique (h : LastAt table n a) (h' : LastAt table n a') : a = a' := by
  obtain ⟨key, hkey, hn, hlast⟩ := h
  obtain ⟨key', hkey', hn', hlast'⟩ := h'
  obtain rfl : key = key' := String.le_antisymm
    (hlast' key (mem_of_getElem?_eq_some hkey) hn) (hlast key' (mem_of_getElem?_eq_some hkey') hn')
  exact Option.some.inj (hkey.symm.trans hkey')

section Read

variable (h : readKeys rule title table = .ok es)
include h

lemma mem_seconds_iff_writes : n ∈ es.map Prod.fst ↔ Writes table n := by
  have hread := Traversal.mapM_eq_some_iff.mp (readKeys_eq_ok_iff.mp h)
  constructor
  · intro hn
    obtain ⟨e, he, rfl⟩ := List.mem_map.mp hn
    obtain ⟨e', he', heq⟩ := Traversal.exists_of_mem_read hread he
    exact ⟨e'.1, NameTable.mem_iff_exists_mem_toList.mpr ⟨e'.2, he'⟩,
      (entryAt?_eq_some_iff.mp heq).1⟩
  · rintro ⟨key, hkey, hn⟩
    obtain ⟨a, ha⟩ := NameTable.mem_iff_exists_mem_toList.mp hkey
    obtain ⟨e, he, heq⟩ := Traversal.exists_read_of_mem hread ha
    obtain rfl : n = e.1 := Option.some.inj (hn.symm.trans (entryAt?_eq_some_iff.mp heq).1)
    exact List.mem_map_of_mem he

/-- The entries of a table are read in the order of their keys, so the latest has the last key. -/
lemma lastAt_of_latest (hlatest : latest n es none = some a) : LastAt table n a := by
  obtain ⟨before, after, rfl, hafter⟩ := latest_eq_some_iff_append.mp hlatest
  have hread := Traversal.mapM_eq_some_iff.mp (readKeys_eq_ok_iff.mp h)
  rw [List.map_append, List.map_cons] at hread
  obtain ⟨xs, rest, hlist, -, hrest⟩ := List.map_eq_append_iff.mp hread
  obtain ⟨e, ys, rfl, he, hys⟩ := List.map_eq_cons_iff.mp hrest
  obtain ⟨hn, ha⟩ : secondsOf? e.1 = some n ∧ e.2 = a := entryAt?_eq_some_iff.mp he
  have hsorted := NameTable.sorted_toList table
  rw [hlist, List.pairwise_append] at hsorted
  have hmem : (e.1, a) ∈ table.toList := by
    rw [hlist, ← ha]
    exact List.mem_append_right xs List.mem_cons_self
  refine ⟨e.1, Std.ExtTreeMap.mem_toList_iff_getElem?_eq_some.mp hmem, hn, fun key' hkey' hn' => ?_⟩
  obtain ⟨b, hb⟩ := NameTable.mem_iff_exists_mem_toList.mp hkey'
  rw [hlist, List.mem_append, List.mem_cons] at hb
  rcases hb with hb | hb | hb
  · exact Std.le_of_lt (hsorted.2.2 (key', b) hb e List.mem_cons_self)
  · exact hb ▸ Std.le_refl key'
  · -- the entries that come after are at other numbers of seconds
    obtain ⟨e', he', heq⟩ := Traversal.exists_read_of_mem hys hb
    obtain rfl : n = e'.1 := Option.some.inj (hn'.symm.trans (entryAt?_eq_some_iff.mp heq).1)
    exact absurd (List.mem_map_of_mem he') hafter

/-- What counts of a table at a number of seconds is what the last of its keys says. -/
lemma latest_eq_some_iff_lastAt : latest n es none = some a ↔ LastAt table n a := by
  refine ⟨lastAt_of_latest h, fun hlast => ?_⟩
  obtain ⟨a', ha'⟩ := exists_latest none ((mem_seconds_iff_writes h).mpr hlast.writes)
  rw [ha', (lastAt_of_latest h ha').unique hlast]

lemma exists_lastAt (hn : Writes table n) : ∃ a, LastAt table n a := by
  obtain ⟨a, ha⟩ := exists_latest none ((mem_seconds_iff_writes h).mpr hn)
  exact ⟨a, lastAt_of_latest h ha⟩

end Read

/-! ### Tables that are kept -/

/-- Every entry of a table is found at its number of seconds, in the form `f` gives it, and nothing
else is found. -/
structure Keeps (table : NameTable α) (f : α → β) (half : Nat → Option β) : Prop where
  kept : ∀ key a, table[key]? = some a → ∃ n, secondsOf? key = some n ∧ half n = some (f a)
  nothingElse : ∀ n b, half n = some b →
    ∃ key a, table[key]? = some a ∧ secondsOf? key = some n ∧ f a = b

/-- Keys of a table that write the same number of seconds say the same. -/
def Agree (table : NameTable α) (f : α → β) : Prop :=
  ∀ key key' a a', table[key]? = some a → table[key']? = some a' →
    secondsOf? key = secondsOf? key' → f a = f a'

/-- A table is kept just if its keys agree. -/
lemma keeps_iff_agree (h : readKeys rule title table = .ok es)
    (hhalf : ∀ n b, half n = some b ↔ ∃ a, LastAt table n a ∧ f a = b) :
    Keeps table f half ↔ Agree table f := by
  constructor
  · intro hkeeps key key' a a' ha ha' heq
    obtain ⟨n, hn, hb⟩ := hkeeps.kept key a ha
    obtain ⟨n', hn', hb'⟩ := hkeeps.kept key' a' ha'
    obtain rfl : n = n' := Option.some.inj (hn.symm.trans (heq.trans hn'))
    exact Option.some.inj (hb.symm.trans hb')
  · intro hagree
    refine ⟨fun key a ha => ?_, fun n b hb => ?_⟩
    · have hkey := mem_of_getElem?_eq_some ha
      obtain ⟨n, hn⟩ := Option.ne_none_iff_exists'.mp (secondsOf?_ne_none_of_readKeys h hkey)
      obtain ⟨a', hlast⟩ := exists_lastAt h ⟨key, hkey, hn⟩
      refine ⟨n, hn, (hhalf n (f a)).mpr ⟨a', hlast, ?_⟩⟩
      -- whatever the last key is, it says the same as this one
      obtain ⟨key', ha', hn', -⟩ := hlast
      exact hagree key' key a' a ha' ha (hn'.trans hn.symm)
    · obtain ⟨a, ⟨key, ha, hn, -⟩, rfl⟩ := (hhalf n b).mp hb
      exact ⟨key, a, ha, hn, rfl⟩

end Rule

/-! ### The levels of a rule -/

namespace RuleDocument

/-- The entries of both tables are all kept in levels, and there is nothing else in them. -/
structure KeptIn (d : RuleDocument) (levels : Levels) : Prop where
  messages : Rule.Keeps d.errorMessages id fun n => (levels.level n).message
  groups : Rule.Keeps d.escalation NameSet.ofNames fun n => (levels.level n).notifyGroups
  seconds : ∀ n ∈ levels, Rule.Writes d.errorMessages n ∨ Rule.Writes d.escalation n

/-- In each table, the keys that write the same number of seconds say the same. -/
def KeysAgree (d : RuleDocument) : Prop :=
  Rule.Agree d.errorMessages id ∧ Rule.Agree d.escalation NameSet.ofNames

end RuleDocument

namespace Rule

variable {d : RuleDocument} {r : Rule}

lemma message_level_iff (h : ofDocument d = .ok r) {m : String} :
    (r.levels.level n).message = some m ↔ LastAt d.errorMessages n m := by
  obtain ⟨-, messages, groups, hmessages, -, rfl⟩ := ofDocument_eq_ok_iff.mp h
  rw [← latest_eq_some_iff_lastAt hmessages, withLevels, level_levelsOf]

lemma notifyGroups_level_iff (h : ofDocument d = .ok r) {names : NameSet} :
    (r.levels.level n).notifyGroups = some names ↔
      ∃ list, LastAt d.escalation n list ∧ NameSet.ofNames list = names := by
  obtain ⟨-, messages, groups, -, hgroups, rfl⟩ := ofDocument_eq_ok_iff.mp h
  have hlatest : latest n (asSets groups) none = (latest n groups none).map NameSet.ofNames :=
    latest_map NameSet.ofNames none
  simp only [← latest_eq_some_iff_lastAt hgroups, withLevels, level_levelsOf, hlatest,
    Option.map_eq_some_iff]

lemma mem_levels_iff (h : ofDocument d = .ok r) :
    n ∈ r.levels ↔ Writes d.errorMessages n ∨ Writes d.escalation n := by
  obtain ⟨-, messages, groups, hmessages, hgroups, rfl⟩ := ofDocument_eq_ok_iff.mp h
  have hlevels : (withLevels d (levelsOf messages groups)).levels = levelsOf messages groups := rfl
  have hsets : (asSets groups).map Prod.fst = groups.map Prod.fst := by
    rw [asSets, List.map_map]
    rfl
  rw [hlevels, proper_levelsOf.mem_iff, level_levelsOf, ne_eq, Level.mk.injEq, not_and_or,
    latest_ne_none_iff, latest_ne_none_iff, hsets, mem_seconds_iff_writes hmessages,
    mem_seconds_iff_writes hgroups]

/-- **Levels from tables.** A rule has levels at just the numbers of seconds that some key of its
document writes. The message there is what the last of these keys says, in the order of the keys as
texts, and so are the groups. So the entries of the document are all kept, and nothing else is in
the levels, just if the keys of a table that write the same number say the same. -/
theorem levels_of_ofDocument (d : RuleDocument) (r : Rule) (h : ofDocument d = .ok r) :
    (∀ n m, (r.levels.level n).message = some m ↔ LastAt d.errorMessages n m) ∧
    (∀ n names, (r.levels.level n).notifyGroups = some names ↔
      ∃ list, LastAt d.escalation n list ∧ NameSet.ofNames list = names) ∧
    (∀ n, n ∈ r.levels ↔ Writes d.errorMessages n ∨ Writes d.escalation n) ∧
    (d.KeptIn r.levels ↔ d.KeysAgree) := by
  have hmessage : ∀ n m, (r.levels.level n).message = some m ↔ LastAt d.errorMessages n m :=
    fun n m => message_level_iff h
  have hgroups : ∀ n names, (r.levels.level n).notifyGroups = some names ↔
      ∃ list, LastAt d.escalation n list ∧ NameSet.ofNames list = names :=
    fun n names => notifyGroups_level_iff h
  obtain ⟨-, messages, groups, hreadMessages, hreadGroups, -⟩ := ofDocument_eq_ok_iff.mp h
  have hkeptMessages := keeps_iff_agree (f := id) hreadMessages fun n m =>
    (hmessage n m).trans (by simp)
  have hkeptGroups := keeps_iff_agree hreadGroups hgroups
  refine ⟨hmessage, hgroups, fun n => mem_levels_iff h, fun hkept => ?_, fun hagree => ?_⟩
  · exact ⟨hkeptMessages.mp hkept.messages, hkeptGroups.mp hkept.groups⟩
  · exact ⟨hkeptMessages.mpr hagree.1, hkeptGroups.mpr hagree.2, fun n => (mem_levels_iff h).mp⟩

/-- A document for a door with the given tables. -/
def doorDocument (errorMessages : List (String × String))
    (escalation : List (String × List String)) : RuleDocument where
  name := "Door"
  expression := ""
  sensorNames := []
  viewPermissions := []
  requiredTrueRules := []
  requiredFalseRules := []
  okMessage := ""
  errorMessages := Std.ExtTreeMap.ofList errorMessages
  escalation := Std.ExtTreeMap.ofList escalation
  invisible := false
  relatedFileLogs := []
  priority := 0

lemma agree_ofList {entries : List (String × α)} (h : ∀ e ∈ entries, ∀ e' ∈ entries,
    secondsOf? e.1 = secondsOf? e'.1 → f e.2 = f e'.2) : Agree (Std.ExtTreeMap.ofList entries) f :=
  fun key key' a a' ha ha' heq => h (key, a) (NameTable.mem_of_getElem?_ofList ha) (key', a')
    (NameTable.mem_of_getElem?_ofList ha') heq

/-- Keys that agree: one minute is written twice, and so are the groups after five seconds. -/
def agreeingDocument : RuleDocument :=
  doorDocument [("060", "open"), ("60", "open")]
    [("+5", ["family", "admin"]), ("5", ["admin", "family"]), ("60", [])]

/-- All entries of `agreeingDocument` are kept. -/
theorem levels_of_ofDocument_agreeing : ∃ r, ofDocument agreeingDocument = .ok r ∧
    agreeingDocument.KeptIn r.levels ∧ (r.levels.level 60).message = some "open" ∧
    ∀ n, n ∈ r.levels ↔ Writes agreeingDocument.errorMessages n ∨
      Writes agreeingDocument.escalation n := by
  have hlevel : (ofDocument agreeingDocument).map (fun r => (r.levels.level 60).message) =
      .ok (some "open") := by
    decide +kernel
  have hagree : agreeingDocument.KeysAgree :=
    ⟨agree_ofList (by decide +kernel), agree_ofList (by decide +kernel)⟩
  cases hr : ofDocument agreeingDocument with
  | error e =>
      rw [hr] at hlevel
      cases hlevel
  | ok r =>
      rw [hr] at hlevel
      obtain ⟨-, -, hseconds, hkept⟩ := levels_of_ofDocument agreeingDocument r hr
      exact ⟨r, rfl, hkept.mpr hagree, Except.ok.inj hlevel, hseconds⟩

/-- Keys that do not agree. -/
def disagreeingDocument : RuleDocument :=
  doorDocument [("060", "left open"), ("60", "open")] []

/-- **Spellings matter**: an entry of a document may be lost. Both keys of `disagreeingDocument`
write one minute, and only one of the two messages is kept. -/
theorem spellings_matter : ¬ ∀ (d : RuleDocument) (r : Rule), ofDocument d = .ok r →
    d.KeptIn r.levels := by
  intro h
  have hlevel : (ofDocument disagreeingDocument).map (fun r => (r.levels.level 60).message) =
      .ok (some "open") := by
    decide +kernel
  have hkey : disagreeingDocument.errorMessages["060"]? = some "left open" := by decide +kernel
  have hseconds : secondsOf? "060" = some 60 := by decide +kernel
  cases hr : ofDocument disagreeingDocument with
  | error e =>
      rw [hr] at hlevel
      cases hlevel
  | ok r =>
      rw [hr] at hlevel
      obtain ⟨n, hn, hmessage⟩ := (h disagreeingDocument r hr).messages.kept "060" "left open" hkey
      obtain rfl : n = 60 := Option.some.inj (hn.symm.trans hseconds)
      have hopen : (r.levels.level 60).message = some "open" := Except.ok.inj hlevel
      exact absurd (hopen.symm.trans hmessage) (by decide)

end Rule

end SensorRules
