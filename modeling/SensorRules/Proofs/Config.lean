import Mathlib.Data.List.Infix
import Mathlib.Data.List.Nodup
import Mathlib.Tactic.Lemma
import SensorRules.Config

/-!
Which variables of the environment count for the settings of a profile.

* `Environment.Chooses`: the text that counts for a setting, by what is set and not empty;
* `Config.Entry` and `Config.entries`: the settings, each with its variable, how its text is read
  and where its value stands; `Config.ext_entries`: there are no others;
* `Config.reads`: the variables that are looked up for a setting in a profile, which decide the
  settings (`Config.ofProfile_congr`);
* `Config.eq_of_ends`: the name of a setting cannot be mistaken for the end of another one, and so
  the name of a variable tells the profile and the setting;
* `Config.profiles_isolated`: the variables of one profile do not count for another one.
-/

namespace SensorRules

/-- The name of the variable of a profile for a setting. -/
def variableOf (profile key : String) : String :=
  profile ++ "_" ++ key

/-! ### The text that counts -/

namespace Environment

variable {env : Environment} {profile key name text : String} {text? : Option String}

/-- The variable is set to a text that is not empty. -/
def Sets (env : Environment) (name text : String) : Prop :=
  env name = some text ∧ text ≠ ""

/-- The profile has no variable of its own for the setting. -/
def NotOwn (env : Environment) (profile key : String) : Prop :=
  profile = "" ∨ ∀ text, ¬ env.Sets (variableOf profile key) text

/-- The text that counts for a setting in a profile, if there is one. -/
inductive Chooses (env : Environment) (profile key : String) : Option String → Prop
  /-- The variable of the profile comes first. -/
  | own {text : String} : profile ≠ "" → env.Sets (variableOf profile key) text →
      Chooses env profile key (some text)
  /-- Then comes the variable that all profiles share. -/
  | shared {text : String} : env.NotOwn profile key → env.Sets key text →
      Chooses env profile key (some text)
  /-- Neither of them is set. -/
  | nothing : env.NotOwn profile key → (∀ text, ¬ env.Sets key text) →
      Chooses env profile key none

lemma value?_eq_some_iff : env.value? name = some text ↔ env.Sets name text := by
  rw [value?, Option.filter_eq_some_iff, decide_eq_true_eq, Sets]

lemma value?_eq_none_iff : env.value? name = none ↔ ∀ text, ¬ env.Sets name text := by
  simp only [Option.eq_none_iff_forall_ne_some, ne_eq, value?_eq_some_iff]

lemma setting?_of_notOwn (h : env.NotOwn profile key) :
    env.setting? profile key = env.value? key := by
  rw [setting?]
  split
  next => rfl
  next hprofile =>
    have hnone := value?_eq_none_iff.mpr (h.resolve_left hprofile)
    rw [variableOf] at hnone
    rw [hnone, Option.none_or]

lemma setting?_of_own (hprofile : profile ≠ "") (h : env.Sets (variableOf profile key) text) :
    env.setting? profile key = some text := by
  have hsome := value?_eq_some_iff.mpr h
  rw [variableOf] at hsome
  rw [setting?, if_neg hprofile, hsome, Option.some_or]

/-- What is looked up is the text that counts. -/
lemma chooses_setting? (env : Environment) (profile key : String) :
    env.Chooses profile key (env.setting? profile key) := by
  by_cases hnot : env.NotOwn profile key
  · rw [setting?_of_notOwn hnot]
    cases hvalue : env.value? key with
    | none => exact .nothing hnot (value?_eq_none_iff.mp hvalue)
    | some text => exact .shared hnot (value?_eq_some_iff.mp hvalue)
  · obtain ⟨hprofile, hown⟩ := not_or.mp hnot
    obtain ⟨text, hown⟩ := not_forall_not.mp hown
    rw [setting?_of_own hprofile hown]
    exact .own hprofile hown

end Environment

namespace Config

variable {env env' : Environment} {profile other name : String}

/-! ### The settings -/

/-- A setting: the name of its variable, how the text of the variable is read, and its value. -/
structure Entry where
  Value : Type
  key : String
  reader : String → Option Value
  value : Config → Value

/-- The settings. -/
def entries : List Entry :=
  [⟨String, "RULES_FILE", some, rulesFile⟩,
   ⟨String, "MODEL_FILE", some, modelFile⟩,
   ⟨Nat, "EVAL_INTERVAL_SECS", Number.unsigned? Number.word64, (·.engine.intervalSecs)⟩,
   ⟨Nat, "HISTORY_CAPACITY", Number.unsigned? Number.word64, (·.engine.historyCapacity)⟩,
   ⟨Boundary, "ESCALATION_BOUNDARY", fun s => (Boundary.read s).toOption, (·.engine.boundary)⟩,
   ⟨Nat, "WORKING_HOURS_START", Number.unsigned? Number.word32, (·.engine.workingHours.start)⟩,
   ⟨Nat, "WORKING_HOURS_END", Number.unsigned? Number.word32, (·.engine.workingHours.stop)⟩]

/-- The profile and the settings are all that a configuration has. -/
lemma ext_entries {c c' : Config} (hprofile : c.profile = c'.profile)
    (h : ∀ e ∈ entries, e.value c = e.value c') : c = c' := by
  obtain ⟨profile, rulesFile, modelFile, interval, capacity, boundary, start, stop⟩ := c
  obtain ⟨profile', rulesFile', modelFile', interval', capacity', boundary', start', stop'⟩ := c'
  simp only [entries, List.forall_mem_cons] at h
  simp_all

/-- Each setting is read from the text that is looked up under its name. -/
lemma value_ofProfile {e : Entry} (he : e ∈ entries) (env : Environment) (profile : String) :
    e.value (ofProfile env profile) =
      ((env.setting? (Text.uppercase profile) e.key).bind e.reader).getD (e.value standard) := by
  simp only [entries, List.mem_cons, List.not_mem_nil, or_false] at he
  rcases he with rfl | rfl | rfl | rfl | rfl | rfl | rfl <;>
    simp only [ofProfile, EngineConfig.ofProfile, Environment.read, standard]

/-! ### Names of variables -/

/-- The variables that are looked up for a setting in a profile. -/
def reads (profile key : String) : List String :=
  if profile = "" then [key] else [variableOf profile key, key]

lemma toList_variableOf (profile key : String) :
    (variableOf profile key).toList = profile.toList ++ '_' :: key.toList := by
  rw [variableOf, String.toList_append, String.toList_append, List.append_assoc]
  rfl

lemma mem_reads {key : String} : name ∈ reads profile key ↔
    profile ≠ "" ∧ name = variableOf profile key ∨ name = key := by
  rw [reads]
  split
  next h => simp [h]
  next h => simp [h]

section Names

variable {e e' : Entry} (he : e ∈ entries) (he' : e' ∈ entries)
include he he'

/-- Each setting has a name of its own. -/
lemma eq_of_key (h : e.key = e'.key) : e = e' := by
  have hnodup : (entries.map Entry.key).Nodup := by decide
  exact List.inj_on_of_nodup_map hnodup he he' h

/-- No name of a setting ends with a low line and the name of a setting. -/
lemma not_ends : ¬ '_' :: e.key.toList <:+ e'.key.toList := by
  have hkeys : ∀ key ∈ entries.map Entry.key, ∀ key' ∈ entries.map Entry.key,
      ¬ '_' :: key.toList <:+ key'.toList := by decide
  exact hkeys _ (List.mem_map_of_mem he) _ (List.mem_map_of_mem he')

/-- No text ends with a low line and the name of a setting in two ways. -/
lemma eq_of_ends {cs : List Char} (h : '_' :: e.key.toList <:+ cs)
    (h' : '_' :: e'.key.toList <:+ cs) : e = e' := by
  rcases List.suffix_or_suffix_of_suffix h h' with hends | hends
  · rcases List.suffix_cons_iff.mp hends with heq | hends
    · exact eq_of_key he he' (String.toList_injective (List.cons.inj heq).2)
    · exact absurd hends (not_ends he he')
  · rcases List.suffix_cons_iff.mp hends with heq | hends
    · exact eq_of_key he he' (String.toList_injective (List.cons.inj heq).2.symm)
    · exact absurd hends (not_ends he' he)

/-- The name of a variable of a profile tells the profile and the setting. -/
lemma variableOf_inj (h : variableOf profile e.key = variableOf other e'.key) :
    profile = other ∧ e = e' := by
  have hchars := congrArg String.toList h
  rw [toList_variableOf, toList_variableOf] at hchars
  have hends : '_' :: e'.key.toList <:+ profile.toList ++ '_' :: e.key.toList := by
    rw [hchars]
    exact List.suffix_append _ _
  obtain rfl := eq_of_ends he he' (List.suffix_append _ _) hends
  exact ⟨String.toList_injective (List.append_cancel_right hchars), rfl⟩

/-- The variables of a profile are not those that all profiles share. -/
lemma variableOf_ne_key : variableOf profile e.key ≠ e'.key := by
  intro h
  have hends : '_' :: e.key.toList <:+ (variableOf profile e.key).toList := by
    rw [toList_variableOf]
    exact List.suffix_append _ _
  exact not_ends he he' (h ▸ hends)

/-- A variable is looked up for one setting only, and in one profile only unless all profiles share
it. -/
lemma eq_of_mem_reads (h : name ∈ reads profile e.key) (h' : name ∈ reads other e'.key) :
    e = e' ∧ (profile = other ∨ name = e.key) := by
  rcases mem_reads.mp h with ⟨-, rfl⟩ | rfl
  · rcases mem_reads.mp h' with ⟨-, heq⟩ | heq
    · obtain ⟨rfl, rfl⟩ := variableOf_inj he he' heq
      exact ⟨rfl, .inl rfl⟩
    · exact absurd heq (variableOf_ne_key he he')
  · rcases mem_reads.mp h' with ⟨-, heq⟩ | heq
    · exact absurd heq.symm (variableOf_ne_key he' he)
    · exact ⟨eq_of_key he he' heq, .inr rfl⟩

end Names

/-! ### Profiles -/

lemma setting?_congr {key : String} (h : ∀ name ∈ reads profile key, env name = env' name) :
    env.setting? profile key = env'.setting? profile key := by
  have hvalue : ∀ name ∈ reads profile key, env.value? name = env'.value? name := by
    intro name hname
    rw [Environment.value?, Environment.value?, h name hname]
  rw [Environment.setting?, Environment.setting?, hvalue key (mem_reads.mpr (.inr rfl))]
  split
  next => rfl
  next hprofile =>
    have hown := hvalue _ (mem_reads.mpr (.inl ⟨hprofile, rfl⟩))
    rw [variableOf] at hown
    rw [hown]

/-- Only the variables that are looked up count. -/
lemma ofProfile_congr
    (h : ∀ e ∈ entries, ∀ name ∈ reads (Text.uppercase profile) e.key, env name = env' name) :
    ofProfile env profile = ofProfile env' profile := by
  refine ext_entries rfl fun e he => ?_
  rw [value_ofProfile he, value_ofProfile he, setting?_congr (h e he)]

/-- **Profiles are isolated.** Each setting in a profile has the value that is read from the text
that counts for it, or its standard value if there is no such text or it cannot be read; and there
are no other settings. A variable is looked up for one setting only, and in one profile only unless
all profiles share it. So nothing changes in a profile when variables of another one are added,
changed or removed. -/
theorem profiles_isolated :
    (∀ env profile, (ofProfile env profile).profile = Text.uppercase profile ∧
      ∀ e ∈ entries, ∃ text?, env.Chooses (Text.uppercase profile) e.key text? ∧
        e.value (ofProfile env profile) = (text?.bind e.reader).getD (e.value standard)) ∧
    (∀ c c' : Config, c.profile = c'.profile → (∀ e ∈ entries, e.value c = e.value c') → c = c') ∧
    (∀ profile other name, ∀ e ∈ entries, ∀ e' ∈ entries, name ∈ reads profile e.key →
      name ∈ reads other e'.key → e = e' ∧ (profile = other ∨ name = e.key)) ∧
    ∀ env env' profile other, other ≠ "" → other ≠ Text.uppercase profile →
      (∀ name, (∀ e ∈ entries, name ≠ variableOf other e.key) → env name = env' name) →
        ofProfile env profile = ofProfile env' profile := by
  refine ⟨fun env profile => ⟨rfl, fun e he => ?_⟩, fun _ _ => ext_entries,
    fun _ _ _ e he e' he' => eq_of_mem_reads he he', fun env env' profile other hother hne h => ?_⟩
  · exact ⟨_, env.chooses_setting? _ _, value_ofProfile he env profile⟩
  · refine ofProfile_congr fun e he name hname => h name fun e' he' heq => ?_
    have hreads : name ∈ reads other e'.key := mem_reads.mpr (.inl ⟨hother, heq⟩)
    obtain ⟨rfl, hprofile | hshared⟩ := eq_of_mem_reads he he' hname hreads
    · exact hne hprofile.symm
    · exact variableOf_ne_key he he (heq.symm.trans hshared)

/-- Variables of a profile and variables that all profiles share, two of which cannot be read. -/
def mixedEnvironment : Environment
  | "PROD_HISTORY_CAPACITY" => some "7"
  | "HISTORY_CAPACITY" => some "9"
  | "PROD_WORKING_HOURS_START" => some ""
  | "WORKING_HOURS_START" => some "6"
  | "PROD_WORKING_HOURS_END" => some "late"
  | "WORKING_HOURS_END" => some "20"
  | _ => none

/-- The same with one more variable, of another profile. -/
def otherEnvironment (name : String) : Option String :=
  if name = "DEV_HISTORY_CAPACITY" then some "11" else mixedEnvironment name

/-- A variable that is empty counts as not set, one that cannot be read gives the standard value,
and that of the other profile does not count. -/
theorem profiles_isolated_prod :
    "DEV" ≠ "" ∧ "DEV" ≠ Text.uppercase "prod" ∧
    (∀ name, (∀ e ∈ entries, name ≠ variableOf "DEV" e.key) →
      mixedEnvironment name = otherEnvironment name) ∧
    ofProfile mixedEnvironment "prod" = ofProfile otherEnvironment "prod" ∧
    (ofProfile otherEnvironment "prod").engine = ⟨5, 7, .previousHook, ⟨6, 18⟩⟩ ∧
    (ofProfile otherEnvironment "dev").engine = ⟨5, 11, .previousHook, ⟨6, 20⟩⟩ ∧
    ofProfile mixedEnvironment "prod" = ofProfile mixedEnvironment "PROD" ∧
    (∃ text?, mixedEnvironment.Chooses (Text.uppercase "prod") "RULES_FILE" text? ∧
      (ofProfile mixedEnvironment "prod").rulesFile = (text?.bind some).getD standard.rulesFile) ∧
    "RULES_FILE" ∈ reads "PROD" "RULES_FILE" ∧ "RULES_FILE" ∈ reads "DEV" "RULES_FILE" ∧
    ("PROD" = "DEV" ∨ "RULES_FILE" = "RULES_FILE") := by
  obtain ⟨hvalues, hall, honce, hisolated⟩ := profiles_isolated
  have hagree : ∀ name, (∀ e ∈ entries, name ≠ variableOf "DEV" e.key) →
      mixedEnvironment name = otherEnvironment name := by
    intro name h
    have hmem : "HISTORY_CAPACITY" ∈ entries.map Entry.key := by decide
    obtain ⟨e, he, hkey⟩ := List.mem_map.mp hmem
    have hne := h e he
    rw [hkey] at hne
    exact (if_neg hne).symm
  have hupper : Text.uppercase "prod" = Text.uppercase "PROD" := by decide +kernel
  have hne : "DEV" ≠ Text.uppercase "prod" := by decide +kernel
  have hfirst := List.mem_cons_self (a := (⟨String, "RULES_FILE", some, rulesFile⟩ : Entry))
    (l := entries.tail)
  have hprod : "RULES_FILE" ∈ reads "PROD" "RULES_FILE" := by decide
  have hdev : "RULES_FILE" ∈ reads "DEV" "RULES_FILE" := by decide
  refine ⟨by decide, hne, hagree, hisolated _ _ "prod" "DEV" (by decide) hne hagree, ?_, ?_, ?_,
    (hvalues mixedEnvironment "prod").2 _ hfirst, hprod, hdev,
    (honce "PROD" "DEV" "RULES_FILE" _ hfirst _ hfirst hprod hdev).2⟩
  · decide +kernel
  · decide +kernel
  · refine hall _ _ hupper fun e he => ?_
    rw [value_ofProfile he, value_ofProfile he, hupper]

end Config

end SensorRules
