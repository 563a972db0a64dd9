import SensorRules.Proofs.Rule.Storing
import SensorRules.RuleFile

/-!
A rule file over time: it is changed from outside, read again and written, in any order.

* `FileEvent`: what may happen to a rule file; the disk may fail at either step of writing;
* `FileContent.next`, `FileContent.puts?`: what an event leaves in the file, and the rules that it
  puts in force, told by the content of the file alone;
* `RuleFile.perform`, `RuleFile.after`: what events do to the file and the rules in force;
* `RuleFile.load_write`: rules that were ever loaded are loaded again when they have been written;
* `RuleFile.rules_after`: the rules in force are those that the latest good event has put in force.
-/

namespace SensorRules

/-- Why rules cannot be written. The new content is written beside the file and then put in its
place. -/
inductive DiskFault where
  | notWritten
  | notPutInPlace
deriving DecidableEq, Repr

/-- What may happen to a rule file. -/
inductive FileEvent where
  /-- The file is replaced or removed from outside. -/
  | replace (file : FileContent)
  /-- The file is read again. -/
  | reload
  /-- Rules are written, unless the disk fails. -/
  | write (rules : List Rule) (fault : Option DiskFault)

/-- The event neither changes the file nor puts rules in force, but for those that are read from the
file. -/
def FileEvent.LeavesFile : FileEvent → Prop
  | replace _ => False
  | reload => True
  | write _ fault => fault.isSome

namespace FileContent

/-- What an event leaves in the file. -/
def next (file : FileContent) : FileEvent → FileContent
  | .replace file => file
  | .reload => file
  | .write rules none => ofText (RuleFile.textOf rules)
  | .write _ (some _) => file

/-- The rules that an event puts in force. -/
def puts? (file : FileContent) : FileEvent → Option (List Rule)
  | .replace _ => none
  | .reload =>
    match file.text with
    | .ok s => (RuleSet.ofText s).toOption.map RuleSet.rules
    | .error _ => none
  | .write rules none => some rules
  | .write _ (some _) => none

/-- The lists of rules that events put in force, one after the other. -/
def putsAll (file : FileContent) : List FileEvent → List (List Rule)
  | [] => []
  | e :: es => (file.puts? e).toList ++ (file.next e).putsAll es

/-- A text is read as it was written. -/
lemma text_ofText (s : String) : (ofText s).text = .ok s := by
  have hread : String.fromUTF8? s.toUTF8 = some s := by
    rw [String.fromUTF8?, String.toUTF8_eq_toByteArray, dif_pos s.isValidUTF8]
    rfl
  simp only [text, ofText, hread]

end FileContent

namespace RuleFile

variable {f : RuleFile} {e : FileEvent} {es : List FileEvent} {set : RuleSet} {s : String}

/-- One event. -/
def perform (f : RuleFile) : FileEvent → RuleFile
  | .replace file => f.replace file
  | .reload => f.reload.1
  | .write rules none => f.write rules
  | .write _ (some _) => f

/-- What events leave, one after the other. -/
def after (f : RuleFile) (es : List FileEvent) : RuleFile :=
  es.foldl perform f

/-! ### One event -/

lemma reload_of_ok (h : f.load = .ok set) :
    f.reload = (⟨f.file, set.rules⟩, .ok set.results) := by
  rw [reload, h]

lemma reload_of_error {err : Error} (h : f.load = .error err) : f.reload = (f, .error err) := by
  rw [reload, h]

/-- What is loaded is told by the content of the file. -/
lemma puts?_reload (f : RuleFile) :
    f.file.puts? .reload = f.load.toOption.map RuleSet.rules := by
  rw [FileContent.puts?, load]
  cases f.file.text with
  | error err => rfl
  | ok s =>
      dsimp only
      cases RuleSet.ofText s <;> rfl

/-- Reading that fails changes nothing. -/
lemma reload_eq_self {err : Error} (h : f.reload.2 = .error err) :
    f.reload.1 = f ∧ f.file.puts? .reload = none := by
  cases hload : f.load with
  | ok set =>
      rw [reload_of_ok hload] at h
      cases h
  | error err' =>
      rw [reload_of_error hload, puts?_reload, hload]
      exact ⟨rfl, rfl⟩

/-- Reading that succeeds puts the rules in the file in force. -/
lemma puts?_reload_of_ok {results : List LoadResult} (h : f.reload.2 = .ok results) :
    f.file.puts? .reload = some f.reload.1.rules := by
  cases hload : f.load with
  | ok set =>
      rw [reload_of_ok hload, puts?_reload, hload]
      rfl
  | error err =>
      rw [reload_of_error hload] at h
      cases h

lemma file_perform (f : RuleFile) (e : FileEvent) : (f.perform e).file = f.file.next e := by
  cases e with
  | replace file => rfl
  | reload =>
      cases hload : f.load with
      | ok set => rw [perform, reload_of_ok hload, FileContent.next]
      | error err => rw [perform, reload_of_error hload, FileContent.next]
  | write rules fault => cases fault <;> rfl

lemma rules_perform (f : RuleFile) (e : FileEvent) :
    (f.perform e).rules = (f.file.puts? e).getD f.rules := by
  cases e with
  | replace file => rfl
  | reload =>
      cases hload : f.load with
      | ok set =>
          rw [perform, reload_of_ok hload, puts?_reload, hload]
          rfl
      | error err =>
          rw [perform, reload_of_error hload, puts?_reload, hload]
          rfl
  | write rules fault => cases fault <;> rfl

/-! ### Events one after the other -/

lemma rules_after_eq (f : RuleFile) (es : List FileEvent) :
    (f.after es).rules = (f.file.putsAll es).getLast?.getD f.rules := by
  induction es generalizing f with
  | nil => rfl
  | cons e es ih =>
      rw [after, List.foldl_cons, ← after, ih, file_perform, rules_perform, FileContent.putsAll,
        List.getLast?_append]
      -- The first event counts only if none of the others puts rules in force.
      cases ((f.file.next e).putsAll es).getLast? with
      | some rules => rfl
      | none => cases f.file.puts? e <;> rfl

/-- Rules that are in the file and in force stay so while the file is left. -/
lemma after_of_leavesFile (hload : f.load = .ok set) (hrules : f.rules = set.rules)
    (h : ∀ e ∈ es, e.LeavesFile) : f.after es = f := by
  have hreload : f.reload.1 = f := by
    rw [reload_of_ok hload, ← hrules]
  induction es with
  | nil => rfl
  | cons e es ih =>
      have hfirst : f.perform e = f := by
        cases e with
        | replace file => exact absurd (h _ List.mem_cons_self) id
        | reload => exact hreload
        | write rules fault =>
            cases fault with
            | none => exact absurd (h _ List.mem_cons_self) (by simp [FileEvent.LeavesFile])
            | some fault => rfl
      rw [after, List.foldl_cons, hfirst]
      exact ih fun e' he' => h e' (List.mem_cons_of_mem e he')

/-- Rules that were ever loaded are loaded from the file that they are written to. -/
lemma load_write (f : RuleFile) (h : RuleSet.ofText s = .ok set) :
    (f.write set.rules).load = .ok (RuleSet.allLoaded set.rules) := by
  have hread := RuleSet.readable_of_ofText h
  have hnodup := RuleSet.nodup_of_ofText h
  have htext : RuleSet.ofText (textOf set.rules) = .ok (RuleSet.allLoaded set.rules) :=
    RuleSet.ofText_listToText (RuleSet.canonical_of_ofText h) hread hnodup
  simp only [load, write, FileContent.text_ofText, htext]

/-- **Rules in force.** Whatever is in the file at first and whatever happens to it, the rules in
force are those that the latest good reading or writing has put in force, and none before the first.
Reading that fails puts nothing in force and changes nothing. If a list of rules that was ever
loaded is then written, and the file is left, it is loaded from there with all its rules, and
nothing changes. -/
theorem rules_after (file : FileContent) (es : List FileEvent) :
    let f := (⟨file, []⟩ : RuleFile).after es
    f.rules = (file.putsAll es).getLast?.getD [] ∧
    (∀ results, f.reload.2 = .ok results → f.file.puts? .reload = some f.reload.1.rules) ∧
    (∀ err, f.reload.2 = .error err → f.reload.1 = f ∧ f.file.puts? .reload = none) ∧
    ∀ s set, RuleSet.ofText s = .ok set → ∀ later, (∀ e ∈ later, e.LeavesFile) →
      let g := f.after (.write set.rules none :: later)
      g.rules = set.rules ∧ g.reload = (g, .ok (set.rules.map fun r => ⟨r.name, .loaded⟩)) := by
  intro f
  refine ⟨rules_after_eq ⟨file, []⟩ es, fun results => puts?_reload_of_ok,
    fun err => reload_eq_self, ?_⟩
  intro s set h later hlater g
  have hload := load_write f h
  have hg : g = f.write set.rules := after_of_leavesFile hload rfl hlater
  rw [hg]
  exact ⟨rfl, reload_of_ok hload⟩

/-- A rule, another one of its name, and one whose expression cannot be read. -/
def hallText : String :=
  "[\x7B\"Name\": \"Hall\"\x7D, \x7B\"Name\": \"Hall\", \"Priority\": 1\x7D, " ++
  "\x7B\"Name\": \"Loft\", \"Expression\": \"what is this\"\x7D]"

/-- There is no file, then one that is no text, then one with rules, and then none again. -/
def hallEvents : List FileEvent :=
  [.reload, .replace (some ⟨#[0xFF]⟩), .reload, .replace (.ofText hallText), .reload,
    .replace none, .reload]

/-- One rule is in force in the end. It is written, and a later fault of the disk does no harm. -/
theorem rules_after_hall : ∃ set, RuleSet.ofText hallText = .ok set ∧
    set.rules.map Rule.name = ["Hall"] ∧
    let f := (⟨none, []⟩ : RuleFile).after hallEvents
    f.rules.map Rule.name = ["Hall"] ∧ f.file = none ∧
    let g := f.after [.write set.rules none, .write [] (some .notPutInPlace), .reload]
    g.rules = set.rules ∧ g.reload = (g, .ok [⟨"Hall", .loaded⟩]) := by
  have hnames : (RuleSet.ofText hallText).map (fun set => set.rules.map Rule.name) =
      .ok ["Hall"] := by
    decide +kernel
  cases hset : RuleSet.ofText hallText with
  | error err =>
      rw [hset] at hnames
      exact absurd hnames nofun
  | ok set =>
      rw [hset] at hnames
      have hnames : set.rules.map Rule.name = ["Hall"] := Except.ok.inj hnames
      obtain ⟨-, -, -, hwrite⟩ := rules_after none hallEvents
      obtain ⟨hrules, hreload⟩ := hwrite hallText set hset
        [.write [] (some .notPutInPlace), .reload] (by simp [FileEvent.LeavesFile])
      have hresults : set.rules.map (fun r => (⟨r.name, .loaded⟩ : LoadResult)) =
          [⟨"Hall", .loaded⟩] := by
        calc set.rules.map (fun r => (⟨r.name, .loaded⟩ : LoadResult))
            = (set.rules.map Rule.name).map fun name => ⟨name, .loaded⟩ := by rw [List.map_map]; rfl
          _ = [⟨"Hall", .loaded⟩] := by rw [hnames]; rfl
      rw [hresults] at hreload
      exact ⟨set, rfl, hnames, by decide +kernel, rfl, hrules, hreload⟩

end RuleFile

end SensorRules
