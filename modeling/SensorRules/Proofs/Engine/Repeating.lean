import SensorRules.Proofs.Engine.Agreement
import SensorRules.Proofs.Graph.Indifference
import SensorRules.Proofs.Violation.Writing

/-!
The same pass once more.

* `Engine.round_again`: on the house that a pass leaves, the verdicts are the same, as long as no
  capability looks at annotations;
* `Engine.runPass_runPass`: so the second of two passes with the same rules at the same time leaves
  everything as it is, and reports that nothing has begun or ended;
* `Engine.runPass_again`: this holds for the capabilities that every house has, with any that ignore
  their arguments.
-/

namespace SensorRules.Engine

open Time (Instant Zone)

variable {e : Engine} {zone : Zone} {rules : List Rule} {home : Home} {now : Instant}

/-- What a pass does, by what its tracker learns and what it writes. -/
lemma runPass_eq {t : Tracker} {outcome : Outcome} {home' : Home} {written : Nat}
    (hupdate : e.tracker.update (.ofRules rules) (e.round zone rules home now).states now =
      (t, outcome))
    (hannotate : t.annotate home (.ofRules rules) (e.round zone rules home now).states now =
      (home', written)) :
    e.runPass zone rules home now =
      { engine := { e with
          tracker := t
          published := ⟨t.issues (.ofRules rules) now, t.history.recent t.history.capacity⟩ }
        home := home'
        report := ⟨now, (RuleGraph.ofRules rules).size, t.records.size, written, outcome⟩ } := by
  simp only [round] at hupdate hannotate
  simp only [runPass, hupdate, hannotate]

/-- A pass tells the next one at the same time what it was told itself. -/
lemma round_again (h : e.registry.IgnoresAnnotations) :
    (e.runPass zone rules home now).engine.round zone rules
        (e.runPass zone rules home now).home now =
      e.round zone rules home now := by
  have hhome : (e.runPass zone rules home now).home.SameUnannotated home :=
    Tracker.sameUnannotated_annotate
  have hstates : (RuleGraph.ofRules rules).evaluateAll
        ⟨(e.runPass zone rules home now).home, e.registry, e.contextAt zone now⟩ =
      (RuleGraph.ofRules rules).evaluateAll ⟨home, e.registry, e.contextAt zone now⟩ :=
    RuleGraph.evaluateAll_congr h hhome
  exact congrArg (fun s => Round.mk (.ofRules rules) s.1 now) hstates

/-- If no capability looks at annotations, the second of two passes changes nothing. -/
lemma runPass_runPass (h : e.registry.IgnoresAnnotations) :
    (e.runPass zone rules home now).engine.runPass zone rules
        (e.runPass zone rules home now).home now =
      { e.runPass zone rules home now with
        report := { (e.runPass zone rules home now).report with outcome := .none } } := by
  have hround : (e.runPass zone rules home now).engine.round zone rules
        (e.runPass zone rules home now).home now =
      e.round zone rules home now :=
    round_again h
  have hupdate : (e.runPass zone rules home now).engine.tracker.update (.ofRules rules)
        (e.round zone rules home now).states now = (e.trackerAfter zone rules home now, .none) :=
    Tracker.update_follow e.tracker (e.round zone rules home now)
  have hannotate : (e.trackerAfter zone rules home now).annotate
        (e.runPass zone rules home now).home (.ofRules rules) (e.round zone rules home now).states
        now =
      ((e.runPass zone rules home now).home, (e.runPass zone rules home now).report.annotations) :=
    Tracker.annotate_annotate
  rw [← hround] at hupdate hannotate
  exact runPass_eq hupdate hannotate

/-- **The same pass once more.** Let the capabilities be those that every house has, with any that
ignore their arguments. A second pass with the same rules, loops or not, at the same time and on the
house that the first one has left opens, clears and drops nothing; engine and house are then as the
first pass has left them, and the report gives the same numbers. -/
theorem runPass_again (e : Engine) (regs : List Registration)
    (hregs : ∀ reg ∈ regs, reg.IgnoresArguments)
    (hregistry : e.registry = Registry.standard.registerAll regs) (zone : Zone)
    (rules : List Rule) (home : Home) (now : Instant) :
    let first := e.runPass zone rules home now
    first.engine.runPass zone rules first.home now =
      { first with report := { first.report with outcome := .none } } := by
  have h : e.registry.IgnoresAnnotations := by
    rw [hregistry]
    exact Registry.ignoresAnnotations_registerAll Registry.ignoresAnnotations_standard hregs
  exact runPass_runPass h

/-- A hatch that is always open. -/
def hatchRegistrations : List Registration :=
  [.sensor "isOpen" ⟨.exactly 0, fun _ _ _ _ => .ok true⟩]

/-- The hatch must not be open, and each of two rules must hold before the other one does. -/
def hatchRules : List Rule :=
  [{ Rule.gate "Hatch" "Sensor isOpen" [] [] with sensorNames := NameSet.ofNames ["Hatch"] },
    .gate "Left" "" ["Right"] [], .gate "Right" "" ["Left"] []]

def hatchHome : Home :=
  Home.empty.insert (Sensor.named "Hatch")

/-- An engine that knows of a violation of another rule. -/
def hatchEngine : Engine where
  registry := Registry.standard.registerAll hatchRegistrations
  tracker := { Tracker.standard with
    records := Std.ExtTreeMap.ofList [("Roof", Violation.mk .epoch ∅)] }
  workingHours := .standard
  offset := none
  published := .nothing

/-- The first pass opens three violations and drops one, and the second one does nothing. -/
theorem runPass_again_hatch :
    let first := hatchEngine.runPass .utc hatchRules hatchHome .epoch
    let second := first.engine.runPass .utc hatchRules first.home .epoch
    (∀ reg ∈ hatchRegistrations, reg.IgnoresArguments) ∧
      first.report.outcome = ⟨["Hatch", "Left", "Right"], [], ["Roof"]⟩ ∧
      second.report.outcome = .none ∧ second.report.violated = 3 ∧ second.home = first.home := by
  intro first second
  have hregs : ∀ reg ∈ hatchRegistrations, reg.IgnoresArguments := by
    intro reg hreg
    obtain rfl := List.mem_singleton.mp hreg
    exact ⟨.ok true, fun _ _ _ _ => rfl⟩
  have hfirst : first.report.outcome = ⟨["Hatch", "Left", "Right"], [], ["Roof"]⟩ ∧
      first.report.violated = 3 := by
    decide +kernel
  have hsecond : second = { first with report := { first.report with outcome := .none } } :=
    runPass_again hatchEngine hatchRegistrations hregs rfl .utc hatchRules hatchHome .epoch
  rw [hsecond]
  exact ⟨hregs, hfirst.1, rfl, hfirst.2, rfl⟩

end SensorRules.Engine
