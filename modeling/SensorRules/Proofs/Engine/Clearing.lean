import SensorRules.Proofs.Engine.Agreement
import SensorRules.Proofs.Engine.Operation
import SensorRules.Proofs.Violation.Ending

/-!
What is left of an engine that is cleared.

* `Engine.SetUpAlike`: two engines have the same capabilities, room for as many events, the same
  boundary, working hours and offset;
* `Watch.setUpAlike_after`: no operation changes how an engine is set up;
* `Engine.clear_eq_new`: so an engine that is cleared is as new, whatever it has been through;
* `Watch.trace_clear`: and all that follows is what a new engine would do in its place.
-/

namespace SensorRules

open Time (Instant Zone)

/-! ### How engines are set up -/

lemma History.capacity_pushAll (h : History) (es : List Event) :
    (h.pushAll es).capacity = h.capacity := by
  induction es generalizing h with
  | nil => rfl
  | cons e es ih => exact ih (h.push e)

namespace Engine

variable {e e' e'' : Engine} {zone : Zone} {registry : Registry} {capacity : Nat}
  {boundary : Boundary} {workingHours : WorkingHours} {offset : Option Int}

/-- The two engines are set up alike, whatever they have been through. -/
structure SetUpAlike (e e' : Engine) : Prop where
  registry : e.registry = e'.registry
  capacity : e.tracker.history.capacity = e'.tracker.history.capacity
  boundary : e.tracker.boundary = e'.tracker.boundary
  workingHours : e.workingHours = e'.workingHours
  offset : e.offset = e'.offset

lemma SetUpAlike.refl : e.SetUpAlike e :=
  ⟨rfl, rfl, rfl, rfl, rfl⟩

lemma SetUpAlike.trans (h : e.SetUpAlike e') (h' : e'.SetUpAlike e'') : e.SetUpAlike e'' :=
  ⟨h.registry.trans h'.registry, h.capacity.trans h'.capacity, h.boundary.trans h'.boundary,
    h.workingHours.trans h'.workingHours, h.offset.trans h'.offset⟩

/-- Two engines that are set up alike differ in what a clear takes away. -/
lemma SetUpAlike.clear_eq (h : e.SetUpAlike e') : e.clear = e'.clear := by
  obtain ⟨registry, ⟨records, ⟨capacity, events, _⟩, boundary⟩, workingHours, offset,
    published⟩ := e
  obtain ⟨registry', ⟨records', ⟨capacity', events', _⟩, boundary'⟩, workingHours', offset',
    published'⟩ := e'
  obtain ⟨hregistry, hcapacity, hboundary, hhours, hoffset⟩ := h
  dsimp only at hregistry hcapacity hboundary hhours hoffset
  subst hregistry hcapacity hboundary hhours hoffset
  rfl

lemma clear_new : (new registry capacity boundary workingHours offset).clear =
    new registry capacity boundary workingHours offset := rfl

/-- An engine is as new when it is cleared. -/
lemma clear_eq_new (h : e.SetUpAlike (new registry capacity boundary workingHours offset)) :
    e.clear = new registry capacity boundary workingHours offset :=
  h.clear_eq.trans clear_new

lemma setUpAlike_clear : e.clear.SetUpAlike e :=
  ⟨rfl, rfl, rfl, rfl, rfl⟩

lemma tracker_runPass {rules : List Rule} {home : Home} {now : Instant} :
    (e.runPass zone rules home now).engine.tracker =
      e.tracker.follow (e.round zone rules home now) := rfl

lemma setUpAlike_runPass {rules : List Rule} {home : Home} {now : Instant} :
    (e.runPass zone rules home now).engine.SetUpAlike e where
  registry := rfl
  capacity := by rw [tracker_runPass, Tracker.history_follow, History.capacity_pushAll]
  boundary := by rw [tracker_runPass, Tracker.boundary_follow]
  workingHours := rfl
  offset := rfl

end Engine

/-! ### Runs with a clear in them -/

namespace Watch

variable {w : Watch} {zone : Zone}

/-- No operation changes how an engine is set up. -/
lemma setUpAlike_perform (w : Watch) (zone : Zone) (op : Operation) :
    (w.perform zone op).1.engine.SetUpAlike w.engine := by
  cases op with
  | change f => exact .refl
  | pass rules now => exact Engine.setUpAlike_runPass
  | passFromText text now =>
      cases hset : RuleSet.ofText text with
      | ok set =>
          rw [perform_passFromText_of_ok hset]
          exact Engine.setUpAlike_runPass
      | error e =>
          rw [perform_passFromText_of_error hset]
          exact .refl
  | clear => exact Engine.setUpAlike_clear

lemma setUpAlike_after (w : Watch) (zone : Zone) (ops : List Operation) :
    (w.after zone ops).engine.SetUpAlike w.engine :=
  after_induction (I := fun w' => w'.engine.SetUpAlike w.engine)
    (fun w' op h => (setUpAlike_perform w' zone op).trans h) .refl ops

lemma trace_append (before later : List Operation) :
    w.trace zone (before ++ later) =
      w.trace zone before ++ (w.after zone before).trace zone later := by
  induction before generalizing w with
  | nil => rfl
  | cons op before ih => exact congrArg (w.perform zone op :: ·) ih

/-- **A clear leaves nothing behind.** Let anything happen to a new engine and its house, and then
let it be cleared. All that follows, the reports of passes, the violations, the history, what is
published and the annotations in the house, is what a new engine that is set up alike does from
there on with the house as it is. This is so for a clock that is pinned and for that of the host. -/
theorem trace_clear (registry : Registry) (capacity : Nat) (boundary : Boundary)
    (workingHours : WorkingHours) (offset : Option Int) (zone : Zone) (home : Home)
    (before later : List Operation) :
    let engine := Engine.new registry capacity boundary workingHours offset
    let home' := (Watch.after ⟨engine, home⟩ zone before).home
    Watch.trace ⟨engine, home⟩ zone (before ++ .clear :: later) =
      Watch.trace ⟨engine, home⟩ zone before ++
        (⟨engine, home'⟩, none) :: Watch.trace ⟨engine, home'⟩ zone later := by
  intro engine home'
  have hclear : (Watch.after ⟨engine, home⟩ zone before).engine.clear = engine :=
    Engine.clear_eq_new (setUpAlike_after ⟨engine, home⟩ zone before)
  have hperform : (Watch.after ⟨engine, home⟩ zone before).perform zone .clear =
      (⟨engine, home'⟩, none) := by
    rw [perform, hclear]
  rw [trace_append, trace, hperform]

end Watch

end SensorRules
