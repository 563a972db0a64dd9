import SensorRules.Capability.Standard
import SensorRules.Proofs.Home.Annotating

/-!
What is added to a registry, and what its answers depend on.

* `Registration` and `Registry.registerAll`: capabilities that are added one after the other;
* `Capability.IgnoresArguments`: a capability with one answer to everything;
* `Registry.IgnoresAnnotations`: no answer depends on the annotations of a sensor. So it is with the
  capabilities that every house has, and with these and any that ignore their arguments
  (`Registry.ignoresAnnotations_registerAll`).
-/

namespace SensorRules

/-- A capability that is added to a registry. -/
inductive Registration where
  | sensor (name : String) (c : Capability Sensor)
  | general (name : String) (c : Capability Unit)

namespace Registry

/-- The registry with a capability, in place of one of the same name and kind. -/
def register (r : Registry) : Registration → Registry
  | .sensor name c => r.addSensor name c
  | .general name c => r.addGeneral name c

/-- The registry with capabilities that are added one after the other. -/
def registerAll (r : Registry) (regs : List Registration) : Registry :=
  regs.foldl register r

end Registry

/-! ### What answers depend on -/

namespace Capability

/-- The capability has one answer to everything. -/
def IgnoresArguments {α : Type} (c : Capability α) : Prop :=
  ∃ answer, ∀ ctx x args h, c.run ctx x args h = answer

/-- The answers of the capability do not depend on the annotations of a sensor. -/
def IgnoresAnnotations (c : Capability Sensor) : Prop :=
  ∀ ctx x args h, c.run ctx x.unannotated args h = c.run ctx x args h

/-- A question is for the capability of its name. -/
lemma getElem?_of_dispatch {α : Type} {table : NameTable (Capability α)} {name : String}
    {args : List String} {c : { c : Capability α // c.arity.Accepts args.length }}
    (h : dispatch table name args = .ok c) : table[name]? = some c.1 := by
  rw [dispatch] at h
  split at h
  next => cases h
  next c' hc =>
    split at h
    next => cases h; exact hc
    next => cases h

lemma IgnoresArguments.ignoresAnnotations {c : Capability Sensor} (h : c.IgnoresArguments) :
    c.IgnoresAnnotations := by
  obtain ⟨answer, hanswer⟩ := h
  intro ctx x args hargs
  rw [hanswer, hanswer]

end Capability

/-- The capability that is added has one answer to everything. -/
def Registration.IgnoresArguments : Registration → Prop
  | .sensor _ c => c.IgnoresArguments
  | .general _ c => c.IgnoresArguments

namespace Registry

variable {r : Registry} {name : String} {c : Capability Sensor}

/-- No answer depends on the annotations of a sensor. -/
def IgnoresAnnotations (r : Registry) : Prop :=
  ∀ (name : String) (c : Capability Sensor), r.sensor[name]? = some c → c.IgnoresAnnotations

lemma askSensor_unannotated (h : r.IgnoresAnnotations) (name : String) (ctx : Context)
    (x : Sensor) (args : List String) :
    r.askSensor name ctx x.unannotated args = r.askSensor name ctx x args := by
  rw [askSensor, askSensor, Capability.ask, Capability.ask]
  cases hc : Capability.dispatch r.sensor name args with
  | error e => rfl
  | ok c => exact h name c.1 (Capability.getElem?_of_dispatch hc) ctx x args c.2

lemma ignoresAnnotations_empty : empty.IgnoresAnnotations := by
  intro name c hc
  simp [empty] at hc

lemma IgnoresAnnotations.addSensor (h : r.IgnoresAnnotations) (hc : c.IgnoresAnnotations) :
    (r.addSensor name c).IgnoresAnnotations := by
  intro name' c' hc'
  rw [Registry.addSensor, NameTable.getElem?_insert] at hc'
  split at hc'
  · cases hc'
    exact hc
  · exact h name' c' hc'

lemma IgnoresAnnotations.addGeneral {c : Capability Unit} (h : r.IgnoresAnnotations) :
    (r.addGeneral name c).IgnoresAnnotations := h

/-- The capabilities that every house has look at fields and times only. -/
lemma ignoresAnnotations_standard : standard.IgnoresAnnotations := by
  rw [standard]
  refine (((((((IgnoresAnnotations.addSensor ?_ ?_).addSensor ?_).addSensor ?_).addSensor
    ?_).addSensor ?_).addGeneral).addGeneral).addGeneral
  · exact ignoresAnnotations_empty
  all_goals exact fun _ _ _ _ => rfl

/-- Capabilities that ignore their arguments may be added. -/
lemma ignoresAnnotations_registerAll {regs : List Registration} (h : r.IgnoresAnnotations)
    (hregs : ∀ reg ∈ regs, reg.IgnoresArguments) : (r.registerAll regs).IgnoresAnnotations := by
  induction regs generalizing r with
  | nil => exact h
  | cons reg regs ih =>
      refine ih ?_ fun reg' hreg' => hregs reg' (List.mem_cons_of_mem reg hreg')
      have hreg := hregs reg List.mem_cons_self
      cases reg with
      | sensor name c => exact h.addSensor hreg.ignoresAnnotations
      | general name c => exact h.addGeneral

end Registry

end SensorRules
