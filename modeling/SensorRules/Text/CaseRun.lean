/-!
Runs of letters whose case forms lie at a fixed distance, the entries of the case tables.

* `CaseRun`: every `stride`-th code point from `first` to `last`, each moved by `shift`;
* `CaseRun.image?`: the case form that a run gives to a code point;
* `CaseRun.reverse`: the way back.
-/

namespace SensorRules.Text

/-- Every `stride`-th code point from `first` to `last` has its case form `shift` places on. -/
structure CaseRun where
  first : Nat
  last : Nat
  stride : Nat
  shift : Int

namespace CaseRun

/-- The code points that the run moves. -/
def covers (run : CaseRun) (code : Nat) : Bool :=
  run.first ≤ code && code ≤ run.last && (code - run.first) % run.stride == 0

/-- The case form that the run gives to a code point. -/
def image? (run : CaseRun) (code : Nat) : Option Nat :=
  if run.covers code then some (code + run.shift).toNat else none

/-- The run read backwards, from the case forms to the code points that it moves. -/
def reverse (run : CaseRun) : CaseRun :=
  ⟨(run.first + run.shift).toNat, (run.last + run.shift).toNat, run.stride, -run.shift⟩

end CaseRun

end SensorRules.Text
