import Std.Data.ExtTreeMap
import Std.Data.ExtTreeSet

/-!
Sets of names, and tables with a name for each entry. Both are ordered by code points, which is the
order in which they are listed, and two with the same members are equal.

* `NameSet`, `NameTable`;
* `NameSet.union`: the names of either set.
-/

namespace SensorRules

/-- A set of names. -/
abbrev NameSet := Std.ExtTreeSet String

/-- A table of values by name. -/
abbrev NameTable (α : Type) := Std.ExtTreeMap String α

/-- The names of a list as a set. -/
def NameSet.ofNames (names : List String) : NameSet :=
  Std.ExtTreeSet.ofList names

/-- The names of either set. -/
def NameSet.union (s t : NameSet) : NameSet :=
  s.insertMany t.toList

end SensorRules
