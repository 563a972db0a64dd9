import SensorRules.Names
import SensorRules.Time.Instant

/-!
The house as the rules see it: sensors with the current text of each field, and the rooms they are
in.

* `Annotation`: what a rule says at a sensor;
* `Sensor`: a sensor with its fields, logs and annotations;
* `Room`: a room and the names of its sensors;
* `Home`: the rooms and the sensors, each sensor under its own name;
* `Home.setField?`, `Home.removeField?` and `Home.annotate?`: changes of one sensor, which must
  exist.
-/

namespace SensorRules

open Time (Instant)

/-- What a rule says at a sensor. -/
structure Annotation where
  ruleName : String
  ok : Bool
  message : String
  notifyGroups : NameSet
  /-- What a reader must be permitted to see this. -/
  viewPermissions : NameSet
deriving DecidableEq

/-- A sensor of the house. -/
structure Sensor where
  name : String
  room : Option String
  /-- The current text of each field that the sensor reports. -/
  fields : NameTable String
  /-- The names of the logs kept for the sensor. -/
  logs : List String
  lastUpdated : Option Instant
  /-- What each rule says at the sensor. -/
  annotations : NameTable Annotation
deriving DecidableEq

namespace Sensor

/-- A sensor of which nothing is known but its name. -/
def named (name : String) : Sensor :=
  ⟨name, none, ∅, [], none, ∅⟩

/-- The current text of a field. -/
def field? (s : Sensor) (field : String) : Option String :=
  s.fields[field]?

/-- The sensor with a field set. -/
def setField (s : Sensor) (field value : String) : Sensor :=
  { s with fields := s.fields.insert field value }

/-- The sensor without a field. -/
def removeField (s : Sensor) (field : String) : Sensor :=
  { s with fields := s.fields.erase field }

/-- The sensor with an annotation, in place of what the same rule said before. -/
def annotate (s : Sensor) (a : Annotation) : Sensor :=
  { s with annotations := s.annotations.insert a.ruleName a }

/-- The sensor in a room, if it is not in one already. -/
def inRoom (s : Sensor) (room : String) : Sensor :=
  { s with room := s.room <|> some room }

end Sensor

/-- A room and the names of the sensors mounted in it. -/
structure Room where
  name : String
  sensors : NameSet
deriving DecidableEq

/-- The house: its rooms in order, and its sensors by name. -/
structure Home where
  rooms : List Room
  sensors : NameTable Sensor
  /-- Every sensor stands under its own name. -/
  name_eq : ∀ (name : String) (s : Sensor), sensors[name]? = some s → s.name = name

namespace Home

/-- A house without rooms and sensors. -/
def empty : Home where
  rooms := []
  sensors := ∅
  name_eq := by simp

instance : Inhabited Home := ⟨empty⟩

/-- The number of sensors. -/
def size (h : Home) : Nat :=
  h.sensors.size

/-- The sensor with a name. -/
def sensor? (h : Home) (name : String) : Option Sensor :=
  h.sensors[name]?

/-- The sensors in the order of their names. -/
def sensorList (h : Home) : List Sensor :=
  h.sensors.values

/-- The sensors with the given names; names of no sensor are passed over. -/
def sensorsNamed (h : Home) (names : NameSet) : List Sensor :=
  names.toList.filterMap h.sensor?

/-- The house with a sensor, in place of one of the same name. -/
def insert (h : Home) (s : Sensor) : Home where
  rooms := h.rooms
  sensors := h.sensors.insert s.name s
  name_eq name sensor := by
    rw [Std.ExtTreeMap.getElem?_insert]
    split
    · rename_i heq
      rintro ⟨⟩
      exact Std.LawfulEqCmp.eq_of_compare heq
    · exact h.name_eq name sensor

/-- The house with one sensor changed, if the sensor exists; its name is kept. -/
def modify? (h : Home) (name : String) (change : Sensor → Sensor) : Option Home :=
  (h.sensor? name).map fun s => h.insert { change s with name := s.name }

/-- The house with a field of a sensor set. -/
def setField? (h : Home) (sensor field value : String) : Option Home :=
  h.modify? sensor fun s => s.setField field value

/-- The house without a field of a sensor, and the text that the field had. -/
def removeField? (h : Home) (sensor field : String) : Option (Home × Option String) := do
  let s ← h.sensor? sensor
  let h ← h.modify? sensor fun s => s.removeField field
  some (h, s.field? field)

/-- The house with an annotation at a sensor. -/
def annotate? (h : Home) (sensor : String) (a : Annotation) : Option Home :=
  h.modify? sensor fun s => s.annotate a

/-- What is said of a name that no sensor has. -/
def unknownSensorMessage (sensor : String) : String :=
  "Sensor not found: " ++ sensor

end Home

end SensorRules
