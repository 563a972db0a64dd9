import SensorRules.Home.Basic
import SensorRules.Json.Printer
import SensorRules.Json.Reader
import SensorRules.Json.Record
import SensorRules.Time.Timestamp

/-!
Snapshots of the house as JSON: a list of rooms, which name their sensors, and a list of sensors.

* `Annotation.ofJson?`, `Sensor.ofJson?`, `Room.ofJson?` and the functions `toJson` that they undo;
* `Home.ofLists`: a later sensor replaces an earlier one of the same name, and a sensor that names
  no room is in the first room that lists it;
* `Home.ofText?` and `Home.toText`: a snapshot as text.
-/

namespace SensorRules

open Time (Instant)

namespace Annotation

/-- An annotation from its record. -/
def ofJson? (v : Json) : Option Annotation := do
  let r ← v.record? 5
  let ruleName ← r.required 0 "ruleName" Json.text?
  let ok ← r.required 1 "ok" Json.bool?
  let message ← r.required 2 "message" Json.text?
  let notifyGroups ← r.optional 3 ["notifyGroups"] ∅ Json.names?
  let viewPermissions ← r.optional 4 ["viewPermissions"] ∅ Json.names?
  some ⟨ruleName, ok, message, notifyGroups, viewPermissions⟩

/-- The record of an annotation. -/
def toJson (a : Annotation) : Json :=
  .object [
    ("ruleName", .text a.ruleName),
    ("ok", .bool a.ok),
    ("message", .text a.message),
    ("notifyGroups", .texts a.notifyGroups.toList),
    ("viewPermissions", .texts a.viewPermissions.toList)]

/-- Reads the record of an annotation. -/
def ofText? (s : String) : Option Annotation :=
  (Json.read? s).bind ofJson?

end Annotation

namespace Sensor

/-- A value that may be `null`. -/
def maybe? {α : Type} (decode : Json → Option α) (v : Json) : Option (Option α) :=
  v.orNull none fun v => (decode v).map some

/-- A time of update. -/
def instant? (v : Json) : Option Instant :=
  v.text?.bind Instant.ofText?

/-- A sensor from its record. -/
def ofJson? (v : Json) : Option Sensor := do
  let r ← v.record? 6
  let name ← r.required 0 "name" Json.text?
  let room ← r.optional 1 ["room"] none (maybe? Json.text?)
  let fields ← r.optional 2 ["fields"] ∅ (Json.tableOf? Json.text?)
  let logs ← r.optional 3 ["logs"] [] (Json.listOf? Json.text?)
  let lastUpdated ← r.optional 4 ["lastUpdated"] none (maybe? instant?)
  let annotations ← r.optional 5 ["annotations"] ∅ (Json.tableOf? Annotation.ofJson?)
  some ⟨name, room, fields, logs, lastUpdated, annotations⟩

/-- A member that is left out if there is no value. -/
def member? (name : String) (value : Option String) : List (String × Json) :=
  value.toList.map fun s => (name, .text s)

/-- The record of a sensor. -/
def toJson (s : Sensor) : Json :=
  .object <|
    [("name", .text s.name)] ++ member? "room" s.room ++
    [("fields", .object (s.fields.toList.map fun e => (e.1, .text e.2))),
      ("logs", .texts s.logs)] ++
    member? "lastUpdated" (s.lastUpdated.map Instant.toText) ++
    [("annotations", .object (s.annotations.toList.map fun e => (e.1, e.2.toJson)))]

/-- Reads the record of a sensor. -/
def ofText? (s : String) : Option Sensor :=
  (Json.read? s).bind ofJson?

end Sensor

namespace Room

/-- A room from its record. -/
def ofJson? (v : Json) : Option Room := do
  let r ← v.record? 2
  let name ← r.required 0 "name" Json.text?
  let sensors ← r.optional 1 ["sensors"] ∅ Json.names?
  some ⟨name, sensors⟩

/-- The record of a room. -/
def toJson (r : Room) : Json :=
  .object [("name", .text r.name), ("sensors", .texts r.sensors.toList)]

end Room

namespace Home

/-- The house with a sensor put into a room, if the sensor exists and is in no room yet. -/
def assignRoom (room : String) (h : Home) (sensor : String) : Home :=
  (h.modify? sensor fun s => s.inRoom room).getD h

/-- The house with the sensors of a room put into it. -/
def fillRoom (h : Home) (room : Room) : Home :=
  room.sensors.toList.foldl (assignRoom room.name) h

/-- The house with these rooms and sensors. -/
def ofLists (rooms : List Room) (sensors : List Sensor) : Home :=
  rooms.foldl fillRoom (sensors.foldl insert { empty with rooms })

/-- A house from its record. -/
def ofJson? (v : Json) : Option Home := do
  let r ← v.record? 2
  let rooms ← r.optional 0 ["rooms"] [] (Json.listOf? Room.ofJson?)
  let sensors ← r.optional 1 ["sensors"] [] (Json.listOf? Sensor.ofJson?)
  some (ofLists rooms sensors)

/-- The record of a house, sensors in the order of their names. -/
def toJson (h : Home) : Json :=
  .object [
    ("rooms", .arr (h.rooms.map Room.toJson)),
    ("sensors", .arr (h.sensorList.map Sensor.toJson))]

/-- Reads a snapshot. -/
def ofText? (s : String) : Option Home :=
  (Json.read? s).bind ofJson?

/-- The snapshot of a house. -/
def toText (h : Home) : String :=
  h.toJson.toText

end Home

end SensorRules
