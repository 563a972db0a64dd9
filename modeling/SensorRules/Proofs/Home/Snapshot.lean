import SensorRules.Home.Snapshot
import SensorRules.Proofs.Home.Annotating
import SensorRules.Proofs.Json.Record
import SensorRules.Proofs.Json.Value
import SensorRules.Proofs.Time.Timestamp

/-!
Snapshots of the house that are written and read again.

* `Annotation.ofJson?_toJson`, `Sensor.ofJson?_toJson`, `Room.ofJson?_toJson`: each part is decoded
  from its own record;
* `Home.RoomsFilled`: every sensor that a room lists is in a room, as in every house made of lists
  (`Home.roomsFilled_ofLists`); then it changes nothing to fill the rooms
  (`Home.RoomsFilled.foldl_fillRoom`);
* `Home.ofText?_toText`: a house is read from its own snapshot, but that its rooms are filled;
* `Home.snapshot_round_trip`: so just the houses with filled rooms are read as they are.
-/

namespace SensorRules

open Time (Instant)

/-! ### Records -/

namespace Annotation

/-- An annotation is decoded from its own record. -/
lemma ofJson?_toJson (a : Annotation) : ofJson? a.toJson = some a := by
  obtain ⟨r, hr, hname, hok, hmessage, hgroups, hpermissions⟩ : ∃ r, a.toJson.record? 5 = some r ∧
      r.required 0 "ruleName" Json.text? = some a.ruleName ∧
      r.required 1 "ok" Json.bool? = some a.ok ∧
      r.required 2 "message" Json.text? = some a.message ∧
      r.optional 3 ["notifyGroups"] ∅ Json.names? = some a.notifyGroups ∧
      r.optional 4 ["viewPermissions"] ∅ Json.names? = some a.viewPermissions :=
    ⟨_, Json.record?_object, rfl, rfl, rfl, Json.names?_texts, Json.names?_texts⟩
  rw [ofJson?, hr]
  simp only [Option.bind_eq_bind, Option.bind_some, hname, hok, hmessage, hgroups, hpermissions]

lemma plain_toJson (a : Annotation) : a.toJson.Plain := by
  refine .object ?_
  simp only [List.forall_mem_cons]
  exact ⟨.text _, .bool _, .text _, .texts, .texts, nofun⟩

end Annotation

namespace Sensor

variable {α : Type} {r : Record} {position : Nat} {spellings : List String}
  {decode : Json → Option α} {encode : α → Json} {value : Option α}

/-- A member that is left out for no value is decoded. -/
lemma optional_maybe (hnull : decode .null = none)
    (hfield : r.field? position spellings = some (value.map encode))
    (h : ∀ a, decode (encode a) = some a) :
    r.optional position spellings none (maybe? decode) = some value := by
  cases value with
  | none => rw [Record.optional, hfield]; rfl
  | some a =>
      refine Record.optional_eq_some hfield (Json.orNull_eq_some (by rw [hnull]; rfl) ?_)
      rw [h]
      rfl

/-- The fields of the record that a sensor is written as. -/
lemma field?_toJson (s : Sensor) : ∃ r, s.toJson.record? 6 = some r ∧
    r.field? 0 ["name"] = some (some (.text s.name)) ∧
    r.field? 1 ["room"] = some (s.room.map .text) ∧
    r.field? 2 ["fields"] = some (some (.object (s.fields.toList.map fun e => (e.1, .text e.2)))) ∧
    r.field? 3 ["logs"] = some (some (.texts s.logs)) ∧
    r.field? 4 ["lastUpdated"] = some (s.lastUpdated.map fun t => .text t.toText) ∧
    r.field? 5 ["annotations"] =
      some (some (.object (s.annotations.toList.map fun e => (e.1, e.2.toJson)))) := by
  refine ⟨_, Json.record?_object, ?_⟩
  -- Which members there are depends on these two, but not what the members hold.
  cases s.room <;> cases s.lastUpdated <;> exact ⟨rfl, rfl, rfl, rfl, rfl, rfl⟩

lemma instant?_text (t : Instant) : instant? (.text t.toText) = some t := by
  rw [instant?, Json.text, Json.text?, Option.bind_some, Instant.ofText?_toText]

/-- A sensor is decoded from its own record. -/
lemma ofJson?_toJson (s : Sensor) : ofJson? s.toJson = some s := by
  obtain ⟨r, hr, hname, hroom, hfields, hlogs, hupdated, hannotations⟩ := s.field?_toJson
  have hname : r.required 0 "name" Json.text? = some s.name :=
    Record.required_eq_some hname rfl
  have hroom : r.optional 1 ["room"] none (maybe? Json.text?) = some s.room :=
    optional_maybe rfl hroom fun _ => rfl
  have hfields : r.optional 2 ["fields"] ∅ (Json.tableOf? Json.text?) = some s.fields :=
    Record.optional_eq_some hfields (Json.tableOf?_object Json.text? .text (fun _ => rfl) s.fields)
  have hlogs : r.optional 3 ["logs"] [] (Json.listOf? Json.text?) = some s.logs :=
    Record.optional_eq_some hlogs Json.texts?_texts
  have hupdated : r.optional 4 ["lastUpdated"] none (maybe? instant?) = some s.lastUpdated :=
    optional_maybe rfl hupdated instant?_text
  have hannotations :
      r.optional 5 ["annotations"] ∅ (Json.tableOf? Annotation.ofJson?) = some s.annotations :=
    Record.optional_eq_some hannotations
      (Json.tableOf?_object _ Annotation.toJson Annotation.ofJson?_toJson s.annotations)
  rw [ofJson?, hr]
  simp only [Option.bind_eq_bind, Option.bind_some, hname, hroom, hfields, hlogs, hupdated,
    hannotations]

lemma plain_toJson (s : Sensor) : s.toJson.Plain := by
  refine .object fun m hm => ?_
  simp only [List.mem_append, List.mem_cons, member?, List.mem_map, List.not_mem_nil,
    or_false] at hm
  rcases hm with (((rfl | ⟨_, _, rfl⟩) | rfl | rfl) | ⟨_, _, rfl⟩) | rfl
  · exact .text s.name
  · exact .text _
  · exact .table .text
  · exact .texts
  · exact .text _
  · exact .table Annotation.plain_toJson

end Sensor

namespace Room

/-- A room is decoded from its own record. -/
lemma ofJson?_toJson (room : Room) : ofJson? room.toJson = some room := by
  obtain ⟨r, hr, hname, hsensors⟩ : ∃ r, room.toJson.record? 2 = some r ∧
      r.required 0 "name" Json.text? = some room.name ∧
      r.optional 1 ["sensors"] ∅ Json.names? = some room.sensors :=
    ⟨_, Json.record?_object, rfl, Json.names?_texts⟩
  rw [ofJson?, hr]
  simp only [Option.bind_eq_bind, Option.bind_some, hname, hsensors]

lemma plain_toJson (room : Room) : room.toJson.Plain := by
  refine .object ?_
  simp only [List.forall_mem_cons]
  exact ⟨.text _, .texts, nofun⟩

end Room

/-! ### Sensors in rooms -/

namespace Sensor

/-- A sensor that is put into a room is in one. -/
lemma isSome_room_inRoom (s : Sensor) (room : String) : (s.inRoom room).room.isSome := by
  rw [inRoom]
  cases s.room <;> rfl

/-- A sensor that is in a room stays there. -/
lemma inRoom_eq_self {s : Sensor} (h : s.room.isSome) (room : String) : s.inRoom room = s := by
  obtain ⟨room', hroom⟩ := Option.isSome_iff_exists.mp h
  rw [inRoom, hroom, Option.orElse_eq_orElse, Option.orElse_some, ← hroom]

end Sensor

namespace Home

variable {h h' : Home} {rooms : List Room} {sensors : List Sensor}
  {ps : List (String × String)} {room name sensor : String}

/-- The sensor of the name, if there is one, is in a room. -/
def Housed (h : Home) (name : String) : Prop :=
  ∀ s, h.sensor? name = some s → s.room.isSome

/-- Every sensor that a room lists is in a room. -/
def RoomsFilled (h : Home) : Prop :=
  ∀ room ∈ h.rooms, ∀ name ∈ room.sensors, h.Housed name

/-- A change that leaves a sensor in its room leaves the rooms filled. -/
lemma RoomsFilled.modify? {change : Sensor → Sensor} (hfilled : h.RoomsFilled)
    (hh : h.modify? sensor change = some h') (hroom : ∀ s, (change s).room = s.room) :
    h'.RoomsFilled := by
  intro room hmem name hname s hs
  rw [rooms_modify? hh] at hmem
  rw [sensor?_modify? hh] at hs
  split at hs
  next =>
    obtain ⟨s', hs', rfl⟩ := Option.map_eq_some_iff.mp hs
    exact (congrArg Option.isSome (hroom s')).trans (hfilled room hmem name hname s' hs')
  next => exact hfilled room hmem name hname s hs

lemma assignRoom_cases (h : Home) (room sensor : String) :
    h.modify? sensor (fun s => s.inRoom room) = some (h.assignRoom room sensor) ∨
      (h.sensor? sensor = none ∧ h.assignRoom room sensor = h) := by
  rw [assignRoom]
  cases hh : h.modify? sensor fun s => s.inRoom room with
  | none => exact .inr ⟨Option.map_eq_none_iff.mp hh, rfl⟩
  | some h' => exact .inl rfl

lemma rooms_assignRoom : (h.assignRoom room sensor).rooms = h.rooms := by
  rcases h.assignRoom_cases room sensor with hh | ⟨-, hh⟩
  · exact rooms_modify? hh
  · rw [hh]

lemma sensor?_assignRoom (h : Home) (room sensor : String) :
    (h.assignRoom room sensor).sensor? name =
      if sensor = name then (h.sensor? name).map (·.inRoom room) else h.sensor? name := by
  rcases h.assignRoom_cases room sensor with hh | ⟨hnone, hh⟩
  · exact sensor?_modify? hh
  · rw [hh]
    split
    next heq => rw [← heq, hnone]; rfl
    next => rfl

/-- What is put into a room is in one then, and stays in the room where it is. -/
lemma housed_assignRoom (hname : name = sensor ∨ h.Housed name) :
    (h.assignRoom room sensor).Housed name := by
  intro s hs
  rw [sensor?_assignRoom] at hs
  split at hs
  next =>
    obtain ⟨s', -, rfl⟩ := Option.map_eq_some_iff.mp hs
    exact s'.isSome_room_inRoom room
  next hne => exact hname.resolve_left (Ne.symm hne) s hs

/-- What is in a room is not put into another one. -/
lemma assignRoom_eq_self (hhoused : h.Housed sensor) : h.assignRoom room sensor = h := by
  refine ext_sensor? rooms_assignRoom fun name => ?_
  rw [sensor?_assignRoom]
  split
  next heq =>
    subst heq
    cases hs : h.sensor? sensor with
    | none => rfl
    | some s => rw [Option.map_some, Sensor.inRoom_eq_self (hhoused s hs)]
  next => rfl

/-- The names of rooms with those of the sensors that they list, in the order in which rooms are
filled. -/
def placings (rooms : List Room) : List (String × String) :=
  rooms.flatMap fun room => room.sensors.toList.map fun sensor => (room.name, sensor)

/-- The house with sensors put into rooms, one after the other. -/
def place (h : Home) (ps : List (String × String)) : Home :=
  ps.foldl (fun h p => h.assignRoom p.1 p.2) h

lemma foldl_fillRoom : rooms.foldl fillRoom h = h.place (placings rooms) := by
  have hroom : fillRoom = fun h room =>
      (room.sensors.toList.map fun sensor => (room.name, sensor)).foldl
        (fun h p => h.assignRoom p.1 p.2) h := by
    funext h room
    rw [List.foldl_map]
    rfl
  rw [place, placings, List.foldl_flatMap, hroom]

lemma exists_mem_placings :
    (∃ p ∈ placings rooms, p.2 = name) ↔ ∃ room ∈ rooms, name ∈ room.sensors := by
  constructor
  · rintro ⟨p, hp, rfl⟩
    obtain ⟨room, hroom, hp⟩ := List.mem_flatMap.mp hp
    obtain ⟨sensor, hsensor, rfl⟩ := List.mem_map.mp hp
    exact ⟨room, hroom, Std.ExtTreeSet.mem_toList.mp hsensor⟩
  · rintro ⟨room, hroom, hname⟩
    refine ⟨(room.name, name), List.mem_flatMap.mpr ⟨room, hroom, ?_⟩, rfl⟩
    exact List.mem_map_of_mem (Std.ExtTreeSet.mem_toList.mpr hname)

lemma rooms_place : (h.place ps).rooms = h.rooms := by
  induction ps generalizing h with
  | nil => rfl
  | cons p ps ih => exact ih.trans rooms_assignRoom

/-- What is put into rooms is in one then, and what is in a room stays in one. -/
lemma housed_place (hname : (∃ p ∈ ps, p.2 = name) ∨ h.Housed name) :
    (h.place ps).Housed name := by
  induction ps generalizing h with
  | nil => exact hname.resolve_left nofun
  | cons p ps ih =>
      rw [List.exists_mem_cons_iff, or_comm (a := p.2 = name), or_assoc] at hname
      exact ih (hname.imp_right fun hfirst => housed_assignRoom (hfirst.imp_left Eq.symm))

/-- If all of it is in rooms already, nothing is put anywhere. -/
lemma place_eq_self (hhoused : ∀ p ∈ ps, h.Housed p.2) : h.place ps = h := by
  induction ps with
  | nil => rfl
  | cons p ps ih =>
      rw [List.forall_mem_cons] at hhoused
      rw [place, List.foldl_cons, assignRoom_eq_self hhoused.1]
      exact ih hhoused.2

/-- If the rooms are filled already, filling them changes nothing. -/
lemma RoomsFilled.foldl_fillRoom (hfilled : h.RoomsFilled) : h.rooms.foldl fillRoom h = h := by
  rw [Home.foldl_fillRoom]
  refine place_eq_self fun p hp => ?_
  obtain ⟨room, hroom, hname⟩ := exists_mem_placings.mp ⟨p, hp, rfl⟩
  exact hfilled room hroom p.2 hname

/-! ### Snapshots -/

lemma rooms_foldl_insert : (sensors.foldl insert h).rooms = h.rooms := by
  induction sensors generalizing h with
  | nil => rfl
  | cons s sensors ih => exact ih

lemma sensors_foldl_insert : (sensors.foldl insert h).sensors =
    h.sensors.insertMany (sensors.map fun s => (s.name, s)) := by
  induction sensors generalizing h with
  | nil => exact Std.ExtTreeMap.insertMany_nil.symm
  | cons s sensors ih => exact ih.trans Std.ExtTreeMap.insertMany_cons.symm

/-- The sensors of a house are listed with the names under which they stand. -/
lemma map_sensorList (h : Home) : h.sensorList.map (fun s => (s.name, s)) = h.sensors.toList := by
  rw [sensorList, NameTable.values_eq_map, List.map_map]
  refine (List.map_congr_left fun e he => ?_).trans (List.map_id h.sensors.toList)
  have hname : e.2.name = e.1 :=
    h.name_eq e.1 e.2 (Std.ExtTreeMap.mem_toList_iff_getElem?_eq_some.mp he)
  rw [Function.comp_apply, hname]
  rfl

/-- In a house made of lists the rooms are filled. -/
lemma roomsFilled_ofLists (rooms : List Room) (sensors : List Sensor) :
    (ofLists rooms sensors).RoomsFilled := by
  intro room hroom name hname
  rw [ofLists, foldl_fillRoom] at hroom ⊢
  rw [rooms_place, rooms_foldl_insert] at hroom
  exact housed_place (.inl (exists_mem_placings.mpr ⟨room, hroom, hname⟩))

/-- A house is made of its rooms and its sensors, but that its rooms are filled. -/
lemma ofLists_sensorList (h : Home) : ofLists h.rooms h.sensorList = h.rooms.foldl fillRoom h := by
  have hsensors : h.sensorList.foldl insert { empty with rooms := h.rooms } = h := by
    refine ext_sensor? rooms_foldl_insert fun name => ?_
    rw [sensor?, sensors_foldl_insert, map_sensorList]
    -- Before the sensors are put in, the table is empty.
    change (Std.ExtTreeMap.insertMany ∅ h.sensors.toList)[name]? = h.sensors[name]?
    rw [← Std.ExtTreeMap.ofList_eq_insertMany_empty, NameTable.ofList_toList]
  rw [ofLists, hsensors]

/-- The record in which these rooms and sensors are listed. -/
def listing (rooms : List Room) (sensors : List Sensor) : Json :=
  .object [
    ("rooms", .arr (rooms.map Room.toJson)),
    ("sensors", .arr (sensors.map Sensor.toJson))]

lemma plain_listing (rooms : List Room) (sensors : List Sensor) :
    (listing rooms sensors).Plain := by
  refine .object ?_
  simp only [List.forall_mem_cons]
  exact ⟨.list Room.plain_toJson, .list Sensor.plain_toJson, nofun⟩

/-- What is listed in a record is decoded from its fields. -/
lemma fields_listing (rooms : List Room) (sensors : List Sensor) :
    ∃ r, (listing rooms sensors).record? 2 = some r ∧
      r.optional 0 ["rooms"] [] (Json.listOf? Room.ofJson?) = some rooms ∧
      r.optional 1 ["sensors"] [] (Json.listOf? Sensor.ofJson?) = some sensors :=
  ⟨_, Json.record?_object, Json.listOf?_arr fun room _ => room.ofJson?_toJson,
    Json.listOf?_arr fun s _ => s.ofJson?_toJson⟩

lemma toJson_eq_listing (h : Home) : h.toJson = listing h.rooms h.sensorList := rfl

lemma ofJson?_toJson (h : Home) : ofJson? h.toJson = some (ofLists h.rooms h.sensorList) := by
  obtain ⟨r, hr, hrooms, hsensors⟩ := fields_listing h.rooms h.sensorList
  rw [ofJson?, toJson_eq_listing, hr]
  simp only [Option.bind_eq_bind, Option.bind_some, hrooms, hsensors]

/-- A house is read from its own snapshot, but that its rooms are filled. -/
lemma ofText?_toText (h : Home) : ofText? h.toText = some (h.rooms.foldl fillRoom h) := by
  have hplain : h.toJson.Plain := plain_listing h.rooms h.sensorList
  rw [ofText?, toText, Json.read?_toText hplain, Option.bind_some, ofJson?_toJson,
    ofLists_sensorList]

/-- The rooms of a house that is read are filled. -/
lemma roomsFilled_of_ofText? {s : String} (hh : ofText? s = some h) : h.RoomsFilled := by
  obtain ⟨v, -, hh⟩ := Option.bind_eq_some_iff.mp hh
  obtain ⟨r, -, hh⟩ := Option.bind_eq_some_iff.mp hh
  obtain ⟨rooms, -, hh⟩ := Option.bind_eq_some_iff.mp hh
  obtain ⟨sensors, -, hh⟩ := Option.bind_eq_some_iff.mp hh
  cases hh
  exact roomsFilled_ofLists rooms sensors

/-- **Written and read again.** In every house that is read, each sensor that a room lists is in a
room, and neither fields that are set or removed nor annotations change this. From their own
snapshots, the houses of this kind are read as they are, with the same rooms and sensors; no others
are. -/
theorem snapshot_round_trip :
    (∀ (s : String) (h : Home), ofText? s = some h → h.RoomsFilled) ∧
    (∀ h : Home, h.RoomsFilled →
      (∀ (sensor field value : String) (h' : Home),
        h.setField? sensor field value = some h' → h'.RoomsFilled) ∧
      (∀ (sensor field : String) (h' : Home) (old : Option String),
        h.removeField? sensor field = some (h', old) → h'.RoomsFilled) ∧
      ∀ (sensor : String) (a : Annotation) (h' : Home),
        h.annotate? sensor a = some h' → h'.RoomsFilled) ∧
    ∀ h : Home, ofText? h.toText = some h ↔ h.RoomsFilled := by
  refine ⟨fun s h => roomsFilled_of_ofText?, fun h hfilled => ⟨?_, ?_, ?_⟩, fun h => ⟨?_, ?_⟩⟩
  · exact fun sensor field value h' hh => hfilled.modify? hh fun _ => rfl
  · intro sensor field h' old hh
    obtain ⟨s, -, hh⟩ := Option.bind_eq_some_iff.mp hh
    obtain ⟨h'', hchange, hh⟩ := Option.bind_eq_some_iff.mp hh
    cases hh
    exact hfilled.modify? hchange fun _ => rfl
  · exact fun sensor a h' hh => hfilled.modify? hh fun _ => rfl
  · exact roomsFilled_of_ofText?
  · intro hfilled
    rw [ofText?_toText, hfilled.foldl_fillRoom]

/-- A door that two rooms list, last heard of in a leap second, with a text that takes escapes and
something that a rule says; and a lamp that is in no room. -/
def hall : Home :=
  let door := (Sensor.named "Door").setField "state" "\"aj\x00r\"\n🚪"
  let said : Annotation := ⟨"Shut", false, "ajar", ∅, .ofNames ["all"]⟩
  let heard : Instant := ⟨1483228799, 1250000000, by decide⟩
  ofLists [⟨"Hall", .ofNames ["Door", "Bell"]⟩, ⟨"Porch", .ofNames ["Door"]⟩]
    [{ door.annotate said with logs := ["door.log"], lastUpdated := some heard },
      Sensor.named "Lamp"]

/-- It is read as it is, also when the door has been shut. -/
theorem snapshot_round_trip_hall : ofText? hall.toText = some hall ∧
    ∃ h, hall.setField? "Door" "state" "shut" = some h ∧ ofText? h.toText = some h := by
  have hfilled : hall.RoomsFilled := roomsFilled_ofLists _ _
  refine ⟨(snapshot_round_trip.2.2 hall).mpr hfilled, ?_⟩
  have hdoor : (hall.setField? "Door" "state" "shut").isSome := by decide +kernel
  obtain ⟨h, hh⟩ := Option.isSome_iff_exists.mp hdoor
  have hshut : h.RoomsFilled := (snapshot_round_trip.2.1 hall hfilled).1 _ _ _ h hh
  exact ⟨h, hh, (snapshot_round_trip.2.2 h).mpr hshut⟩

end Home

end SensorRules
