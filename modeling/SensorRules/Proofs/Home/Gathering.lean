import Mathlib.Data.List.Dedup
import SensorRules.Proofs.Home.Snapshot

/-!
The house that is made of the entries of a snapshot, which may name one sensor several times and
list it in several rooms.

* `Sensor.Settles`: a sensor that names no room is in the first room that lists it;
  `Home.sensor?_foldl_fillRoom`: so it is when the rooms are filled one after the other;
* `Home.LastOf`: the last of the entries with a name; `Home.sensor?_foldl_insert`: it is the one
  that stays when the entries are put in one after the other;
* `Home.GatheredFrom`: the house holds the last entry of each name, settled in this way, and nothing
  else;
* `Home.last_entry_first_room`: every snapshot that can be read makes such a house.
-/

namespace SensorRules

variable {rooms : List Room} {room : Room} {x s : Sensor}

/-! ### The room of a sensor -/

namespace Sensor

/-- An entry of a snapshot and the sensor that stands for it in the house, with these rooms in
order. -/
inductive Settles (rooms : List Room) (x : Sensor) : Sensor → Prop where
  | own (room : String) : x.room = some room → Settles rooms x x
  | first (before : List Room) (room : Room) (after : List Room) : x.room = none →
      rooms = before ++ room :: after → x.name ∈ room.sensors →
      (∀ room' ∈ before, x.name ∉ room'.sensors) →
      Settles rooms x { x with room := some room.name }
  | nowhere : x.room = none → (∀ room ∈ rooms, x.name ∉ room.sensors) → Settles rooms x x

/-- The sensor in the first of the rooms that lists it, if it names none itself. -/
def settle (rooms : List Room) (x : Sensor) : Sensor :=
  { x with room := x.room <|> (rooms.find? fun room => x.name ∈ room.sensors).map Room.name }

/-- A sensor that is put into one room stays there if it is put into another one. -/
lemma inRoom_inRoom (s : Sensor) (room room' : String) :
    (s.inRoom room).inRoom room' = s.inRoom room :=
  inRoom_eq_self (s.isSome_room_inRoom room) room'

lemma settle_of_isSome (h : x.room.isSome) : x.settle rooms = x := by
  obtain ⟨room, hroom⟩ := Option.isSome_iff_exists.mp h
  rw [settle, hroom, Option.orElse_eq_orElse, Option.orElse_some, ← hroom]

/-- The first room counts before the others. -/
lemma settle_cons (x : Sensor) (room : Room) (rooms : List Room) : x.settle (room :: rooms) =
    (if x.name ∈ room.sensors then x.inRoom room.name else x).settle rooms := by
  by_cases hlisted : x.name ∈ room.sensors
  · rw [if_pos hlisted, settle_of_isSome (x.isSome_room_inRoom room.name), settle,
      List.find?_cons, decide_eq_true hlisted]
    rfl
  · rw [if_neg hlisted, settle, List.find?_cons, decide_eq_false hlisted]
    rfl

lemma settle_of_find? (hroom : x.room = none)
    (hfind : (rooms.find? fun room => x.name ∈ room.sensors) = some room) :
    x.settle rooms = { x with room := some room.name } := by
  rw [settle, hroom, hfind]
  rfl

lemma settle_of_notMem (hroom : x.room = none) (h : ∀ room ∈ rooms, x.name ∉ room.sensors) :
    x.settle rooms = x := by
  have hfind : (rooms.find? fun room => x.name ∈ room.sensors) = none :=
    List.find?_eq_none.mpr (by simpa using h)
  rw [settle, hroom, hfind]
  change { x with room := none } = x
  rw [← hroom]

lemma settle_nil (x : Sensor) : x.settle [] = x := by
  cases hroom : x.room with
  | some room => exact settle_of_isSome (hroom ▸ rfl)
  | none => exact settle_of_notMem hroom nofun

lemma settles_settle (rooms : List Room) (x : Sensor) : x.Settles rooms (x.settle rooms) := by
  cases hroom : x.room with
  | some room =>
      rw [settle_of_isSome (hroom ▸ rfl)]
      exact .own room hroom
  | none =>
      cases hfind : rooms.find? fun room => x.name ∈ room.sensors with
      | some room =>
          obtain ⟨hlisted, before, after, hsplit, hbefore⟩ :=
            List.find?_eq_some_iff_append.mp hfind
          rw [settle_of_find? hroom hfind]
          exact .first before room after hroom hsplit (of_decide_eq_true hlisted)
            (by simpa using hbefore)
      | none =>
          have hnone : ∀ room ∈ rooms, x.name ∉ room.sensors := by
            simpa using List.find?_eq_none.mp hfind
          rw [settle_of_notMem hroom hnone]
          exact .nowhere hroom hnone

/-- An entry settles in one way only. -/
lemma settles_iff : x.Settles rooms s ↔ s = x.settle rooms := by
  refine ⟨fun h => ?_, fun h => h ▸ settles_settle rooms x⟩
  cases h with
  | own room hroom => exact (settle_of_isSome (hroom ▸ rfl)).symm
  | first before room after hroom hsplit hlisted hbefore =>
      refine (settle_of_find? hroom (List.find?_eq_some_iff_append.mpr ?_)).symm
      exact ⟨decide_eq_true hlisted, before, after, hsplit, by simpa using hbefore⟩
  | nowhere hroom hnone => exact (settle_of_notMem hroom hnone).symm

/-- If an entry names no room, then neither does its sensor just if no room lists it. -/
lemma room_settle_eq_none_iff (hroom : x.room = none) :
    (x.settle rooms).room = none ↔ ∀ room ∈ rooms, x.name ∉ room.sensors := by
  rw [settle, hroom]
  change (rooms.find? fun room => x.name ∈ room.sensors).map Room.name = none ↔ _
  rw [Option.map_eq_none_iff, List.find?_eq_none]
  simp

end Sensor

namespace Home

variable {sensors before after : List Sensor} {name : String}

/-! ### Rooms one after the other -/

/-- The sensors of a room are put into it, if they are in no room, and nothing else changes. -/
lemma sensor?_fillRoom (h : Home) (room : Room) : (h.fillRoom room).sensor? name =
    if name ∈ room.sensors then (h.sensor? name).map (·.inRoom room.name) else h.sensor? name := by
  have hfold : ∀ names : List String, (names.foldl (assignRoom room.name) h).sensor? name =
      if name ∈ names then (h.sensor? name).map (·.inRoom room.name) else h.sensor? name := by
    intro names
    induction names using List.reverseRecOn with
    | nil => rfl
    | append_singleton names sensor ih =>
        rw [List.foldl_concat, sensor?_assignRoom, ih]
        by_cases heq : sensor = name
        · have hmem : name ∈ names ++ [sensor] := by simp [heq]
          rw [if_pos heq, if_pos hmem]
          split
          next => simp only [Option.map_map, Function.comp_def, Sensor.inRoom_inRoom]
          next => rfl
        · rw [if_neg heq]
          simp [Ne.symm heq]
  rw [fillRoom, hfold]
  simp only [Std.ExtTreeSet.mem_toList]

/-- To fill rooms one after the other settles each sensor. -/
lemma sensor?_foldl_fillRoom (h : Home) (rooms : List Room) :
    (rooms.foldl fillRoom h).sensor? name = (h.sensor? name).map (·.settle rooms) := by
  induction rooms generalizing h with
  | nil => simp only [List.foldl_nil, Sensor.settle_nil, Option.map_id']
  | cons room rooms ih =>
      rw [List.foldl_cons, ih, sensor?_fillRoom]
      cases hs : h.sensor? name with
      | none => simp
      | some s =>
          have hname : s.name = name := h.name_eq name s hs
          simp only [Option.map_some, Sensor.settle_cons, hname]
          split <;> rfl

/-! ### Entries one after the other -/

/-- This is the last of the entries with a name. -/
def LastOf (sensors : List Sensor) (name : String) (x : Sensor) : Prop :=
  ∃ before after, sensors = before ++ x :: after ∧ x.name = name ∧ name ∉ after.map Sensor.name

/-- From the end of the list it is the first entry with the name. -/
lemma lastOf_iff : LastOf sensors name x ↔ sensors.reverse.find? (·.name == name) = some x := by
  rw [List.find?_eq_some_iff_append]
  constructor
  · rintro ⟨before, after, rfl, rfl, hafter⟩
    refine ⟨beq_self_eq_true x.name, after.reverse, before.reverse, by simp, ?_⟩
    simpa using hafter
  · rintro ⟨hname, after, before, hsplit, hafter⟩
    refine ⟨before.reverse, after.reverse, ?_, by simpa using hname, by simpa using hafter⟩
    rw [← List.reverse_reverse sensors, hsplit]
    simp

/-- Of the entries that are put into a house the last one of each name stays. -/
lemma sensor?_foldl_insert (h : Home) (sensors : List Sensor) :
    (sensors.foldl insert h).sensor? name =
      (sensors.reverse.find? (·.name == name)).or (h.sensor? name) := by
  induction sensors using List.reverseRecOn with
  | nil => rfl
  | append_singleton sensors s ih =>
      rw [List.foldl_concat, sensor?_insert, ih,
        List.reverse_concat, List.find?_cons]
      by_cases heq : s.name = name
      · rw [if_pos heq, beq_iff_eq.mpr heq, Option.some_or]
      · rw [if_neg heq, beq_eq_false_iff_ne.mpr heq]

/-- An entry with another one of its name after it counts for nothing. -/
lemma find?_reverse_drop (hname : x.name ∈ after.map Sensor.name) :
    (before ++ x :: after).reverse.find? (·.name == name) =
      (before ++ after).reverse.find? (·.name == name) := by
  rw [List.reverse_append, List.reverse_append, List.reverse_cons, List.append_assoc,
    List.find?_append, List.find?_append, List.find?_append, List.find?_singleton]
  split
  next heq =>
    obtain ⟨y, hy, hyname⟩ := List.mem_map.mp hname
    have hlater : (after.reverse.find? (·.name == name)).isSome :=
      List.find?_isSome.mpr ⟨y, List.mem_reverse.mpr hy, hyname ▸ heq⟩
    obtain ⟨z, hz⟩ := Option.isSome_iff_exists.mp hlater
    rw [hz, Option.some_or, Option.some_or]
  next => rfl

/-! ### Snapshots -/

lemma sensor?_ofLists (rooms : List Room) (sensors : List Sensor) (name : String) :
    (ofLists rooms sensors).sensor? name =
      (sensors.reverse.find? (·.name == name)).map (·.settle rooms) := by
  rw [ofLists, sensor?_foldl_fillRoom, sensor?_foldl_insert]
  -- Before the entries are put in, there are no sensors.
  change (Option.or _ none).map _ = _
  rw [Option.or_none]

/-- The house is made of these rooms, and of the last of the entries with each name. -/
structure GatheredFrom (h : Home) (rooms : List Room) (sensors : List Sensor) : Prop where
  rooms_eq : h.rooms = rooms
  /-- There is one sensor for each name of an entry, and no others. -/
  names_perm : (h.sensorList.map Sensor.name).Perm (sensors.map Sensor.name).dedup
  /-- What stands under a name is the last of the entries with this name, in its room. -/
  sensor?_iff : ∀ name s, h.sensor? name = some s ↔
    ∃ x, LastOf sensors name x ∧ x.Settles rooms s
  /-- If this entry names no room, the sensor is in none just if no room lists it. -/
  unlisted : ∀ name x s, LastOf sensors name x → x.room = none → h.sensor? name = some s →
    (s.room = none ↔ ∀ room ∈ rooms, name ∉ room.sensors)
  /-- The house is the same without an entry that is not the last one of its name. -/
  replaced : ∀ before x after, sensors = before ++ x :: after → x.name ∈ after.map Sensor.name →
    h = ofLists rooms (before ++ after)

lemma rooms_ofLists : (ofLists rooms sensors).rooms = rooms := by
  rw [ofLists, foldl_fillRoom, rooms_place, rooms_foldl_insert]

lemma sensor?_ofLists_eq_some_iff : (ofLists rooms sensors).sensor? name = some s ↔
    ∃ x, LastOf sensors name x ∧ x.Settles rooms s := by
  rw [sensor?_ofLists, Option.map_eq_some_iff]
  simp only [lastOf_iff, Sensor.settles_iff, eq_comm]

lemma map_name_sensorList (h : Home) :
    h.sensorList.map Sensor.name = h.sensors.toList.map Prod.fst := by
  rw [← map_sensorList, List.map_map]
  rfl

lemma names_ofLists_perm : ((ofLists rooms sensors).sensorList.map Sensor.name).Perm
    (sensors.map Sensor.name).dedup := by
  rw [map_name_sensorList, List.perm_ext_iff_of_nodup (NameTable.nodup_keys _) (List.nodup_dedup _)]
  intro name
  have htable : name ∈ (ofLists rooms sensors).sensors.toList.map Prod.fst ↔
      ((ofLists rooms sensors).sensor? name).isSome := by
    rw [Std.ExtTreeMap.map_fst_toList_eq_keys, Std.ExtTreeMap.mem_keys]
    exact Std.ExtTreeMap.mem_iff_isSome_getElem?
  rw [htable, sensor?_ofLists, Option.isSome_map, List.find?_isSome, List.mem_dedup, List.mem_map]
  simp only [List.mem_reverse, beq_iff_eq]

/-- Rooms and sensors that are listed make a house of this kind. -/
lemma gatheredFrom_ofLists (rooms : List Room) (sensors : List Sensor) :
    (ofLists rooms sensors).GatheredFrom rooms sensors where
  rooms_eq := rooms_ofLists
  names_perm := names_ofLists_perm
  sensor?_iff _ _ := sensor?_ofLists_eq_some_iff
  unlisted name x s hlast hroom hs := by
    have hx : (ofLists rooms sensors).sensor? name = some (x.settle rooms) :=
      sensor?_ofLists_eq_some_iff.mpr ⟨x, hlast, x.settles_settle rooms⟩
    obtain rfl : s = x.settle rooms := Option.some.inj (hs.symm.trans hx)
    obtain ⟨-, -, -, rfl, -⟩ := hlast
    exact Sensor.room_settle_eq_none_iff hroom
  replaced before x after hsplit hname := by
    subst hsplit
    refine ext_sensor? (rooms_ofLists.trans rooms_ofLists.symm) fun name => ?_
    rw [sensor?_ofLists, sensor?_ofLists, find?_reverse_drop hname]

/-- The rooms and the sensors that a snapshot lists. -/
def listed? (text : String) : Option (List Room × List Sensor) := do
  let v ← Json.read? text
  let r ← v.record? 2
  let rooms ← r.optional 0 ["rooms"] [] (Json.listOf? Room.ofJson?)
  let sensors ← r.optional 1 ["sensors"] [] (Json.listOf? Sensor.ofJson?)
  some (rooms, sensors)

lemma ofText?_eq_map (text : String) :
    ofText? text = (listed? text).map fun lists => ofLists lists.1 lists.2 := by
  simp only [ofText?, listed?, Option.bind_eq_bind, Option.map_bind, Function.comp_def]
  rfl

/-- Any rooms and sensors can be listed. -/
lemma exists_listed? (rooms : List Room) (sensors : List Sensor) :
    ∃ text, listed? text = some (rooms, sensors) := by
  obtain ⟨r, hr, hrooms, hsensors⟩ := fields_listing rooms sensors
  refine ⟨(listing rooms sensors).toText, ?_⟩
  rw [listed?, Json.read?_toText (plain_listing rooms sensors)]
  simp only [Option.bind_eq_bind, Option.bind_some, hr, hrooms, hsensors]

/-- **The last entry and the first room.** A snapshot is read just if its lists are, and these may
be any lists of rooms and sensors. The house has the rooms as they are listed and one sensor for
each name of an entry: the last entry with this name. If that names no room, the sensor is in the
first room that lists it, and in none if no room does. Of an earlier entry nothing is left, and
rooms make no sensors. -/
theorem last_entry_first_room :
    (∀ text, ofText? text = none ↔ listed? text = none) ∧
    (∀ rooms sensors, ∃ text, listed? text = some (rooms, sensors)) ∧
    ∀ text rooms sensors, listed? text = some (rooms, sensors) →
      ∃ h, ofText? text = some h ∧ h.GatheredFrom rooms sensors := by
  refine ⟨fun text => ?_, exists_listed?, fun text rooms sensors hlists => ?_⟩
  · rw [ofText?_eq_map, Option.map_eq_none_iff]
  · refine ⟨ofLists rooms sensors, ?_, gatheredFrom_ofLists rooms sensors⟩
    rw [ofText?_eq_map, hlists, Option.map_some]

/-- A door with two entries, which two rooms list, is in the first of these rooms. -/
theorem last_entry_first_room_door : ∃ text h, ofText? text = some h ∧
    h.sensor? "Door" = some { Sensor.named "Door" with room := some "Hall" } := by
  let attic : Sensor := { Sensor.named "Door" with room := some "Attic", logs := ["door.log"] }
  let rooms : List Room := [⟨"Hall", .ofNames ["Bell", "Door"]⟩, ⟨"Porch", .ofNames ["Door"]⟩]
  obtain ⟨text, hlists⟩ := last_entry_first_room.2.1 rooms [attic, Sensor.named "Door"]
  obtain ⟨h, hh, hgathered⟩ := last_entry_first_room.2.2 text _ _ hlists
  have hlast : LastOf [attic, Sensor.named "Door"] "Door" (Sensor.named "Door") :=
    ⟨[attic], [], rfl, rfl, List.not_mem_nil⟩
  have hsettles : (Sensor.named "Door").Settles rooms
      { Sensor.named "Door" with room := some "Hall" } :=
    .first [] _ _ rfl rfl (by decide +kernel) nofun
  exact ⟨text, h, hh, (hgathered.sensor?_iff "Door" _).mpr ⟨_, hlast, hsettles⟩⟩

end Home

end SensorRules
