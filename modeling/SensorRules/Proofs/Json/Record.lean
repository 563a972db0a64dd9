import SensorRules.Json.Record
import SensorRules.Proofs.Names
import SensorRules.Proofs.Traversal

/-!
Typed values that are decoded from what they are encoded as.

* `Json.listOf?_arr`, `Json.texts?_texts`, `Json.names?_texts`, `Json.tableOf?_object`: lists, sets
  and tables;
* `Json.record?_object`: the fields of a record written as an object, and
  `Record.required_eq_some`, `Record.optional_eq_some`: those that are there are decoded;
* `Json.orNull_eq_some`: a value that is decoded at all is decoded the same where `null` is allowed;
* `Json.exists_of_mem_listOf?`, `Json.within_of_intWithin?`: what is decoded came from something.
-/

namespace SensorRules

namespace Json

variable {α : Type} {decode : Json → Option α} {encode : α → Json} {as : List α} {a default : α}
  {v : Json}

/-- A list is decoded if each of its items is. -/
lemma listOf?_arr (h : ∀ a ∈ as, decode (encode a) = some a) :
    listOf? decode (.arr (as.map encode)) = some as := by
  rw [listOf?, Traversal.mapM_eq_some_iff, List.map_map]
  exact List.map_congr_left h

lemma texts?_texts {ss : List String} : listOf? text? (.texts ss) = some ss :=
  listOf?_arr fun _ _ => rfl

lemma names?_texts {names : NameSet} : names? (.texts names.toList) = some names := by
  rw [names?, texts?_texts, Option.map_some, NameSet.ofNames_toList]

/-- The items of a list that is decoded are decoded themselves. -/
lemma exists_of_mem_listOf? (h : listOf? decode v = some as) (ha : a ∈ as) :
    ∃ item, decode item = some a := by
  cases v with
  | arr items =>
      obtain ⟨item, -, hitem⟩ := Traversal.exists_of_mem_read (Traversal.mapM_eq_some_iff.mp h) ha
      exact ⟨item, hitem⟩
  | _ => exact absurd h nofun

lemma within_of_intWithin? {bound : Nat} {n : Int} (h : intWithin? bound v = some n) :
    -(bound : Int) ≤ n ∧ n < bound := by
  cases v with
  | int m =>
      obtain ⟨hm, heq⟩ := Option.ite_none_right_eq_some.mp h
      exact Option.some.inj heq ▸ hm
  | _ => exact absurd h nofun

/-- A table is decoded if each of its values is. -/
lemma tableOf?_object (decode : Json → Option α) (encode : α → Json)
    (h : ∀ a, decode (encode a) = some a) (t : NameTable α) :
    tableOf? decode (.object (t.toList.map fun e => (e.1, encode e.2))) = some t := by
  have hentries : ((t.toList.map fun e => (e.1, encode e.2)).map fun m => (some m.1, m.2)).mapM
      (keyed? decode) = some t.toList := by
    rw [Traversal.mapM_eq_some_iff, List.map_map, List.map_map]
    refine List.map_congr_left fun e _ => ?_
    simp only [Function.comp_apply, keyed?, h, Option.bind_eq_bind, Option.bind_some]
  rw [object, tableOf?, hentries, Option.map_some, NameTable.ofList_toList]

/-- The fields of a record are the members that it is written with. -/
lemma record?_object {width : Nat} {ms : List (String × Json)} :
    (object ms).record? width = some (.named ms) := by
  have hmembers : (ms.map fun m => (some m.1, m.2)).mapM (keyed? some) = some ms := by
    rw [Traversal.mapM_eq_some_iff, List.map_map]
    rfl
  rw [object, record?, hmembers]
  rfl

lemma orNull_eq_some (hnull : decode null = none) (h : decode v = some a) :
    orNull default decode v = some a := by
  cases v with
  | null => rw [hnull] at h; exact absurd h nofun
  | _ => exact h

lemma eq_default_or_of_orNull (h : orNull default decode v = some a) :
    a = default ∨ decode v = some a := by
  cases v with
  | null => exact .inl (Option.some.inj h).symm
  | _ => exact .inr h

end Json

namespace Record

variable {α : Type} {r : Record} {position : Nat} {name : String} {spellings : List String}
  {decode : Json → Option α} {v : Json} {a default : α}

/-- A field that is there is decoded. -/
lemma required_eq_some (hfield : r.field? position [name] = some (some v)) (h : decode v = some a) :
    r.required position name decode = some a := by
  rw [required, hfield]
  exact h

/-- So is one with a default. -/
lemma optional_eq_some (hfield : r.field? position spellings = some (some v))
    (h : decode v = some a) : r.optional position spellings default decode = some a := by
  rw [optional, hfield]
  exact h

end Record

end SensorRules
