import Mathlib.Data.List.Nodup
import SensorRules.Names

/-!
What tables and sets of names hold, with equality of names in place of their comparison, and the
order in which they list it.
-/

namespace SensorRules

variable {α : Type} {name name' : String} {a : α} {entries : List (String × α)}

namespace NameTable

lemma getElem?_insert (t : NameTable α) (name name' : String) (a : α) :
    (t.insert name a)[name']? = if name = name' then some a else t[name']? := by
  rw [Std.ExtTreeMap.getElem?_insert]
  simp only [Std.compare_eq_iff_eq]

lemma getElem?_erase (t : NameTable α) (name name' : String) :
    (t.erase name)[name']? = if name = name' then none else t[name']? := by
  rw [Std.ExtTreeMap.getElem?_erase]
  simp only [Std.compare_eq_iff_eq]

/-- An entry that is there already may be written again. -/
lemma insert_eq_self {t : NameTable α} (h : t[name]? = some a) : t.insert name a = t := by
  refine Std.ExtTreeMap.ext_getElem? fun name' => ?_
  rw [getElem?_insert]
  split
  next heq => rw [← heq, h]
  next => rfl

/-- What a table made of a list of entries holds is one of them. -/
lemma mem_of_getElem?_ofList (h : (Std.ExtTreeMap.ofList entries : NameTable α)[name]? = some a) :
    (name, a) ∈ entries := by
  rw [Std.ExtTreeMap.ofList_eq_insertMany_empty, Std.ExtTreeMap.getElem?_insertMany_list,
    List.findSomeRev?_eq_findSome?_reverse, Std.ExtTreeMap.getElem?_empty, Option.or_none] at h
  obtain ⟨e, he, hsome⟩ := List.exists_of_findSome?_eq_some h
  simp only [Std.compare_eq_iff_eq, Option.ite_none_right_eq_some, Option.some.injEq] at hsome
  obtain ⟨rfl, rfl⟩ := hsome
  exact List.mem_reverse.mp he

/-- If no two entries have one name, a table made of them holds each. -/
lemma getElem?_ofList_of_mem (hnodup : (entries.map Prod.fst).Nodup) (h : (name, a) ∈ entries) :
    (Std.ExtTreeMap.ofList entries : NameTable α)[name]? = some a := by
  refine Std.ExtTreeMap.getElem?_ofList_of_mem Std.ReflCmp.compare_self ?_ h
  rw [List.nodup_iff_pairwise_ne, List.pairwise_map] at hnodup
  exact hnodup.imp fun hne heq => hne (Std.LawfulEqCmp.eq_of_compare heq)

/-- A table made of a list of entries holds nothing under other names. -/
lemma getElem?_ofList_of_notMem (h : name ∉ entries.map Prod.fst) :
    (Std.ExtTreeMap.ofList entries : NameTable α)[name]? = none := by
  refine Option.eq_none_iff_forall_ne_some.mpr fun a ha => h ?_
  exact List.mem_map_of_mem (mem_of_getElem?_ofList ha)

lemma mem_iff_exists_mem_toList {t : NameTable α} : name ∈ t ↔ ∃ a, (name, a) ∈ t.toList := by
  rw [← Std.ExtTreeMap.mem_keys, ← Std.ExtTreeMap.map_fst_toList_eq_keys, List.mem_map]
  exact ⟨fun ⟨e, he, heq⟩ => ⟨e.2, heq ▸ he⟩, fun ⟨a, ha⟩ => ⟨(name, a), ha, rfl⟩⟩

/-- The entries of a table have different names. -/
lemma nodup_keys (t : NameTable α) : (t.toList.map Prod.fst).Nodup := by
  rw [List.nodup_iff_pairwise_ne, List.pairwise_map]
  exact t.distinct_keys_toList.imp fun hne heq => hne (Std.compare_eq_iff_eq.mpr heq)

/-- The entries of a table are listed by their names. -/
lemma sorted_toList (t : NameTable α) : t.toList.Pairwise fun e e' => e.1 < e'.1 :=
  t.ordered_keys_toList.imp compareOfLessAndEq_eq_lt.mp

/-- The names of a table are listed in order. -/
lemma sorted_keys (t : NameTable α) : t.keys.Pairwise (· < ·) :=
  t.ordered_keys.imp compareOfLessAndEq_eq_lt.mp

/-- The values of a table are those of its entries. -/
lemma values_eq_map (t : NameTable α) : t.values = t.toList.map Prod.snd := by
  have hfold : t.values = t.foldr (fun _ a as => a :: as) [] := rfl
  rw [hfold, Std.ExtTreeMap.foldr_eq_foldr_toList, List.map_eq_foldr]

/-- The names in a part of a table. -/
lemma keys_filter (t : NameTable α) (p : String → Bool) :
    (t.filter fun name _ => p name).keys = t.keys.filter p := by
  rw [← Std.ExtTreeMap.map_fst_toList_eq_keys, ← Std.ExtTreeMap.map_fst_toList_eq_keys,
    Std.ExtTreeMap.toList_filter, List.filter_map]
  rfl

/-- A table is made of its own entries. -/
lemma ofList_toList (t : NameTable α) : (Std.ExtTreeMap.ofList t.toList : NameTable α) = t := by
  refine Std.ExtTreeMap.ext_getElem? fun name => Option.ext fun a => ?_
  have hmem : t[name]? = some a ↔ (name, a) ∈ t.toList :=
    Std.ExtTreeMap.mem_toList_iff_getElem?_eq_some.symm
  rw [hmem]
  exact ⟨mem_of_getElem?_ofList, getElem?_ofList_of_mem t.nodup_keys⟩

/-- If no two entries have one name, a table made of them has these entries. -/
lemma toList_ofList_perm (hnodup : (entries.map Prod.fst).Nodup) :
    (Std.ExtTreeMap.ofList entries : NameTable α).toList.Perm entries := by
  have hlist : entries.Nodup := List.Nodup.of_map _ hnodup
  have htable := List.Nodup.of_map _ (nodup_keys (Std.ExtTreeMap.ofList entries : NameTable α))
  rw [List.perm_ext_iff_of_nodup htable hlist]
  rintro ⟨name, a⟩
  rw [Std.ExtTreeMap.mem_toList_iff_getElem?_eq_some]
  exact ⟨mem_of_getElem?_ofList, getElem?_ofList_of_mem hnodup⟩

end NameTable

namespace NameSet

lemma mem_ofNames {names : List String} : name ∈ NameSet.ofNames names ↔ name ∈ names := by
  rw [NameSet.ofNames, Std.ExtTreeSet.mem_ofList, List.contains_eq_mem, decide_eq_true_iff]

/-- A set is made of its own members. -/
@[simp]
lemma ofNames_toList (names : NameSet) : NameSet.ofNames names.toList = names :=
  Std.ExtTreeSet.ext_mem fun _ => mem_ofNames.trans Std.ExtTreeSet.mem_toList

lemma contains_ofNames (names : List String) (name : String) :
    (NameSet.ofNames names).contains name = decide (name ∈ names) := by
  rw [NameSet.ofNames, Std.ExtTreeSet.contains_ofList, List.contains_eq_mem]

lemma mem_insert {names : NameSet} {name' : String} :
    name ∈ names.insert name' ↔ name' = name ∨ name ∈ names := by
  rw [Std.ExtTreeSet.mem_insert, Std.compare_eq_iff_eq]

lemma mem_filter {names : NameSet} {p : String → Bool} :
    name ∈ names.filter p ↔ name ∈ names ∧ p name = true := by
  rw [Std.ExtTreeSet.mem_filter]
  simp only [Std.ExtTreeSet.get_eq, exists_prop]

lemma mem_union {names names' : NameSet} :
    name ∈ names.union names' ↔ name ∈ names ∨ name ∈ names' := by
  rw [NameSet.union, Std.ExtTreeSet.mem_insertMany_list, List.contains_iff_mem,
    Std.ExtTreeSet.mem_toList]

lemma nodup_toList (names : NameSet) : names.toList.Nodup :=
  names.distinct_toList.imp fun hne heq => hne (Std.compare_eq_iff_eq.mpr heq)

/-- The names of a set are listed in order. -/
lemma sorted_toList (names : NameSet) : names.toList.Pairwise (· < ·) :=
  names.ordered_toList.imp compareOfLessAndEq_eq_lt.mp

end NameSet

end SensorRules
