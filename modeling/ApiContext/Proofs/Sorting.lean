import Mathlib.Data.List.Nodup
import Mathlib.Data.String.Basic
import ApiContext.Json.Basic
import ApiContext.Proofs.OrderedMaps

/-! Members in ascending order, and under distinct keys. Sorting only permutes what an object holds;
sorted once, nothing moves again, and members with different keys are sorted alike in whatever order
they came. Once each key counts once, it does so also when the members are sorted. -/
namespace ApiContext.Json
variable {key : String} {value : Json} {ms ms' : List (String × Json)}

theorem sortedElems_eq (elems : List Json) : sortedElems elems = elems.map sorted := by
  induction elems with
  | nil => rfl
  | cons e rest ih => rw [sortedElems, ih, List.map_cons]

/-- Keys do not descend. -/
def Ascending (ms : List (String × Json)) : Prop := ms.Pairwise (·.1 ≤ ·.1)

theorem insertSorted_perm (key : String) (value : Json) (ms : List (String × Json)) :
    (insertSorted key value ms).Perm ((key, value) :: ms) := by
  induction ms with
  | nil => exact .refl _
  | cons m rest ih =>
    obtain ⟨k, v⟩ := m
    rw [insertSorted]
    split
    · exact (ih.cons (k, v)).trans (.swap (key, value) (k, v) rest)
    · exact .refl _

/-- A member is put in at one place, and the others keep theirs. -/
theorem exists_insertSorted (key : String) (value : Json) (ms : List (String × Json)) :
    ∃ front back, ms = front ++ back ∧ insertSorted key value ms = front ++ (key, value) :: back := by
  induction ms with
  | nil => exact ⟨[], [], rfl, rfl⟩
  | cons m rest ih =>
    obtain ⟨k, v⟩ := m
    rw [insertSorted]
    split
    · obtain ⟨front, back, rfl, hinserted⟩ := ih
      exact ⟨(k, v) :: front, back, rfl, by rw [hinserted, List.cons_append]⟩
    · exact ⟨[], (k, v) :: rest, rfl, rfl⟩

theorem ascending_insertSorted (key : String) (value : Json) (h : Ascending ms) :
    Ascending (insertSorted key value ms) := by
  induction ms with
  | nil => exact List.pairwise_singleton _ _
  | cons m rest ih =>
    obtain ⟨k, v⟩ := m
    obtain ⟨hm, hrest⟩ := List.pairwise_cons.mp h
    rw [insertSorted]
    split
    · next hlt =>
      refine List.pairwise_cons.mpr ⟨fun n hn => ?_, ih hrest⟩
      obtain rfl | hn := List.mem_cons.mp ((insertSorted_perm key value rest).mem_iff.mp hn)
      · exact hlt.le
      · exact hm n hn
    · next hge =>
      have hle : key ≤ k := not_lt.mp hge
      refine List.pairwise_cons.mpr ⟨fun n hn => ?_, h⟩
      obtain rfl | hn := List.mem_cons.mp hn
      · exact hle
      · exact hle.trans (hm n hn)

theorem insertSorted_of_ascending (h : Ascending ((key, value) :: ms)) :
    insertSorted key value ms = (key, value) :: ms := by
  cases ms with
  | nil => rfl
  | cons m rest =>
    have hle : key ≤ m.1 := (List.pairwise_cons.mp h).1 m (by simp)
    rw [insertSorted, if_neg hle.not_gt]

theorem sortedMembers_perm (ms : List (String × Json)) :
    (sortedMembers ms).Perm (ms.map fun m => (m.1, m.2.sorted)) := by
  induction ms with
  | nil => exact .refl _
  | cons m rest ih =>
    obtain ⟨k, v⟩ := m
    rw [sortedMembers]
    exact (insertSorted_perm k v.sorted _).trans (ih.cons (k, v.sorted))

theorem ascending_sortedMembers (ms : List (String × Json)) : Ascending (sortedMembers ms) := by
  induction ms with
  | nil => exact .nil
  | cons m rest ih =>
    obtain ⟨k, v⟩ := m
    exact ascending_insertSorted k v.sorted ih

/-- Members in ascending order keep their places. -/
theorem sortedMembers_of_ascending (h : Ascending ms) :
    sortedMembers ms = ms.map fun m => (m.1, m.2.sorted) := by
  induction ms with
  | nil => rfl
  | cons m rest ih =>
    obtain ⟨k, v⟩ := m
    obtain ⟨hm, hrest⟩ := List.pairwise_cons.mp h
    rw [sortedMembers, ih hrest]
    refine insertSorted_of_ascending (List.pairwise_cons.mpr ⟨?_, ?_⟩)
    · intro n hn
      obtain ⟨m', hm', rfl⟩ := List.mem_map.mp hn
      exact hm m' hm'
    · exact List.pairwise_map.mpr hrest

theorem keys_sortedMembers_perm (ms : List (String × Json)) :
    (Entries.keys (sortedMembers ms)).Perm (Entries.keys ms) := by
  have h := (sortedMembers_perm ms).map Prod.fst
  rwa [List.map_map] at h

mutual

theorem sorted_sorted : (j : Json) → j.sorted.sorted = j.sorted
  | .null | .bool _ | .num _ | .str _ => rfl
  | .arr elems => by rw [sorted, sorted, sortedElems_sorted elems]
  | .obj members => by
    have hvalues : ∀ m ∈ sortedMembers members, (m.1, m.2.sorted) = m := by
      intro m hm
      obtain ⟨n, hn, rfl⟩ := List.mem_map.mp ((sortedMembers_perm members).mem_iff.mp hm)
      exact Prod.ext rfl (sortedMembers_sorted members n hn)
    rw [sorted, sorted, sortedMembers_of_ascending (ascending_sortedMembers members),
      List.map_congr_left hvalues, List.map_id']

theorem sortedElems_sorted :
    (elems : List Json) → sortedElems (sortedElems elems) = sortedElems elems
  | [] => rfl
  | e :: rest => by rw [sortedElems, sortedElems, sorted_sorted e, sortedElems_sorted rest]

theorem sortedMembers_sorted :
    (members : List (String × Json)) → ∀ m ∈ members, m.2.sorted.sorted = m.2.sorted
  | [], _, hm => nomatch hm
  | (k, v) :: rest, m, hm => by
    obtain rfl | hm := List.mem_cons.mp hm
    · exact sorted_sorted v
    · exact sortedMembers_sorted rest m hm

end

/-- Members with different keys have one ascending order. -/
theorem sortedMembers_of_perm (h : ms.Perm ms') (hn : (Entries.keys ms).Nodup) :
    sortedMembers ms = sortedMembers ms' := by
  have hperm : (sortedMembers ms).Perm (sortedMembers ms') :=
    (sortedMembers_perm ms).trans ((h.map _).trans (sortedMembers_perm ms').symm)
  have hkeys : (Entries.keys (sortedMembers ms)).Nodup :=
    (keys_sortedMembers_perm ms).nodup_iff.mpr hn
  refine hperm.eq_of_pairwise ?_ (ascending_sortedMembers ms) (ascending_sortedMembers ms')
  intro a b ha hb hab hba
  exact List.inj_on_of_nodup_map hkeys ha (hperm.mem_iff.mpr hb) (le_antisymm hab hba)

/-- Sorting does not change what a lookup finds. -/
theorem lookup_sortedMembers (hn : (Entries.keys ms).Nodup) (key : String) :
    (sortedMembers ms).lookup key = (ms.lookup key).map sorted := by
  have hsorted : (Entries.keys (sortedMembers ms)).Nodup :=
    (keys_sortedMembers_perm ms).nodup_iff.mpr hn
  rw [Entries.lookup_of_perm (sortedMembers_perm ms) hsorted]
  exact Entries.lookup_map_values sorted ms key

/-! ### Distinct keys -/

theorem distinctElems_eq (elems : List Json) : distinctElems elems = elems.map distinct := by
  induction elems with
  | nil => rfl
  | cons e rest ih => rw [distinctElems, ih, List.map_cons]

theorem distinctValues_eq (members : List (String × Json)) :
    distinctValues members = members.map fun m => (m.1, m.2.distinct) := by
  induction members with
  | nil => rfl
  | cons m rest ih =>
    obtain ⟨k, v⟩ := m
    rw [distinctValues, ih, List.map_cons]

/-- Members with different keys all count. -/
theorem distinct_obj (hn : (Entries.keys ms).Nodup) (hvalues : ∀ m ∈ ms, m.2.distinct = m.2) :
    (obj ms).distinct = obj ms := by
  have hms : distinctValues ms = ms := by
    have hsame : ∀ m ∈ ms, (m.1, m.2.distinct) = m := fun m hm => Prod.ext rfl (hvalues m hm)
    rw [distinctValues_eq, List.map_congr_left hsame, List.map_id']
  rw [distinct, hms]
  exact congrArg (fun m => obj m.entries) (OrderedMap.ofEntries_entries ⟨ms, hn⟩)

mutual

/-- Sorting brings no key back that stood twice. -/
theorem distinct_sorted_distinct : (j : Json) → j.distinct.sorted.distinct = j.distinct.sorted
  | .null | .bool _ | .num _ | .str _ => rfl
  | .arr elems => by rw [distinct, sorted, distinct, distinctElems_sorted_distinct elems]
  | .obj members => by
    rw [distinct, sorted]
    refine distinct_obj ?_ fun n hn => ?_
    · exact (keys_sortedMembers_perm _).nodup_iff.mpr (OrderedMap.nodup _)
    · obtain ⟨l, hl, rfl⟩ := List.mem_map.mp ((sortedMembers_perm _).mem_iff.mp hn)
      have hl := OrderedMap.mem_of_mem_ofEntries hl
      rw [distinctValues_eq] at hl
      obtain ⟨m, hm, rfl⟩ := List.mem_map.mp hl
      exact distinctValues_sorted_distinct members m hm

theorem distinctElems_sorted_distinct : (elems : List Json) →
    distinctElems (sortedElems (distinctElems elems)) = sortedElems (distinctElems elems)
  | [] => rfl
  | e :: rest => by
    rw [distinctElems, sortedElems, distinctElems, distinct_sorted_distinct e,
      distinctElems_sorted_distinct rest]

theorem distinctValues_sorted_distinct : (members : List (String × Json)) →
    ∀ m ∈ members, m.2.distinct.sorted.distinct = m.2.distinct.sorted
  | [], _, hm => nomatch hm
  | (k, v) :: rest, m, hm => by
    obtain rfl | hm := List.mem_cons.mp hm
    · exact distinct_sorted_distinct v
    · exact distinctValues_sorted_distinct rest m hm

end

end ApiContext.Json
