import ApiContext.Json.Record
import ApiContext.Proofs.Sorting

/-! How deep JSON is nested. A container has one level more than what it holds, and neither the
order of what it holds nor its passage through a value changes that. -/
namespace ApiContext.Json.Source

mutual

/-- The containers that are open at once; a scalar opens none. -/
def levels : Source → Nat
  | .arr elems => levelsElems elems + 1
  | .obj members => levelsMembers members + 1
  | _ => 0

def levelsElems : List Source → Nat
  | [] => 0
  | e :: rest => max e.levels (levelsElems rest)

def levelsMembers : List (String × Source) → Nat
  | [] => 0
  | (_, v) :: rest => max v.levels (levelsMembers rest)

end

variable {e : Source} {es : List Source} {m : String × Source} {ms : List (String × Source)}
variable {n : Nat}

theorem levelsMembers_eq (ms : List (String × Source)) :
    levelsMembers ms = levelsElems (ms.map Prod.snd) := by
  induction ms with
  | nil => rfl
  | cons m rest ih => rw [levelsMembers, ih, List.map_cons, levelsElems]

theorem levels_le_of_mem (h : e ∈ es) : e.levels ≤ levelsElems es := by
  induction es with
  | nil => cases h
  | cons a rest ih =>
    rw [levelsElems]
    obtain rfl | h := List.mem_cons.mp h
    · exact Nat.le_max_left _ _
    · exact Nat.le_trans (ih h) (Nat.le_max_right _ _)

theorem levelsElems_le (h : ∀ e ∈ es, e.levels ≤ n) : levelsElems es ≤ n := by
  induction es with
  | nil => exact Nat.zero_le n
  | cons a rest ih =>
    obtain ⟨ha, hrest⟩ := List.forall_mem_cons.mp h
    rw [levelsElems]
    exact Nat.max_le.mpr ⟨ha, ih hrest⟩

theorem levels_le_of_mem_members (h : m ∈ ms) : m.2.levels ≤ levelsMembers ms := by
  rw [levelsMembers_eq]
  exact levels_le_of_mem (List.mem_map_of_mem h)

theorem levelsMembers_le (h : ∀ m ∈ ms, m.2.levels ≤ n) : levelsMembers ms ≤ n := by
  rw [levelsMembers_eq]
  exact levelsElems_le (List.forall_mem_map.mpr h)

/-! ### Depth -/

mutual

/-- The depth counts scalars too. -/
theorem levels_le_depth : (s : Source) → s.levels ≤ s.depth
  | .null | .bool _ | .num _ | .str _ | .beyond => Nat.zero_le _
  | .arr elems => Nat.succ_le_succ (levelsElems_le_depth elems)
  | .obj members => Nat.succ_le_succ (levelsMembers_le_depth members)

theorem levelsElems_le_depth : (elems : List Source) → levelsElems elems ≤ depthElems elems
  | [] => Nat.le_refl _
  | e :: rest => by
    have he := levels_le_depth e
    have hrest := levelsElems_le_depth rest
    rw [levelsElems, depthElems]
    omega

theorem levelsMembers_le_depth : (members : List (String × Source)) →
    levelsMembers members ≤ depthMembers members
  | [] => Nat.le_refl _
  | (_, v) :: rest => by
    have hv := levels_le_depth v
    have hrest := levelsMembers_le_depth rest
    rw [levelsMembers, depthMembers]
    omega

end

/-! ### Values -/

theorem ofJsons_eq (js : List Json) : ofJsons js = js.map ofJson := by
  induction js with
  | nil => rfl
  | cons j rest ih => rw [ofJsons, ih, List.map_cons]

theorem ofMembers_eq (ms : List (String × Json)) :
    ofMembers ms = ms.map fun m => (m.1, ofJson m.2) := by
  induction ms with
  | nil => rfl
  | cons m rest ih =>
    obtain ⟨k, v⟩ := m
    rw [ofMembers, ih, List.map_cons]

mutual

/-- What has a value is that value. -/
theorem ofJson_of_toJson? : (s : Source) → (j : Json) → s.toJson? = some j → ofJson j = s
  | .null, _, h | .bool _, _, h | .num _, _, h | .str _, _, h => by
    obtain rfl := Option.some.inj h
    rfl
  | .arr elems, j, h => by
    obtain ⟨js, hjs, rfl⟩ := Option.map_eq_some_iff.mp h
    rw [ofJson, ofJsons_of_toJsons? elems js hjs]
  | .obj members, j, h => by
    obtain ⟨ms, hms, rfl⟩ := Option.map_eq_some_iff.mp h
    rw [ofJson, ofMembers_of_toMembers? members ms hms]
  | .beyond, _, h => nomatch h

theorem ofJsons_of_toJsons? : (elems : List Source) → (js : List Json) →
    toJsons? elems = some js → ofJsons js = elems
  | [], _, h => by
    obtain rfl := Option.some.inj h
    rfl
  | e :: rest, js, h => by
    obtain ⟨j, hj, h⟩ := Option.bind_eq_some_iff.mp h
    obtain ⟨js', hjs, h⟩ := Option.bind_eq_some_iff.mp h
    obtain rfl := Option.some.inj h
    rw [ofJsons, ofJson_of_toJson? e j hj, ofJsons_of_toJsons? rest js' hjs]

theorem ofMembers_of_toMembers? : (members : List (String × Source)) →
    (ms : List (String × Json)) → toMembers? members = some ms → ofMembers ms = members
  | [], _, h => by
    obtain rfl := Option.some.inj h
    rfl
  | (k, v) :: rest, ms, h => by
    obtain ⟨j, hj, h⟩ := Option.bind_eq_some_iff.mp h
    obtain ⟨ms', hms, h⟩ := Option.bind_eq_some_iff.mp h
    obtain rfl := Option.some.inj h
    rw [ofMembers, ofJson_of_toJson? v j hj, ofMembers_of_toMembers? rest ms' hms]

end

/-! ### Rearranged values -/

/-- At every depth an array keeps its elements in their places, and an object moves its members or
loses some of them. -/
structure Rearranges (f : Json → Json) : Prop where
  scalar {j : Json} : (ofJson j).levels = 0 → f j = j
  arr (elems : List Json) : f (.arr elems) = .arr (elems.map f)
  obj (members : List (String × Json)) :
    ∃ ms, f (.obj members) = .obj ms ∧ ∀ m ∈ ms, ∃ n ∈ members, m.2 = f n.2

namespace Rearranges
variable {f : Json → Json}

mutual

/-- What is only rearranged is nested no deeper. -/
theorem levels_le (hf : Rearranges f) : (j : Json) → (ofJson (f j)).levels ≤ (ofJson j).levels
  | .null | .bool _ | .num _ | .str _ => by rw [hf.scalar rfl]
  | .arr elems => by
    rw [hf.arr, ofJson, ofJson, ofJsons_eq, List.map_map]
    refine Nat.succ_le_succ (levelsElems_le fun e he => ?_)
    obtain ⟨a, ha, rfl⟩ := List.mem_map.mp he
    exact levels_le_elems hf elems a ha
  | .obj members => by
    obtain ⟨ms, hms, hmem⟩ := hf.obj members
    rw [hms, ofJson, ofJson, ofMembers_eq]
    refine Nat.succ_le_succ (levelsMembers_le fun m hm => ?_)
    obtain ⟨l, hl, rfl⟩ := List.mem_map.mp hm
    obtain ⟨n, hn, hvalue⟩ := hmem l hl
    exact hvalue ▸ levels_le_members hf members n hn

theorem levels_le_elems (hf : Rearranges f) : (elems : List Json) → ∀ e ∈ elems,
    (ofJson (f e)).levels ≤ levelsElems (ofJsons elems)
  | [], _, he => nomatch he
  | a :: rest, e, he => by
    rw [ofJsons, levelsElems]
    obtain he | he := List.mem_cons.mp he
    · rw [he]
      exact Nat.le_trans (levels_le hf a) (Nat.le_max_left _ _)
    · exact Nat.le_trans (levels_le_elems hf rest e he) (Nat.le_max_right _ _)

theorem levels_le_members (hf : Rearranges f) : (members : List (String × Json)) →
    ∀ m ∈ members, (ofJson (f m.2)).levels ≤ levelsMembers (ofMembers members)
  | [], _, hm => nomatch hm
  | (k, v) :: rest, m, hm => by
    rw [ofMembers, levelsMembers]
    obtain rfl | hm := List.mem_cons.mp hm
    · exact Nat.le_trans (levels_le hf v) (Nat.le_max_left _ _)
    · exact Nat.le_trans (levels_le_members hf rest m hm) (Nat.le_max_right _ _)

end

end Rearranges

theorem rearranges_sorted : Rearranges sorted where
  scalar {j} h := by
    cases j with
    | arr elems => cases h
    | obj members => cases h
    | _ => rfl
  arr elems := by rw [sorted, sortedElems_eq]
  obj members := by
    refine ⟨sortedMembers members, rfl, fun m hm => ?_⟩
    obtain ⟨n, hn, rfl⟩ := List.mem_map.mp ((sortedMembers_perm members).mem_iff.mp hm)
    exact ⟨n, hn, rfl⟩

theorem rearranges_distinct : Rearranges distinct where
  scalar {j} h := by
    cases j with
    | arr elems => cases h
    | obj members => cases h
    | _ => rfl
  arr elems := by rw [distinct, distinctElems_eq]
  obj members := by
    refine ⟨_, rfl, fun m hm => ?_⟩
    have hm := OrderedMap.mem_of_mem_ofEntries hm
    rw [distinctValues_eq] at hm
    obtain ⟨n, hn, rfl⟩ := List.mem_map.mp hm
    exact ⟨n, hn, rfl⟩

end ApiContext.Json.Source
