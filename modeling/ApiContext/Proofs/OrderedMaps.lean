import Mathlib.Data.List.Nodup
import ApiContext.Entries

/-! Ordered maps and their entries. Where each key stands once, a lookup is membership, and entries
make a map that holds them as they are. -/
namespace ApiContext
variable {α : Type}

namespace Entries
variable {m m' : Entries α} {key : String} {value : α} {o : Option α}

theorem mem_of_lookup (h : m.lookup key = some value) : (key, value) ∈ m := by
  induction m with
  | nil => cases h
  | cons e rest ih =>
    obtain ⟨k, v⟩ := e
    rw [List.lookup_cons] at h
    by_cases hk : key = k
    · subst hk
      simp only [beq_self_eq_true] at h
      obtain rfl := Option.some.inj h
      exact List.mem_cons_self ..
    · simp only [beq_eq_false_iff_ne.mpr hk] at h
      exact List.mem_cons_of_mem _ (ih h)

/-- Where each key stands once, a lookup finds what stands under the key. -/
theorem lookup_eq_some_iff (hn : (keys m).Nodup) :
    m.lookup key = some value ↔ (key, value) ∈ m := by
  induction m with
  | nil => simp
  | cons e rest ih =>
    obtain ⟨k, v⟩ := e
    obtain ⟨hk, hrest⟩ := List.nodup_cons.mp hn
    rw [List.lookup_cons]
    by_cases h : key = k
    · subst h
      have hnot : (key, value) ∉ rest := fun hm => hk (List.mem_map.mpr ⟨_, hm, rfl⟩)
      simp [hnot, eq_comm]
    · simp [beq_eq_false_iff_ne.mpr h, h, ih hrest]

theorem lookup_of_perm (h : m.Perm m') (hn : (keys m).Nodup) (key : String) :
    m.lookup key = m'.lookup key := by
  have hn' : (keys m').Nodup := (h.map Prod.fst).nodup_iff.mp hn
  refine Option.ext fun value => ?_
  rw [lookup_eq_some_iff hn, lookup_eq_some_iff hn', h.mem_iff]

/-- Such entries are made up of their keys and what a lookup finds under each. -/
theorem filterMap_lookup (hn : (keys m).Nodup) :
    (keys m).filterMap (fun k => (m.lookup k).map (k, ·)) = m := by
  have hentry : ∀ e ∈ m, (m.lookup e.1).map (e.1, ·) = some e := by
    intro e he
    rw [(lookup_eq_some_iff hn).mpr he]
    rfl
  rw [keys, List.filterMap_map]
  exact (List.filterMap_congr hentry).trans List.filterMap_some

theorem eq_of_lookup (hn : (keys m).Nodup) (hkeys : keys m = keys m')
    (hlookup : ∀ key, m.lookup key = m'.lookup key) : m = m' := by
  have hn' : (keys m').Nodup := hkeys ▸ hn
  calc
    m = (keys m).filterMap fun k => (m.lookup k).map (k, ·) := (filterMap_lookup hn).symm
    _ = (keys m').filterMap fun k => (m'.lookup k).map (k, ·) := by simp only [hkeys, hlookup]
    _ = m' := filterMap_lookup hn'

theorem lookup_eq_head?_filter (m : Entries α) (key : String) :
    m.lookup key = (m.filter (·.1 == key)).head?.map Prod.snd := by
  induction m with
  | nil => rfl
  | cons e rest ih =>
    obtain ⟨k, v⟩ := e
    by_cases h : k = key
    · subst h
      simp
    · have h' : ¬key = k := fun e => h e.symm
      simp [List.lookup_cons, beq_eq_false_iff_ne.mpr h, beq_eq_false_iff_ne.mpr h', ih]

theorem count_keys (m : Entries α) (key : String) :
    (keys m).count key = (m.filter (·.1 == key)).length := by
  rw [keys, List.count, List.countP_map, List.countP_eq_length_filter]
  rfl

/-- A key has an only value where it does not stand twice, and then that is what a lookup finds. -/
theorem only?_eq_some_iff : only? key m = some o ↔ (keys m).count key ≤ 1 ∧ m.lookup key = o := by
  rw [count_keys, lookup_eq_head?_filter, only?]
  cases m.filter (·.1 == key) with
  | nil => simp
  | cons e rest => cases rest <;> simp

example : only? "a" [("a", 1), ("b", 2), ("a", 3)] = none := rfl

theorem mem_of_only? (h : only? key m = some (some value)) : (key, value) ∈ m :=
  mem_of_lookup (only?_eq_some_iff.mp h).2

theorem only?_of_nodup (hn : (keys m).Nodup) : only? key m = some (m.lookup key) :=
  only?_eq_some_iff.mpr ⟨List.nodup_iff_count_le_one.mp hn key, rfl⟩

theorem set_of_not_mem {key : String} {m : Entries α} (h : key ∉ keys m) (value : α) :
    set key value m = m ++ [(key, value)] := by
  induction m with
  | nil => rfl
  | cons e rest ih =>
    obtain ⟨k, v⟩ := e
    have hk : k ≠ key := fun e => h (List.mem_cons.mpr (.inl e.symm))
    have hrest : key ∉ keys rest := fun hm => h (List.mem_cons_of_mem k hm)
    rw [set, if_neg hk, ih hrest, List.cons_append]

theorem mem_set {key : String} {value : α} {m : Entries α} {e : String × α}
    (h : e ∈ set key value m) : e = (key, value) ∨ e ∈ m := by
  induction m with
  | nil => exact .inl (List.mem_singleton.mp h)
  | cons f rest ih =>
    obtain ⟨k, v⟩ := f
    rw [set] at h
    split at h
    · exact (List.mem_cons.mp h).imp_right (List.mem_cons_of_mem _)
    · obtain rfl | h := List.mem_cons.mp h
      · exact .inr (List.mem_cons_self ..)
      · exact (ih h).imp_right (List.mem_cons_of_mem _)

end Entries

namespace OrderedMap

theorem find?_eq_some_iff (m : OrderedMap α) {key : String}
    {e : String × α} : m.find? key = some e ↔ e ∈ m.entries ∧ e.1 = key := by
  constructor
  · intro h
    exact ⟨List.mem_of_find?_eq_some h, by simpa using List.find?_some h⟩
  · intro h
    obtain ⟨hmem, rfl⟩ := h
    cases hf : m.find? e.1 with
    | none => simpa using List.find?_eq_none.mp hf e hmem
    | some f =>
      have hf' := List.find?_some hf
      exact congrArg some (List.inj_on_of_nodup_map m.nodup (List.mem_of_find?_eq_some hf) hmem
        (by simpa using hf'))

theorem ext {m m' : OrderedMap α} (h : m.entries = m'.entries) : m = m' := by
  cases m
  cases h
  rfl

theorem entries_foldl (es : Entries α) (m : OrderedMap α)
    (hn : (Entries.keys (m.entries ++ es)).Nodup) :
    (es.foldl (fun m e => m.insert e.1 e.2) m).entries = m.entries ++ es := by
  induction es generalizing m with
  | nil => rw [List.foldl_nil, List.append_nil]
  | cons e rest ih =>
    have hnew : e.1 ∉ Entries.keys m.entries := by
      rw [Entries.keys, List.map_append, List.nodup_append] at hn
      exact fun hk => hn.2.2 _ hk _ (by simp) rfl
    have hset : (m.insert e.1 e.2).entries = m.entries ++ [e] := Entries.set_of_not_mem hnew e.2
    rw [List.foldl_cons, ih _ (by rwa [hset, List.append_assoc]), hset, List.append_assoc]
    rfl

/-- A map is made from its own entries. -/
theorem ofEntries_entries (m : OrderedMap α) : ofEntries m.entries = m :=
  ext (entries_foldl m.entries empty m.nodup)

theorem mem_of_mem_foldl {es : Entries α} {m : OrderedMap α} {e : String × α}
    (h : e ∈ (es.foldl (fun m e => m.insert e.1 e.2) m).entries) : e ∈ m.entries ∨ e ∈ es := by
  induction es generalizing m with
  | nil => exact .inl h
  | cons f rest ih =>
    cases ih h with
    | inl h =>
      obtain rfl | h := Entries.mem_set h
      · exact .inr (List.mem_cons_self ..)
      · exact .inl h
    | inr h => exact .inr (List.mem_cons_of_mem f h)

/-- A map made from entries holds no others. -/
theorem mem_of_mem_ofEntries {es : Entries α} {e : String × α} (h : e ∈ (ofEntries es).entries) :
    e ∈ es :=
  (mem_of_mem_foldl h).resolve_left List.not_mem_nil

end OrderedMap
end ApiContext
