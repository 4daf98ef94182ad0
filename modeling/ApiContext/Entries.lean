/-! Keyed values in the order in which their keys first came. Setting a key keeps its place. -/
namespace ApiContext
variable {α : Type}

abbrev Entries (α : Type) := List (String × α)

namespace Entries

def keys (m : Entries α) : List String := m.map Prod.fst

/-- Replaces the value of a key in place, or appends the key. -/
def set (key : String) (value : α) : Entries α → Entries α
  | [] => [(key, value)]
  | (k, v) :: rest => if k = key then (key, value) :: rest else (k, v) :: set key value rest

/-- Adds an item to the group of its key, or opens a group at the end. -/
def push (key : String) (item : α) : Entries (List α) → Entries (List α)
  | [] => [(key, [item])]
  | (k, items) :: rest =>
    if k = key then (k, items ++ [item]) :: rest else (k, items) :: push key item rest

/-- The only value of a key, if there is one; a key may not come twice. -/
def only? (key : String) (m : Entries α) : Option (Option α) :=
  match m.filter (·.1 == key) with
  | [] => some none
  | [(_, v)] => some (some v)
  | _ => none

theorem keys_set (key : String) (value : α) (m : Entries α) :
    keys (set key value m) = if key ∈ keys m then keys m else keys m ++ [key] := by
  induction m with
  | nil => simp [keys, set]
  | cons e rest ih =>
    obtain ⟨k, v⟩ := e
    by_cases h : k = key
    · simp [keys, set, h]
    · have h' : key ≠ k := fun e => h e.symm
      simp only [keys, set, h, if_false, List.map_cons, List.mem_cons, h', false_or] at ih ⊢
      by_cases hm : key ∈ rest.map Prod.fst <;> simp [ih, hm]

theorem nodup_keys_set {key : String} {value : α} {m : Entries α} (h : (keys m).Nodup) :
    (keys (set key value m)).Nodup := by
  rw [keys_set]
  split
  · exact h
  · next hk =>
    refine List.nodup_append.mpr ⟨h, by simp, fun a ha b hb e => hk ?_⟩
    rw [List.mem_singleton] at hb
    exact hb ▸ e ▸ ha

theorem lookup_set (k key : String) (value : α) (m : Entries α) :
    (set key value m).lookup k = if k = key then some value else m.lookup k := by
  induction m with
  | nil =>
    by_cases h : k = key
    · simp [set, h]
    · simp [set, List.lookup_cons, h, beq_eq_false_iff_ne.mpr h]
  | cons e rest ih =>
    obtain ⟨l, v⟩ := e
    by_cases hl : l = key
    · by_cases h : k = key
      · simp [set, hl, h]
      · simp [set, List.lookup_cons, hl, h, beq_eq_false_iff_ne.mpr h]
    · by_cases h : k = l
      · simp [set, h, hl]
      · simp [set, List.lookup_cons, hl, beq_eq_false_iff_ne.mpr h, ih]

theorem keys_push (key : String) (item : α) (m : Entries (List α)) :
    keys (push key item m) = if key ∈ keys m then keys m else keys m ++ [key] := by
  induction m with
  | nil => simp [keys, push]
  | cons e rest ih =>
    obtain ⟨k, items⟩ := e
    by_cases h : k = key
    · simp [keys, push, h]
    · have h' : key ≠ k := fun e => h e.symm
      simp only [keys, push, h, if_false, List.map_cons, List.mem_cons, h', false_or] at ih ⊢
      by_cases hm : key ∈ rest.map Prod.fst <;> simp [ih, hm]

theorem lookup_map_values {β : Type} (f : α → β) (m : Entries α) (key : String) :
    (m.map fun e => (e.1, f e.2)).lookup key = (m.lookup key).map f := by
  induction m with
  | nil => rfl
  | cons e rest ih =>
    rw [List.map_cons, List.lookup_cons, List.lookup_cons, ih]
    cases key == e.1 <;> rfl

/-- Of values that become something else or nothing, each is found by itself, as long as no key
stands twice. -/
theorem lookup_filterMap {β : Type} (f : α → Option β) {m : Entries α} (hn : (keys m).Nodup)
    (key : String) :
    (m.filterMap fun e => (f e.2).map (e.1, ·)).lookup key = (m.lookup key).bind f := by
  induction m with
  | nil => rfl
  | cons e rest ih =>
    obtain ⟨k, v⟩ := e
    obtain ⟨hk, hrest⟩ := List.nodup_cons.mp hn
    have ih := ih hrest
    rw [List.filterMap_cons, List.lookup_cons]
    by_cases hkey : key = k
    · subst hkey
      have hnone : rest.lookup key = none := by
        refine List.lookup_eq_none_iff.mpr fun e he => ?_
        have hne : key ≠ e.1 := fun h => hk (List.mem_map.mpr ⟨e, he, h.symm⟩)
        simpa using hne
      cases hv : f v with
      | none => simp [ih, hnone, hv]
      | some b => simp [hv]
    · have hbeq : (key == k) = false := beq_eq_false_iff_ne.mpr hkey
      cases hv : f v with
      | none => simp [ih, hbeq]
      | some b => simp [List.lookup_cons, ih, hbeq]

theorem keys_filterMap_sublist {β : Type} (f : α → Option β) (m : Entries α) :
    (keys (m.filterMap fun e => (f e.2).map (e.1, ·))).Sublist (keys m) := by
  induction m with
  | nil => exact .slnil
  | cons e rest ih =>
    rw [List.filterMap_cons]
    cases f e.2 with
    | none => exact ih.cons e.1
    | some b => exact ih.cons_cons e.1

end Entries

/-- Entries with each key once. -/
structure OrderedMap (α : Type) where
  entries : Entries α
  nodup : (Entries.keys entries).Nodup

namespace OrderedMap

def empty : OrderedMap α := ⟨[], .nil⟩

def insert (m : OrderedMap α) (key : String) (value : α) : OrderedMap α :=
  ⟨Entries.set key value m.entries, Entries.nodup_keys_set m.nodup⟩

def ofEntries (es : Entries α) : OrderedMap α := es.foldl (fun m e => m.insert e.1 e.2) empty

def keys (m : OrderedMap α) : List String := Entries.keys m.entries

def find? (m : OrderedMap α) (key : String) : Option (String × α) :=
  m.entries.find? (·.1 == key)

end OrderedMap
end ApiContext
