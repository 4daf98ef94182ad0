import Mathlib.Data.List.Forall2
import ApiContext.Proofs.Levels
import ApiContext.Proofs.Traversal

/-! Readers and writers that belong together. What a reader finds in JSON it finds again in what
that is written as, in whatever form it stood before. -/
namespace ApiContext.Json
open Source
variable {α β : Type}

/-- What was read is read again from what it is written as. That is nested no deeper than what it
was read from, and null only if that was. -/
structure Restored (read : Source → Option α) (write : α → Json) (s : Source) (a : α) : Prop where
  again : read (ofJson (write a)) = some a
  levels : (ofJson (write a)).levels ≤ s.levels
  null : write a = .null → s = .null

def RoundTrip (read : Source → Option α) (write : α → Json) : Prop :=
  ∀ s a, read s = some a → Restored read write s a

/-! ### Scalars -/

theorem roundTrip_string : RoundTrip string? .str := by
  intro s a h
  cases s with
  | str t =>
    obtain rfl := Option.some.inj h
    exact ⟨rfl, Nat.le_refl _, nofun⟩
  | _ => cases h

theorem roundTrip_bool : RoundTrip bool? .bool := by
  intro s a h
  cases s with
  | bool b =>
    obtain rfl := Option.some.inj h
    exact ⟨rfl, Nat.le_refl _, nofun⟩
  | _ => cases h

theorem roundTrip_uint16 : RoundTrip uint16? ofUInt16 := by
  intro s a _
  refine ⟨?_, Nat.zero_le _, nofun⟩
  have hrange : (0 : Int) ≤ a.toNat ∧ (a.toNat : Int) < 0x10000 := by
    have h := a.toNat_lt
    omega
  rw [ofUInt16, ofJson, uint16?, if_pos hrange, Int.toNat_natCast, UInt16.ofNat_toNat]

theorem mem_of_choice? {all : List α} {name : α → String} {s : Source} {a : α}
    (h : choice? all name s = some a) : a ∈ all := by
  unfold choice? at h
  split at h
  · exact List.mem_of_find?_eq_some h
  · exact List.mem_of_find?_eq_some h
  · cases h

/-- An alternative is written as its name, which has to tell it from the others. -/
theorem roundTrip_choice {all : List α} {name : α → String}
    (hname : ∀ a ∈ all, all.find? (name · == name a) = some a) :
    RoundTrip (choice? all name) fun a => .str (name a) :=
  fun _ _ h => ⟨hname _ (mem_of_choice? h), Nat.zero_le _, nofun⟩

theorem roundTrip_free : RoundTrip free? id := by
  intro s a h
  obtain ⟨j, hj, rfl⟩ := Option.map_eq_some_iff.mp h
  obtain rfl := ofJson_of_toJson? s j hj
  have hlevels := (rearranges_sorted.levels_le j.distinct).trans (rearranges_distinct.levels_le j)
  refine ⟨?_, hlevels, fun hnull => ?_⟩
  · rw [free?, id, toJson?_ofJson, Option.map_some, distinct_sorted_distinct, sorted_sorted]
  · cases j with
    | null => rfl
    | _ => cases hnull

/-! ### Lists and maps -/

theorem roundTrip_list {read : Source → Option α} {write : α → Json} (ht : RoundTrip read write) :
    RoundTrip (list? read) fun l => .arr (l.map write) := by
  intro s l h
  cases s with
  | arr elems =>
    have hall := mapM_eq_some_iff.mp h
    have hread (a : α) (ha : a ∈ l) : ∃ e ∈ elems, Restored read write e a := by
      obtain ⟨e, he, hea⟩ := exists_of_mem_right hall ha
      exact ⟨e, he, ht e a hea⟩
    refine ⟨?_, ?_, nofun⟩
    · have hagain :
          List.Forall₂ (fun e a => read e = some a) (l.map fun a => ofJson (write a)) l := by
        rw [List.forall₂_map_left_iff, List.forall₂_same]
        intro a ha
        obtain ⟨e, _, hr⟩ := hread a ha
        exact hr.again
      rw [ofJson, ofJsons_eq, List.map_map]
      exact mapM_eq_some_iff.mpr hagain
    · rw [ofJson, ofJsons_eq, List.map_map]
      refine Nat.succ_le_succ (levelsElems_le fun e he => ?_)
      obtain ⟨a, ha, rfl⟩ := List.mem_map.mp he
      obtain ⟨e, he, hr⟩ := hread a ha
      exact hr.levels.trans (levels_le_of_mem he)
  | _ => cases h

theorem roundTrip_map {read : Source → Option α} {write : α → Json} (ht : RoundTrip read write) :
    RoundTrip (map? read) fun m => .obj (m.entries.map fun (k, v) => (k, write v)) := by
  intro s m h
  cases s with
  | obj members =>
    obtain ⟨es, hes, rfl⟩ := Option.map_eq_some_iff.mp h
    have hall := mapM_eq_some_iff.mp hes
    have hread (e : String × α) (he : e ∈ (OrderedMap.ofEntries es).entries) :
        ∃ f ∈ members, Restored read write f.2 e.2 := by
      obtain ⟨f, hf, hfe⟩ := exists_of_mem_right hall (OrderedMap.mem_of_mem_ofEntries he)
      obtain ⟨a, ha, rfl⟩ := Option.map_eq_some_iff.mp hfe
      exact ⟨f, hf, ht _ _ ha⟩
    generalize OrderedMap.ofEntries es = m at hread
    refine ⟨?_, ?_, nofun⟩
    · have hagain : List.Forall₂ (fun f e => (read f.2).map (f.1, ·) = some e)
          (m.entries.map fun e => (e.1, ofJson (write e.2))) m.entries := by
        rw [List.forall₂_map_left_iff, List.forall₂_same]
        intro e he
        obtain ⟨f, _, hr⟩ := hread e he
        rw [hr.again]
        rfl
      rw [ofJson, ofMembers_eq, List.map_map, map?]
      exact (congrArg _ (mapM_eq_some_iff.mpr hagain)).trans
        (congrArg some (OrderedMap.ofEntries_entries m))
    · rw [ofJson, ofMembers_eq, List.map_map]
      refine Nat.succ_le_succ (levelsMembers_le fun f hf => ?_)
      obtain ⟨e, he, rfl⟩ := List.mem_map.mp hf
      obtain ⟨f, hf, hr⟩ := hread e he
      exact hr.levels.trans (levels_le_of_mem_members hf)
  | _ => cases h

/-! ### Records -/

namespace Record

def levels : Record → Nat
  | .named members => levelsMembers members
  | .listed elems => levelsElems elems

theorem levels_of_field? {r : Record} {position : Nat} {name : String} {s : Source}
    (h : r.field? position name = some (some s)) : s.levels ≤ r.levels := by
  cases r with
  | named members => exact levels_le_of_mem_members (Entries.mem_of_only? h)
  | listed elems => exact levels_le_of_mem (List.mem_of_getElem? (Option.some.inj h))

theorem levels_of_ofJson? {size : Nat} {s : Source} {r : Record} (h : ofJson? size s = some r) :
    s.levels = r.levels + 1 := by
  cases s with
  | obj members =>
    obtain rfl := Option.some.inj h
    rfl
  | arr elems =>
    rw [ofJson?] at h
    split at h
    · obtain rfl := Option.some.inj h
      rfl
    · cases h
  | _ => cases h

variable {r : Record} {position : Nat} {name : String} {read : Source → Option α}
variable {ms : List (String × Source)}

theorem optional_of_missing (h : Entries.only? name ms = some none) :
    (named ms).optional position name read = some none := by
  have hfield : (named ms).field? position name = some none := h
  unfold optional
  rw [hfield]

theorem optional_of_null (h : r.field? position name = some (some .null)) :
    r.optional position name read = some none := by
  unfold optional
  rw [h]

theorem optional_of_some {s : Source} (h : r.field? position name = some (some s))
    (hne : s ≠ .null) : r.optional position name read = (read s).map some := by
  unfold optional
  rw [h]
  cases s with
  | null => exact absurd rfl hne
  | _ => cases r <;> rfl

/-- Where there is no value, no reader finds one. -/
theorem of_optional {a : Option α} (h : r.optional position name read = some a) :
    (a = none ∧ ∀ read' : Source → Option α, r.optional position name read' = some none) ∨
      ∃ s b, r.field? position name = some (some s) ∧ s ≠ .null ∧ read s = some b ∧
        a = some b := by
  unfold optional at h
  split at h
  · cases h
  · next hs => exact .inl ⟨(Option.some.inj h).symm, fun _ => optional_of_missing hs⟩
  · cases h
  · next hs => exact .inl ⟨(Option.some.inj h).symm, fun _ => optional_of_null hs⟩
  · next s hne hs =>
    obtain ⟨b, hb, rfl⟩ := Option.map_eq_some_iff.mp h
    exact .inr ⟨s, b, hs, hne, hb, rfl⟩

theorem of_defaulted {default a : α} (h : r.defaulted position name default read = some a) :
    r.field? position name = some none ∧ a = default ∨
      ∃ s, r.field? position name = some (some s) ∧ read s = some a := by
  unfold defaulted at h
  split at h
  · cases h
  · next hs => exact .inl ⟨hs, (Option.some.inj h).symm⟩
  · next s hs => exact .inr ⟨s, hs, h⟩

end Record

/-- What was read from a record is read again from members that hold the fields under their names.
The fields are nested no deeper than the record. -/
structure Kept (read : Record → Option α) (r : Record) (fields : List (String × Option Json))
    (a : α) : Prop where
  again {ms : List (String × Source)} :
    (∀ e ∈ fields, Entries.only? e.1 ms = some (e.2.map ofJson)) → read (.named ms) = some a
  levels : ∀ e ∈ fields, ∀ j ∈ e.2, (ofJson j).levels ≤ r.levels

namespace Kept
variable {r : Record} {name : String} {position : Nat} {o : Option Json}

theorem pure (r : Record) (a : α) : Kept (fun _ => Pure.pure a) r [] a := ⟨fun _ => rfl, nofun⟩

theorem bind {f : Record → Option β} {g : β → Record → Option α} {b : β} {a : α}
    {fields : List (String × Option Json)} (hf : Kept f r [(name, o)] b)
    (hg : Kept (g b) r fields a) :
    Kept (fun r => f r >>= fun b => g b r) r ((name, o) :: fields) a := by
  constructor
  · intro ms hms
    obtain ⟨hfirst, hrest⟩ := List.forall_mem_cons.mp hms
    have hb := hf.again (List.forall_mem_singleton.mpr hfirst)
    have ha := hg.again hrest
    rw [hb]
    exact ha
  · exact List.forall_mem_cons.mpr ⟨List.forall_mem_singleton.mp hf.levels, hg.levels⟩

/-- One field that is read from its own JSON, and is missing where it is not written. -/
theorem of_field {read : Record → Option α} {a : α}
    (again : ∀ ms : List (String × Source), Entries.only? name ms = some (o.map ofJson) →
      read (.named ms) = some a)
    (levels : ∀ j ∈ o, (ofJson j).levels ≤ r.levels) : Kept read r [(name, o)] a :=
  ⟨fun h => again _ (h _ (List.mem_singleton_self _)), List.forall_mem_singleton.mpr levels⟩

variable {read : Source → Option α} {write : α → Json}

/-- One field that was read from JSON, and is read from it as written. -/
theorem of_restored {f : Record → Option β} {s : Source} {a : α} {b : β}
    (hs : r.field? position name = some (some s)) (hr : Restored read write s a)
    (again : ∀ ms : List (String × Source),
      Entries.only? name ms = some (some (ofJson (write a))) →
      f (.named ms) = some b) : Kept f r [(name, some (write a))] b := by
  refine of_field again fun j hj => ?_
  obtain rfl := Option.some.inj hj
  exact hr.levels.trans (Record.levels_of_field? hs)

theorem required (ht : RoundTrip read write) {a : α} (h : r.required position name read = some a) :
    Kept (·.required position name read) r [(name, some (write a))] a := by
  obtain ⟨s, hs, ha⟩ := Option.bind_eq_some_iff.mp h
  have hr := ht s a ha
  refine of_restored (Option.join_eq_some_iff.mp hs) hr fun ms hms => ?_
  exact Option.bind_eq_some_iff.mpr ⟨_, Option.join_eq_some_iff.mpr hms, hr.again⟩

theorem optional (ht : RoundTrip read write) {a : Option α}
    (h : r.optional position name read = some a) :
    Kept (·.optional position name read) r [(name, a.map write)] a := by
  obtain ⟨rfl, _⟩ | ⟨s, b, hs, hne, hb, rfl⟩ := Record.of_optional h
  · refine of_field (fun ms hms => ?_) nofun
    exact Record.optional_of_missing hms
  · have hr := ht s b hb
    have hwritten : ofJson (write b) ≠ .null := by
      intro hnull
      refine hne (hr.null ?_)
      cases hw : write b with
      | null => rfl
      | _ => simp [hw, ofJson] at hnull
    refine of_restored hs hr fun ms hms => ?_
    have hfield : (Record.named ms).field? position name = some (some (ofJson (write b))) := hms
    exact (Record.optional_of_some hfield hwritten).trans (congrArg (Option.map some) hr.again)

theorem free {a : Option Json} (h : r.optional position name free? = some a) :
    Kept (·.optional position name free?) r [(name, a)] a := by
  have hkept := optional roundTrip_free h
  rwa [Option.map_id] at hkept

/-- A default that is written like any other value. -/
theorem defaulted (ht : RoundTrip read write) {default a : α}
    (hdefault : read (ofJson (write default)) = some default)
    (hlevels : (ofJson (write default)).levels = 0)
    (h : r.defaulted position name default read = some a) :
    Kept (·.defaulted position name default read) r [(name, some (write a))] a := by
  have hagain (ms : List (String × Source))
      (hms : Entries.only? name ms = some (some (ofJson (write a))))
      (ha : read (ofJson (write a)) = some a) :
      (Record.named ms).defaulted position name default read = some a := by
    rw [Record.defaulted, Record.field?, hms]
    exact ha
  obtain ⟨_, rfl⟩ | ⟨s, hs, ha⟩ := Record.of_defaulted h
  · refine of_field (fun ms hms => hagain ms hms hdefault) fun j hj => ?_
    obtain rfl := Option.some.inj hj
    exact hlevels ▸ Nat.zero_le _
  · have hr := ht s a ha
    exact of_restored hs hr fun ms hms => hagain ms hms hr.again

/-- A default that is left out, as nothing else is. -/
theorem omitted (ht : RoundTrip read write) {default a : α} (field : α → Option Json)
    (hdefault : field default = none)
    (hfield : ∀ a, a = default ∨ field a = some (write a))
    (h : r.defaulted position name default read = some a) :
    Kept (·.defaulted position name default read) r [(name, field a)] a := by
  obtain rfl | hwritten := hfield a
  · rw [hdefault]
    refine of_field (fun ms hms => ?_) nofun
    rw [Record.defaulted, Record.field?, hms]
    rfl
  · rw [hwritten]
    obtain ⟨_, rfl⟩ | ⟨s, hs, ha⟩ := Record.of_defaulted h
    · rw [hdefault] at hwritten
      cases hwritten
    · have hr := ht s a ha
      refine of_restored hs hr fun ms hms => ?_
      rw [Record.defaulted, Record.field?, hms]
      exact hr.again

theorem list (ht : RoundTrip read write) {l : List α}
    (h : r.defaulted position name [] (list? read) = some l) :
    Kept (·.defaulted position name [] (list? read)) r [(name, unlessEmpty (l.map write))] l := by
  refine omitted (roundTrip_list ht) (fun l => unlessEmpty (l.map write)) rfl (fun l => ?_) h
  cases l with
  | nil => exact .inl rfl
  | cons a rest => exact .inr rfl

theorem map (ht : RoundTrip read write) {m : OrderedMap α}
    (h : r.defaulted position name .empty (map? read) = some m) :
    Kept (·.defaulted position name .empty (map? read)) r
      [(name, unlessEmptyMap (m.entries.map fun (k, v) => (k, write v)))] m := by
  refine omitted (roundTrip_map ht)
    (fun m => unlessEmptyMap (m.entries.map fun (k, v) => (k, write v))) rfl (fun m => ?_) h
  cases hm : m.entries with
  | nil => exact .inl (OrderedMap.ext hm)
  | cons e rest => exact .inr rfl

end Kept

/-! ### Written records -/

section written
variable {fields : List (String × Option Json)} {r : Record} {a : α}

/-- The members of a written record. -/
def written (fields : List (String × Option Json)) : List (String × Source) :=
  ofMembers (fields.filterMap fun e => e.2.map (e.1, ·))

theorem lookup_written (hn : (Entries.keys fields).Nodup) (name : String) :
    (written fields).lookup name = ((fields.lookup name).bind id).map ofJson := by
  rw [written, ofMembers_eq, Entries.lookup_map_values]
  exact congrArg _ (Entries.lookup_filterMap id hn name)

theorem keys_written_sublist (fields : List (String × Option Json)) :
    (Entries.keys (written fields)).Sublist (Entries.keys fields) := by
  have hkeys : Entries.keys (written fields) =
      Entries.keys (fields.filterMap fun e => e.2.map (e.1, ·)) := by
    rw [written, ofMembers_eq, Entries.keys, List.map_map]
    rfl
  exact hkeys ▸ Entries.keys_filterMap_sublist id fields

/-- No name stands twice in a written record. -/
theorem only?_written (hn : (Entries.keys fields).Nodup) (name : String) :
    Entries.only? name (written fields) = some (((fields.lookup name).bind id).map ofJson) := by
  rw [Entries.only?_of_nodup ((keys_written_sublist fields).nodup hn), lookup_written hn]

theorem only?_written_of_mem (hn : (Entries.keys fields).Nodup) :
    ∀ e ∈ fields, Entries.only? e.1 (written fields) = some (e.2.map ofJson) := by
  intro e he
  rw [only?_written hn, (Entries.lookup_eq_some_iff hn).mpr he]
  rfl

theorem levels_written (h : ∀ e ∈ fields, ∀ j ∈ e.2, (ofJson j).levels ≤ r.levels) :
    levelsMembers (written fields) ≤ r.levels := by
  rw [written, ofMembers_eq]
  refine levelsMembers_le fun m hm => ?_
  obtain ⟨f, hf, rfl⟩ := List.mem_map.mp hm
  obtain ⟨e, he, hmap⟩ := List.mem_filterMap.mp hf
  obtain ⟨j, hj, rfl⟩ := Option.map_eq_some_iff.mp hmap
  exact h e he j hj

/-- A record that is read field by field is restored when its fields are kept. -/
theorem Kept.restored {read : Record → Option α} {write : α → Json} {size : Nat} {s : Source}
    (hr : Record.ofJson? size s = some r) (hk : Kept read r fields a)
    (hn : (Entries.keys fields).Nodup) (hw : write a = .record fields) :
    Restored (fun s => Record.ofJson? size s >>= read) write s a := by
  constructor
  · rw [hw]
    exact hk.again (only?_written_of_mem hn)
  · rw [hw, Record.levels_of_ofJson? hr]
    exact Nat.succ_le_succ (levels_written hk.levels)
  · rw [hw]
    exact nofun

end written

end ApiContext.Json
