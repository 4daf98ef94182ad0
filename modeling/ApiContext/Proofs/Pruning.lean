import Mathlib.Data.List.Forall2
import ApiContext.Proofs.Agreement
import ApiContext.Proofs.Drafts
import ApiContext.Proofs.OrderedMaps

/-! Pruning takes away what is absent and nothing else. All that stays keeps its order, so the same
keys lead to the same before and after, and a tree that is pruned already is left as it is. -/
namespace ApiContext.Draft
variable {d : Draft} {entries : Entries Draft} {key : String}

/-- What stands under one key after the other, absent from the first that leads nowhere. -/
def descend (d : Draft) (keys : List String) : Draft := keys.foldl (fun d key => d.get key) d

theorem isAbsent_eq (d : Draft) : d.isAbsent = d.prune.isNone := by
  cases d <;> rfl

theorem prune_eq_none_iff : d.prune = none ↔ d = .absent := by
  cases d <;> simp [prune]

/-! ### Trees that are pruned already -/

mutual

theorem prune_ofContext : (c : Context) → (ofContext c).prune = some c
  | .boolean _ | .integer _ | .float _ | .text _ => rfl
  | .sequence elems => by rw [ofContext, prune, pruneElems_ofContexts elems]
  | .mapping entries => by rw [ofContext, prune, pruneEntries_ofEntries entries]

theorem pruneElems_ofContexts : (elems : List Context) → pruneElems (ofContexts elems) = elems
  | [] => rfl
  | e :: rest => by rw [ofContexts, pruneElems, prune_ofContext e, pruneElems_ofContexts rest]

theorem pruneEntries_ofEntries : (entries : List (String × Context)) →
    pruneEntries (ofEntries entries) = entries
  | [] => rfl
  | (k, v) :: rest => by
    rw [ofEntries, pruneEntries, prune_ofContext v, pruneEntries_ofEntries rest]

end

/-! ### What stays -/

/-- An element that is not absent stays, pruned by itself. -/
theorem forall₂_pruneElems (elems : List Draft) :
    List.Forall₂ (fun d c => d.prune = some c) (elems.filter (!·.isAbsent)) (pruneElems elems) := by
  induction elems with
  | nil => exact .nil
  | cons e rest ih =>
    rw [pruneElems, List.filter_cons, isAbsent_eq]
    cases he : e.prune with
    | none => simpa using ih
    | some c => simpa using ⟨he, ih⟩

/-- An entry whose value is not absent stays under its key. -/
theorem forall₂_pruneEntries (entries : Entries Draft) :
    List.Forall₂ (fun e f => e.1 = f.1 ∧ e.2.prune = some f.2)
      (entries.filter (!·.2.isAbsent)) (pruneEntries entries) := by
  induction entries with
  | nil => exact .nil
  | cons e rest ih =>
    obtain ⟨k, v⟩ := e
    rw [pruneEntries, List.filter_cons, isAbsent_eq]
    cases hv : v.prune with
    | none => simpa using ih
    | some c => simpa using ⟨hv, ih⟩

theorem keys_pruneEntries (entries : Entries Draft) :
    Entries.keys (pruneEntries entries) = Entries.keys (entries.filter (!·.2.isAbsent)) := by
  have h := (forall₂_pruneEntries entries).imp fun _ _ h => h.1.symm
  have hkeys := List.forall₂_map_left_iff.mpr (List.forall₂_map_right_iff.mpr h.flip)
  exact List.forall₂_eq_eq_eq ▸ hkeys

theorem keys_pruneEntries_sublist (entries : Entries Draft) :
    (Entries.keys (pruneEntries entries)).Sublist (Entries.keys entries) := by
  rw [pruneEntries_eq]
  exact Entries.keys_filterMap_sublist prune entries

/-- Where no key stands twice, a lookup tells which keys stay. -/
theorem keys_pruneEntries_of_nodup (hn : (Entries.keys entries).Nodup) :
    Entries.keys (pruneEntries entries) =
      (Entries.keys entries).filter fun k => (entries.lookup k).any (!·.isAbsent) := by
  have hpresent : ∀ e ∈ entries,
      (!e.2.isAbsent) = (entries.lookup e.1).any (!·.isAbsent) := by
    intro e he
    rw [(Entries.lookup_eq_some_iff hn).mpr he, Option.any_some]
  rw [keys_pruneEntries, Entries.keys, List.filter_congr hpresent, Entries.keys, List.filter_map]
  rfl

/-! ### Following keys -/

theorem wellFormedEntries_iff :
    WellFormedEntries entries ↔ ∀ e ∈ entries, e.2.WellFormed := by
  induction entries with
  | nil => simp [WellFormedEntries]
  | cons e rest ih => rw [WellFormedEntries, ih, List.forall_mem_cons]

theorem wellFormed_get (h : d.WellFormed) (key : String) : (d.get key).WellFormed := by
  cases d with
  | mapping entries =>
    rw [get]
    cases hv : entries.lookup key with
    | none => trivial
    | some v => exact wellFormedEntries_iff.mp h.2 _ (Entries.mem_of_lookup hv)
  | _ => trivial

/-- One key. -/
theorem prune_get (h : d.WellFormed) (key : String) :
    (d.get key).prune = d.prune.bind (·.get? key) := by
  cases d with
  | mapping entries => exact (get?_pruneEntries h.1 key).symm
  | _ => rfl

/-- Any number of keys. -/
theorem prune_descend (h : d.WellFormed) (keys : List String) :
    (d.descend keys).prune = d.prune.bind (·.follow? (keys.map .key)) := by
  induction keys generalizing d with
  | nil => exact (Option.bind_fun_some d.prune).symm
  | cons key rest ih =>
    calc
      (d.descend (key :: rest)).prune = ((d.get key).descend rest).prune := rfl
      _ = (d.get key).prune.bind (·.follow? (rest.map .key)) := ih (wellFormed_get h key)
      _ = d.prune.bind fun t => (t.get? key).bind (·.follow? (rest.map .key)) := by
        rw [prune_get h, Option.bind_assoc]

/-! ### Main result -/

/-- A tree is its own pruned draft, so that to prune once is enough. The same keys lead to the same
before and after, or to nothing both times. What is dropped is what is absent, no more: texts,
sequences and mappings stay even if they are empty or lose all that they hold, and the items of a
sequence and the entries of a mapping keep their order, each of them pruned by itself. -/
theorem prune_drops_absent :
    (∀ c : Context, (ofContext c).prune = some c) ∧
    (∀ d : Draft, (d.prune.map ofContext).bind prune = d.prune) ∧
    (∀ (d : Draft) (keys : List String), d.WellFormed →
      (d.descend keys).prune = d.prune.bind (·.follow? (keys.map .key))) ∧
    (∀ d : Draft, d.prune = none ↔ d = .absent) ∧
    (∀ s : String, (text s).prune = some (.text s)) ∧
    (∀ elems : List Draft, ∃ cs, (sequence elems).prune = some (.sequence cs) ∧
      List.Forall₂ (fun d c => d.prune = some c) (elems.filter (!·.isAbsent)) cs) ∧
    (∀ entries : Entries Draft, ∃ es, (mapping entries).prune = some (.mapping es) ∧
      Entries.keys es = Entries.keys (entries.filter (!·.2.isAbsent)) ∧
      List.Forall₂ (fun e f => e.1 = f.1 ∧ e.2.prune = some f.2)
        (entries.filter (!·.2.isAbsent)) es) := by
  refine ⟨prune_ofContext, ?_, fun d keys h => prune_descend h keys, fun d => prune_eq_none_iff,
    fun s => rfl, ?_, ?_⟩
  · intro d
    cases hd : d.prune with
    | none => rfl
    | some c => exact prune_ofContext c
  · intro elems
    exact ⟨pruneElems elems, rfl, forall₂_pruneElems elems⟩
  · intro entries
    exact ⟨pruneEntries entries, rfl, keys_pruneEntries entries, forall₂_pruneEntries entries⟩

/-- An empty text, and containers in which all is absent. -/
def hollow : Draft := .mapping [("note", .text ""), ("host", .absent),
  ("inner", .mapping [("gone", .absent)]), ("list", .sequence [.absent])]

theorem prune_drops_absent_hollow : hollow.WellFormed ∧
    hollow.prune =
      some (.mapping [("note", .text ""), ("inner", .mapping []), ("list", .sequence [])]) ∧
    (hollow.descend ["inner"]).prune = hollow.prune.bind (·.follow? [.key "inner"]) ∧
    (hollow.descend ["inner"]).prune = some (.mapping []) ∧
    (hollow.descend ["inner", "gone", "note"]).prune =
      hollow.prune.bind (·.follow? [.key "inner", .key "gone", .key "note"]) := by
  have hkeys : hollow.WellFormed := by
    simp [hollow, WellFormed, WellFormedEntries, WellFormedElems, Entries.keys]
  obtain ⟨_, _, hfollow, _⟩ := prune_drops_absent
  exact ⟨hkeys, rfl, hfollow hollow ["inner"] hkeys, rfl,
    hfollow hollow ["inner", "gone", "note"] hkeys⟩

end ApiContext.Draft
