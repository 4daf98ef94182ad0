import ApiContext.Proofs.Pruning
import ApiContext.Proofs.RoundTrip
import ApiContext.Proofs.Sessions
import ApiContext.Proofs.ValueMappings

/-! The mappings of parameters beside those of their values. A parameter is resolved as its value is,
and differs by its location: once behind all other entries, and once among the members of its raw
description, there as a description spells it. -/
namespace ApiContext
open Model Resolve

/-- How the entries of a parameter differ from those of its value. The nodes are those of drafts or
of trees, as `text` and `mapping` make them. -/
structure Located {α : Type} (text : String → α) (mapping : Entries α → α) (l : Location)
    (value parameter : Entries α) : Prop where
  nodup : (Entries.keys parameter).Nodup
  keys : Entries.keys parameter = Entries.keys value ++ ["parameterType"]
  location : parameter.lookup "parameterType" = some (text l.label)
  others {key : String} : key ≠ "raw" → key ≠ "parameterType" →
    parameter.lookup key = value.lookup key
  raw : ∃ front back, "in" ∉ Entries.keys (front ++ back) ∧
    value.lookup "raw" = some (mapping (front ++ back)) ∧
    parameter.lookup "raw" = some (mapping (front ++ ("in", text l.key) :: back))

namespace Draft

/-! ### Raw descriptions -/

/-- The location is one more member among those of the value, which keep their order. -/
theorem raw_parameter (q : Parameter) : ∃ front back, "in" ∉ Entries.keys (front ++ back) ∧
    raw q.value.toJson = .mapping (front ++ back) ∧
    raw q.toJson = .mapping (front ++ ("in", .text q.location.key) :: back) := by
  let members := q.value.fields.filterMap fun e => (id e.2).map (e.1, ·)
  have hvalue : raw q.value.toJson = .mapping (ofMembers (Json.sortedMembers members)) := rfl
  have hparameter : raw q.toJson = .mapping (ofMembers
      (Json.insertSorted "in" (.str q.location.key) (Json.sortedMembers members))) := rfl
  obtain ⟨front, back, hmembers, hinserted⟩ :=
    Json.exists_insertSorted "in" (.str q.location.key) (Json.sortedMembers members)
  have happend : ofMembers (front ++ back) = ofMembers front ++ ofMembers back := by
    simp only [ofMembers_eq, List.map_append]
  refine ⟨ofMembers front, ofMembers back, ?_, ?_, ?_⟩
  · rw [← happend, ← hmembers, keys_ofMembers, (Json.keys_sortedMembers_perm members).mem_iff]
    have hnew := (List.nodup_cons.mp (nodup_keys_parameter q)).1
    exact fun h => hnew ((Entries.keys_filterMap_sublist id q.value.fields).subset h)
  · rw [hvalue, hmembers, happend]
  · rw [hparameter, hinserted]
    simp only [ofMembers_eq, List.map_append, List.map_cons]
    rfl

/-! ### Entries -/

theorem located_locatedFields (p : Profile) (q : Parameter) :
    Located .text .mapping q.location (valueFields p q.value q.value.name)
      (locatedFields p q.value q.value.name (some q.location)) where
  nodup := nodup_keys_locatedFields _ _ _
  keys := by
    have hraw : "raw" ∈ Entries.keys (valueFields p q.value q.value.name) := by
      simp [Entries.keys, valueFields]
    have htype : "parameterType" ∉ Entries.keys (valueFields p q.value q.value.name) := by
      simp [Entries.keys, valueFields]
    rw [locatedFields, Entries.keys_set, Entries.keys_set, if_neg htype,
      if_pos (List.mem_append_left _ hraw)]
  location := lookup_parameterType
  others := lookup_locatedFields
  raw := by
    obtain ⟨front, back, hnew, hvalue, hparameter⟩ := raw_parameter q
    refine ⟨front, back, hnew, congrArg some hvalue, ?_⟩
    rw [locatedFields, Entries.lookup_set, if_pos rfl]
    exact congrArg some hparameter

/-- Pruned, the entries differ in the same way. -/
theorem located_pruneEntries {l : Location} {es es' : Entries Draft}
    (h : Located .text .mapping l es es') :
    Located .text .mapping l (pruneEntries es) (pruneEntries es') := by
  obtain ⟨front, back, hnew, hvalue, hparameter⟩ := h.raw
  have hboth : (Entries.keys es ++ ["parameterType"]).Nodup := h.keys ▸ h.nodup
  have hn : (Entries.keys es).Nodup := (List.nodup_append.mp hboth).1
  refine ⟨(keys_pruneEntries_sublist es').nodup h.nodup, ?_, ?_, ?_, ?_⟩
  · have hpresent : ∀ key ∈ Entries.keys es,
        (es'.lookup key).any (!·.isAbsent) = (es.lookup key).any (!·.isAbsent) := by
      intro key hkey
      have htype : key ≠ "parameterType" := by
        rintro rfl
        exact List.disjoint_of_nodup_append hboth hkey (List.mem_singleton_self _)
      by_cases hraw : key = "raw"
      · rw [hraw, hvalue, hparameter]
        rfl
      · rw [h.others hraw htype]
    rw [keys_pruneEntries_of_nodup h.nodup, keys_pruneEntries_of_nodup hn, h.keys,
      List.filter_append, List.filter_congr hpresent]
    simp [h.location, isAbsent]
  · rw [lookup_pruneEntries h.nodup, h.location]
    rfl
  · intro key hraw htype
    rw [lookup_pruneEntries h.nodup, lookup_pruneEntries hn, h.others hraw htype]
  · refine ⟨pruneEntries front, pruneEntries back, ?_, ?_, ?_⟩
    · rw [← pruneEntries_append]
      exact fun hmem => hnew ((keys_pruneEntries_sublist _).subset hmem)
    · rw [lookup_pruneEntries hn, hvalue, ← pruneEntries_append]
      rfl
    · rw [lookup_pruneEntries h.nodup, hparameter, Option.bind_some, prune, pruneEntries_append]
      rfl

end Draft

/-- A parameter leaves the journal that its value leaves, in whatever state and scope it is resolved.
Both are mappings, and the parameter's has the entries of the value's in the same order with the
same nodes, but for its location behind them and, within the raw description, one more entry for
the location as it is written. So it is with the drafts and with the pruned trees. -/
theorem parameter_as_located_value (env : Environment) (q : Parameter) (scope : String)
    (j : Journal) :
    ((Request.parameter q scope).ask env j).2 = ((Request.value q.value scope).ask env j).2 ∧
      ∃ es es' ts ts', ((Request.value q.value scope).ask env j).1 = .ok (.mapping es) ∧
        ((Request.parameter q scope).ask env j).1 = .ok (.mapping es') ∧
        (Draft.mapping es).prune = some (.mapping ts) ∧
        (Draft.mapping es').prune = some (.mapping ts') ∧
        Located .text .mapping q.location es es' ∧ Located .text .mapping q.location ts ts' := by
  have hentries := Draft.located_locatedFields env.profile q
  rw [Request.ask_eq, Request.ask_eq]
  exact ⟨rfl, _, _, _, _, rfl, rfl, rfl, rfl, hentries, Draft.located_pruneEntries hentries⟩

end ApiContext
