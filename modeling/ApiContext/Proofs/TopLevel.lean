import ApiContext.Proofs.Agreement
import ApiContext.Proofs.Inheritance

/-! The top level of a compiled context in closed form: each list is its counterpart in the
description, item by item, and a definition stands there with the lineage that it has. -/
namespace ApiContext
open Model

/-- The lineage of a definition, or nothing where its ascent fails. -/
def Model.Spec.lineageOf (spec : Spec) (d : String × Schema) : Lineage :=
  (lineage spec d.1 d.2).toOption.getD []

/-- The tree of a definition. -/
def definitionTree (spec : Spec) (p : Profile) (d : String × Schema) : Context :=
  schemaTree p d (spec.lineageOf d).tail

variable {spec : Spec} {profile : Profile} {j : Journal} {c : Compilation}
variable {d : String × Schema} {l : Lineage} {lineages : List Lineage}

theorem lineageOf_eq (hd : d ∈ spec.definitions.entries) (h : Ancestry spec d l) :
    spec.lineageOf d = l := by
  rw [Spec.lineageOf, (lineage_eq_ok_iff_of_mem hd).mpr h]
  rfl

theorem lineages_eq_map (h : List.Forall₂ (Ancestry spec) spec.definitions.entries lineages) :
    lineages = spec.definitions.entries.map spec.lineageOf := by
  have hmem : ∀ d ∈ spec.definitions.entries, d ∈ spec.definitions.entries := fun _ hd => hd
  have h := ((List.forall₂_and_left _ _).mpr ⟨hmem, h⟩).imp fun _ _ hd => lineageOf_eq hd.1 hd.2
  exact (List.forall₂_eq_eq_eq ▸ List.forall₂_map_left_iff.mpr h).symm

theorem context_eq (h : ((compile spec profile).run j).1 = .ok c) : c.context =
    .mapping (Draft.pruneEntries (Draft.specFields profile spec
      (spec.definitions.entries.map spec.lineageOf))) := by
  obtain ⟨lineages, hl, rfl⟩ := compile_eq_ok_iff.mp h
  rw [← lineages_eq_map hl]

theorem prune_ofLineage (h : ((compile spec profile).run j).1 = .ok c)
    (hd : d ∈ spec.definitions.entries) :
    (Draft.ofLineage profile (spec.lineageOf d)).prune = some (definitionTree spec profile d) := by
  obtain ⟨path, hp⟩ := exists_compile_ok_iff.mp ⟨c, h⟩ d hd
  have heq := lineageOf_eq hd hp
  obtain ⟨last, ha, _⟩ := hp
  obtain ⟨rest, rfl⟩ := ha.exists_cons
  rw [definitionTree, heq]
  rfl

theorem get?_context (h : ((compile spec profile).run j).1 = .ok c) (key : String) :
    c.context.get? key = ((Draft.specFields profile spec
      (spec.definitions.entries.map spec.lineageOf)).lookup key).bind Draft.prune := by
  rw [context_eq h]
  exact Draft.lookup_pruneEntries (Draft.nodup_keys_specFields profile spec _) key

theorem pruneElems_lineages (h : ((compile spec profile).run j).1 = .ok c) :
    Draft.pruneElems ((spec.definitions.entries.map spec.lineageOf).map (Draft.ofLineage profile)) =
      spec.definitions.entries.map (definitionTree spec profile) := by
  rw [List.map_map]
  exact Draft.pruneElems_map fun d hd => prune_ofLineage h hd

theorem get?_definitions (h : ((compile spec profile).run j).1 = .ok c) :
    c.context.get? "definitions" =
      some (.sequence (spec.definitions.entries.map (definitionTree spec profile))) := by
  rw [← pruneElems_lineages h]
  exact get?_context h "definitions"

end ApiContext
