import ApiContext.Proofs.Positions
import ApiContext.Proofs.Sorting
import ApiContext.Proofs.TopLevel

/-! Definitions declared in another order. A definition is found by its key wherever it stands, so
that ascents, reports and the sorted raw description stay what they are. -/
namespace ApiContext
open Model Resolve

/-! ### Descriptions and their members -/

namespace Json
variable {ms ms' : List (String × Json)} {fields fields' : List (String × Option Json)}

/-- Members of a record may be sorted before the record is. -/
theorem sorted_record (fields : List (String × Option Json)) :
    (record fields).sorted = (record (fields.map fun e => (e.1, e.2.map sorted))).sorted := by
  rw [record, record, sorted, sorted]
  congr 1
  induction fields with
  | nil => rfl
  | cons e rest ih =>
    obtain ⟨name, value?⟩ := e
    cases value? with
    | none => exact ih
    | some value =>
      simp only [List.map_cons, List.filterMap_cons, Option.map_some, sortedMembers, ih,
        sorted_sorted]

theorem sorted_record_congr (h : fields.map (fun e => (e.1, e.2.map sorted)) =
    fields'.map fun e => (e.1, e.2.map sorted)) :
    (record fields).sorted = (record fields').sorted := by
  rw [sorted_record fields, h, ← sorted_record]

theorem sorted_unlessEmptyMap_of_perm (h : ms.Perm ms') (hn : (Entries.keys ms).Nodup) :
    (unlessEmptyMap ms).map sorted = (unlessEmptyMap ms').map sorted := by
  have hsorted := sortedMembers_of_perm h hn
  have hlength := h.length_eq
  cases ms with
  | nil =>
    obtain rfl := h.nil_eq
    rfl
  | cons m rest =>
    cases ms' with
    | nil => cases hlength
    | cons m' rest' => exact congrArg (fun ms => some (obj ms)) hsorted

end Json

/-- The same description, with its definitions in another order. -/
def Reordered (spec spec' : Spec) : Prop :=
  ∃ definitions : OrderedMap Schema, spec.definitions.entries.Perm definitions.entries ∧
    spec' = { spec with definitions }

namespace Reordered
variable {spec spec' : Spec} {d last : String × Schema} {path : Lineage}

theorem symm (h : Reordered spec spec') : Reordered spec' spec := by
  obtain ⟨definitions, hperm, rfl⟩ := h
  exact ⟨spec.definitions, hperm.symm, rfl⟩

theorem entries (h : Reordered spec spec') :
    spec.definitions.entries.Perm spec'.definitions.entries := by
  obtain ⟨definitions, hperm, rfl⟩ := h
  exact hperm

/-- The order of the definitions does not show in what is kept as it was loaded. -/
theorem raw (h : Reordered spec spec') : Resolve.raw spec'.toJson = Resolve.raw spec.toJson := by
  have hnodup : (Entries.keys (spec.definitions.entries.map fun e => (e.1, e.2.toJson))).Nodup := by
    rw [Entries.keys, List.map_map]
    exact spec.definitions.nodup
  have hmembers := Json.sorted_unlessEmptyMap_of_perm
    (h.entries.map fun e => (e.1, e.2.toJson)) hnodup
  obtain ⟨definitions, _, rfl⟩ := h
  exact congrArg Draft.ofJson (Json.sorted_record_congr (by simp only [List.map_cons, hmembers]))

/-! ### Ascents -/

theorem definition? (h : Reordered spec spec') (reference : String) :
    spec'.definition? reference = spec.definition? reference := by
  refine Option.ext fun e => ?_
  simp only [Spec.definition?, OrderedMap.find?_eq_some_iff, h.entries.mem_iff]

theorem parentOf? (h : Reordered spec spec') : spec'.parentOf? d = spec.parentOf? d := by
  unfold Spec.parentOf?
  exact Option.bind_congr fun reference _ => h.definition? reference

theorem ascent (h : Reordered spec spec') (ha : Ascent spec d path last) :
    Ascent spec' d path last := by
  induction ha with
  | here d => exact .here d
  | up hp _ ih => exact .up (h.parentOf?.trans hp) ih

theorem ancestry (h : Reordered spec spec') (ha : Ancestry spec d path) :
    Ancestry spec' d path := by
  obtain ⟨last, ha, hr⟩ := ha
  exact ⟨last, h.ascent ha, hr⟩

theorem exists_ancestries (h : Reordered spec spec')
    (hall : ∀ d ∈ spec.definitions.entries, ∃ path, Ancestry spec d path) :
    ∀ d ∈ spec'.definitions.entries, ∃ path, Ancestry spec' d path := by
  intro d hd
  obtain ⟨path, ha⟩ := hall d (h.entries.mem_iff.mpr hd)
  exact ⟨path, h.ancestry ha⟩

theorem definitionTree_eq (h : Reordered spec spec') (p : Profile)
    (hd : d ∈ spec.definitions.entries) (ha : Ancestry spec d path) :
    definitionTree spec' p d = definitionTree spec p d := by
  rw [definitionTree, definitionTree, lineageOf_eq hd ha,
    lineageOf_eq (h.entries.mem_iff.mp hd) (h.ancestry ha)]

theorem fields (h : Reordered spec spec') (p : Profile) (lineages : List Lineage) :
    Draft.specFields p spec' lineages = Draft.specFields p spec lineages := by
  have hraw := h.raw
  obtain ⟨definitions, _, rfl⟩ := h
  unfold Draft.specFields
  rw [hraw]
  rfl

/-! ### Reports -/

theorem problem?_eq (h : Reordered spec spec') (v : Value) :
    problem? spec' v = problem? spec v := by
  have hkeys (k : String) : k ∈ spec'.definitions.keys ↔ k ∈ spec.definitions.keys :=
    (h.entries.map Prod.fst).mem_iff.symm
  simp only [problem?, hkeys]

theorem report?_eq (h : Reordered spec spec') (x : Visit) :
    Visit.report? spec' x = Visit.report? spec x := by
  rw [Visit.report?, Visit.report?, h.problem?_eq]

/-- What stands at some place of a description stands at some place of the other. -/
theorem exists_place (h : Reordered spec spec') {place : Place} {x : Visit}
    (hx : place.visit? spec = some x) : ∃ place : Place, place.visit? spec' = some x := by
  obtain ⟨definitions, hperm, rfl⟩ := h
  cases place with
  | parameter o i => exact ⟨.parameter o i, hx⟩
  | response o i => exact ⟨.response o i, hx⟩
  | enum i => exact ⟨.enum i, hx⟩
  | property d i =>
    obtain ⟨e, he, hv⟩ := Option.bind_eq_some_iff.mp hx
    obtain ⟨d', hd'⟩ := List.mem_iff_getElem?.mp (hperm.mem_iff.mp (List.mem_of_getElem? he))
    exact ⟨.property d' i, Option.bind_eq_some_iff.mpr ⟨e, hd', hv⟩⟩

theorem exists_position (h : Reordered spec spec') {r : Diagnostic}
    (hr : ∃ p : Position, p.report? spec = some r) : ∃ p : Position, p.report? spec' = some r := by
  obtain ⟨⟨place, part⟩, hr⟩ := hr
  obtain ⟨y, hy, hr⟩ := Option.bind_eq_some_iff.mp hr
  obtain ⟨x, hx, hpart⟩ := Option.bind_eq_some_iff.mp hy
  obtain ⟨place', hx'⟩ := h.exists_place hx
  refine ⟨⟨place', part⟩, Option.bind_eq_some_iff.mpr ⟨y, ?_, ?_⟩⟩
  · exact Option.bind_eq_some_iff.mpr ⟨x, hx', hpart⟩
  · rw [h.report?_eq, hr]

end Reordered

/-! ### Two compilations -/

section compiled
variable {spec spec' : Spec} {profile : Profile} {c c' : Compilation} {events events' : List Event}

theorem exists_compile_reordered_iff (h : Reordered spec spec') :
    (∃ c, ((compile spec' profile).run ⟨[], events'⟩).1 = .ok c) ↔
      ∃ c, ((compile spec profile).run ⟨[], events⟩).1 = .ok c := by
  rw [exists_compile_ok_iff, exists_compile_ok_iff]
  exact ⟨h.symm.exists_ancestries, h.exists_ancestries⟩

theorem diagnostics_perm (h : Reordered spec spec')
    (hc : ((compile spec profile).run ⟨[], events⟩).1 = .ok c)
    (hc' : ((compile spec' profile).run ⟨[], events'⟩).1 = .ok c') :
    c'.diagnostics.Perm c.diagnostics := by
  refine (List.perm_ext_iff_of_nodup (nodup_diagnostics hc') (nodup_diagnostics hc)).mpr ?_
  intro r
  rw [mem_diagnostics_iff hc, mem_diagnostics_iff hc']
  exact ⟨h.symm.exists_position, h.exists_position⟩

/-- The definitions stand in the middle of a context, and the other fields know nothing of them. -/
theorem context_split (h : ((compile spec profile).run ⟨[], events⟩).1 = .ok c) : c.context =
    .mapping (Draft.pruneEntries ((Draft.specFields profile spec []).take 7) ++
      ("definitions", .sequence (spec.definitions.entries.map (definitionTree spec profile))) ::
        Draft.pruneEntries ((Draft.specFields profile spec []).drop 8)) := by
  have hsplit (lineages : List Lineage) : Draft.specFields profile spec lineages =
      (Draft.specFields profile spec []).take 7 ++
        ("definitions", .sequence (lineages.map (Draft.ofLineage profile))) ::
          (Draft.specFields profile spec []).drop 8 := rfl
  rw [context_eq h, hsplit, ← pruneElems_lineages h, Draft.pruneEntries_append]
  rfl

/-- A description compiles in whatever order its definitions are declared. Its context then has the
same keys, and under each but `definitions` the same tree. There each definition has the same tree
as before, at its new place. The same is reported, in another order. -/
theorem compile_reordered (h : Reordered spec spec') (profile : Profile)
    (events events' : List Event) :
    ((∃ c, ((compile spec' profile).run ⟨[], events'⟩).1 = .ok c) ↔
        ∃ c, ((compile spec profile).run ⟨[], events⟩).1 = .ok c) ∧
      ∀ c c', ((compile spec profile).run ⟨[], events⟩).1 = .ok c →
        ((compile spec' profile).run ⟨[], events'⟩).1 = .ok c' →
          c'.context.face = c.context.face ∧
          (∀ key, key ≠ "definitions" → c'.context.get? key = c.context.get? key) ∧
          (∃ tree : String × Schema → Context,
            c.context.get? "definitions" =
                some (.sequence (spec.definitions.entries.map tree)) ∧
              c'.context.get? "definitions" =
                some (.sequence (spec'.definitions.entries.map tree))) ∧
          c'.diagnostics.Perm c.diagnostics := by
  refine ⟨exists_compile_reordered_iff h, fun c c' hc hc' => ?_⟩
  have hcontext := context_split hc
  have hcontext' := context_split hc'
  rw [h.fields] at hcontext'
  refine ⟨?_, ?_, ⟨definitionTree spec profile, get?_definitions hc, ?_⟩, diagnostics_perm h hc hc'⟩
  · rw [hcontext, hcontext']
    simp [Context.face, Entries.keys]
  · intro key hkey
    rw [hcontext, hcontext']
    simp [Context.get?, List.lookup_append, List.lookup_cons, beq_eq_false_iff_ne.mpr hkey]
  · have htrees : spec'.definitions.entries.map (definitionTree spec' profile) =
        spec'.definitions.entries.map (definitionTree spec profile) := by
      refine List.map_congr_left fun d hd => ?_
      obtain ⟨path, ha⟩ := exists_compile_ok_iff.mp ⟨c, hc⟩ d (h.entries.mem_iff.mpr hd)
      exact h.definitionTree_eq profile (h.entries.mem_iff.mpr hd) ha
    rw [get?_definitions hc', htrees]

end compiled

/-- The zoo with its definitions the other way round. -/
def reversedZoo : Spec := { zoo with definitions := ⟨[puppy, animal, dog], by decide⟩ }

theorem compile_reordered_zoo : Reordered zoo reversedZoo ∧
    ∃ c c', ((compile zoo .plain).run .empty).1 = .ok c ∧
      ((compile reversedZoo .plain).run .empty).1 = .ok c' ∧
      c'.context.get? "raw" = c.context.get? "raw" ∧
      c'.context.follow? [.key "definitions", .index 0] =
        c.context.follow? [.key "definitions", .index 2] ∧
      c'.diagnostics.Perm c.diagnostics := by
  have hperm : Reordered zoo reversedZoo := by
    refine ⟨_, ?_, rfl⟩
    exact (List.reverse_perm _).symm
  obtain ⟨hiff, hboth⟩ := compile_reordered hperm .plain [] []
  obtain ⟨c, hc⟩ := exists_compile_zoo
  obtain ⟨c', hc'⟩ := hiff.mpr ⟨c, hc⟩
  obtain ⟨_, hkeys, ⟨tree, htrees, htrees'⟩, hreports⟩ := hboth c c' hc hc'
  refine ⟨hperm, c, c', hc, hc', hkeys "raw" (by decide), ?_, hreports⟩
  simp only [Context.follow?, Context.step?, htrees, htrees']
  rfl

end ApiContext
