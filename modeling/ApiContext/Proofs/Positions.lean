import ApiContext.Proofs.Diagnostics
import ApiContext.Proofs.Paths

/-! The positions of values in a description. What a compilation visits stands at some position, so
the diagnostics are the reports that positions are due. -/
namespace ApiContext
open Model Resolve

/-- Where a value stands, by the indices that lead to it. -/
inductive Place where
  | parameter (operation index : Nat)
  | response (operation index : Nat)
  | property (definition index : Nat)
  | enum (index : Nat)
deriving DecidableEq

/-- The value itself, or its element as an array or as a dictionary. -/
inductive Part where
  | self | items | element
deriving DecidableEq

structure Position where
  place : Place
  part : Part
deriving DecidableEq

def Place.visit? (spec : Spec) : Place → Option Visit
  | .parameter o i => do
    let op ← spec.operations[o]?
    let q ← op.parameters[i]?
    return .inScope (operationId op) q.value
  | .response o i => do
    let op ← spec.operations[o]?
    let r ← op.responses[i]?
    Visit.response? op r
  | .property d i => do
    let e ← spec.definitions.entries[d]?
    let v ← e.2.properties[i]?
    return .inScope e.1 v
  | .enum i => do
    let v ← spec.enums[i]?
    return .inScope "" v

def Part.visit? (x : Visit) : Part → Option Visit
  | .self => some x
  | .items =>
    if x.value.isArray then x.value.items.map (⟨x.path ++ ".items", ·⟩) else none
  | .element =>
    if x.value.isDictionary then x.value.element.map (⟨x.path ++ ".additionalProperties", ·⟩)
    else none

namespace Position

def visit? (spec : Spec) (p : Position) : Option Visit := (p.place.visit? spec).bind p.part.visit?

/-- The report that a position is due; a position without one is resolved, or holds no value. -/
def report? (spec : Spec) (p : Position) : Option Diagnostic :=
  (p.visit? spec).bind (Visit.report? spec)

end Position

/-- `Stands spec place segments x`: the visit `x` is at the place, and the segments lead to it. -/
inductive Stands (spec : Spec) : Place → List String → Visit → Prop
  | parameter {o i op q} : spec.operations[o]? = some op → op.parameters[i]? = some q →
      Stands spec (.parameter o i) [operationId op, shownName q.value.name]
        (.inScope (operationId op) q.value)
  | response {o i op r v} : spec.operations[o]? = some op → op.responses[i]? = some r →
      r.schema = some v →
      Stands spec (.response o i) [operationId op, "responses", statusText r.status]
        ⟨operationId op ++ ".responses." ++ statusText r.status, v⟩
  | property {k i d v} : spec.definitions.entries[k]? = some d → d.2.properties[i]? = some v →
      Stands spec (.property k i) [d.1, shownName v.name] (.inScope d.1 v)
  | enum {i v} : spec.enums[i]? = some v → Stands spec (.enum i) [shownName v.name] (.inScope "" v)

variable {spec : Spec} {x y : Visit} {lineages : List Lineage} {place : Place}

theorem Place.visit?_eq_some_iff :
    place.visit? spec = some x ↔ ∃ segments, Stands spec place segments x := by
  constructor
  · intro h
    cases place with
    | parameter o i =>
      obtain ⟨op, ho, q, hi, rfl⟩ : ∃ op, spec.operations[o]? = some op ∧
          ∃ q, op.parameters[i]? = some q ∧ Visit.inScope (operationId op) q.value = x := by
        simpa [Place.visit?, Option.bind_eq_some_iff] using h
      exact ⟨_, .parameter ho hi⟩
    | response o i =>
      obtain ⟨op, ho, r, hi, v, hv, rfl⟩ : ∃ op, spec.operations[o]? = some op ∧
          ∃ r, op.responses[i]? = some r ∧ ∃ v, r.schema = some v ∧
            Visit.mk (operationId op ++ ".responses." ++ statusText r.status) v = x := by
        simpa [Place.visit?, Visit.response?, Option.bind_eq_some_iff] using h
      exact ⟨_, .response ho hi hv⟩
    | property k i =>
      obtain ⟨d, hk, v, hi, rfl⟩ : ∃ d, spec.definitions.entries[k]? = some d ∧
          ∃ v, d.2.properties[i]? = some v ∧ Visit.inScope d.1 v = x := by
        simpa only [Place.visit?, bind, pure, Option.bind_eq_some_iff, Option.some.injEq] using h
      exact ⟨_, .property hk hi⟩
    | enum i =>
      obtain ⟨v, hi, rfl⟩ : ∃ v, spec.enums[i]? = some v ∧ Visit.inScope "" v = x := by
        simpa [Place.visit?, Option.bind_eq_some_iff] using h
      exact ⟨_, .enum hi⟩
  · intro h
    obtain ⟨segments, h⟩ := h
    cases h with
    | parameter ho hi => simp [Place.visit?, ho, hi]
    | response ho hi hv => simp [Place.visit?, Visit.response?, ho, hi, hv]
    | property hk hi => simp [Place.visit?, hk, hi]
    | enum hi => simp [Place.visit?, hi]

/-! ### Positions and visits -/

/-- The parts of a visit are those of a position, in their order. -/
theorem Visit.parts_eq (x : Visit) :
    x.parts = [Part.self, Part.items, Part.element].filterMap (Part.visit? x) := by
  have hitems : (if x.value.isArray then x.value.items.toList.map
      (fun v => Visit.mk (x.path ++ ".items") v) else []) = (Part.items.visit? x).toList := by
    unfold Part.visit?
    cases x.value.isArray with
    | false => rfl
    | true => exact Option.toList_map.symm
  have helement : (if x.value.isDictionary then x.value.element.toList.map
      (fun v => Visit.mk (x.path ++ ".additionalProperties") v) else []) =
        (Part.element.visit? x).toList := by
    unfold Part.visit?
    cases x.value.isDictionary with
    | false => rfl
    | true => exact Option.toList_map.symm
  have hself : Part.self.visit? x = some x := rfl
  rw [Visit.parts, hitems, helement, List.filterMap_eq_flatMap_toList]
  simp only [List.flatMap_cons, List.flatMap_nil, List.append_nil, hself, List.append_assoc]
  rfl

theorem Visit.mem_parts : y ∈ x.parts ↔ ∃ part : Part, part.visit? x = some y := by
  rw [parts_eq, List.mem_filterMap]
  constructor
  · intro h
    obtain ⟨part, _, h⟩ := h
    exact ⟨part, h⟩
  · intro h
    obtain ⟨part, h⟩ := h
    exact ⟨part, by cases part <;> simp, h⟩

/-- What a compilation visits is what stands at some place. -/
theorem Visit.mem_all (hl : List.Forall₂ (Ancestry spec) spec.definitions.entries lineages) :
    x ∈ all spec lineages ↔ ∃ place : Place, place.visit? spec = some x := by
  constructor
  · intro hx
    rw [all, List.mem_append, List.mem_append, or_assoc] at hx
    obtain hx | hx | hx := hx
    · obtain ⟨op, hop, hx⟩ := List.mem_flatMap.mp hx
      obtain ⟨o, ho⟩ := List.mem_iff_getElem?.mp hop
      cases List.mem_append.mp hx with
      | inl hx =>
        obtain ⟨q, hq, rfl⟩ := List.mem_map.mp hx
        obtain ⟨i, hi⟩ := List.mem_iff_getElem?.mp hq
        exact ⟨.parameter o i, by simp [Place.visit?, ho, hi]⟩
      | inr hx =>
        obtain ⟨r, hr, hx⟩ := List.mem_filterMap.mp hx
        obtain ⟨i, hi⟩ := List.mem_iff_getElem?.mp hr
        exact ⟨.response o i, by simp [Place.visit?, ho, hi, hx]⟩
    · obtain ⟨l, hml, hx⟩ := List.mem_flatMap.mp hx
      obtain ⟨e, he, last, ha, _⟩ := exists_of_mem_right hl hml
      obtain ⟨d, hd, v, hv, rfl⟩ := mem_ofLineage_iff.mp hx
      obtain ⟨k, hk⟩ := List.mem_iff_getElem?.mp (ha.mem_entries he hd)
      obtain ⟨i, hi⟩ := List.mem_iff_getElem?.mp hv
      exact ⟨.property k i, by simp [Place.visit?, hk, hi]⟩
    · obtain ⟨v, hv, rfl⟩ := List.mem_map.mp hx
      obtain ⟨i, hi⟩ := List.mem_iff_getElem?.mp hv
      exact ⟨.enum i, by simp [Place.visit?, hi]⟩
  · intro h
    obtain ⟨place, h⟩ := h
    obtain ⟨segments, h⟩ := Place.visit?_eq_some_iff.mp h
    cases h with
    | parameter ho hi =>
      refine List.mem_append_left _ (List.mem_append_left _ ?_)
      refine List.mem_flatMap.mpr ⟨_, List.mem_of_getElem? ho, List.mem_append_left _ ?_⟩
      exact List.mem_map.mpr ⟨_, List.mem_of_getElem? hi, rfl⟩
    | response ho hi hv =>
      refine List.mem_append_left _ (List.mem_append_left _ ?_)
      refine List.mem_flatMap.mpr ⟨_, List.mem_of_getElem? ho, List.mem_append_right _ ?_⟩
      exact List.mem_filterMap.mpr ⟨_, List.mem_of_getElem? hi, by simp [response?, hv]⟩
    | property hk hi =>
      obtain ⟨l, hml, last, ha, _⟩ := exists_of_mem_left hl (List.mem_of_getElem? hk)
      obtain ⟨rest, rfl⟩ := ha.exists_cons
      refine List.mem_append_left _ (List.mem_append_right _ ?_)
      refine List.mem_flatMap.mpr ⟨_, hml, mem_ofLineage_iff.mpr ⟨_, by simp, _, ?_, rfl⟩⟩
      exact List.mem_of_getElem? hi
    | enum hi =>
      exact List.mem_append_right _ (List.mem_map.mpr ⟨_, List.mem_of_getElem? hi, rfl⟩)

/-- The reports that are due are those of the positions. -/
theorem mem_reports_all (hl : List.Forall₂ (Ancestry spec) spec.definitions.entries lineages)
    {d : Diagnostic} : d ∈ Visit.reports spec (Visit.all spec lineages) ↔
      ∃ p : Position, p.report? spec = some d := by
  rw [Visit.reports, List.mem_filterMap]
  constructor
  · intro h
    obtain ⟨y, hy, hd⟩ := h
    obtain ⟨x, hx, hy⟩ := List.mem_flatMap.mp hy
    obtain ⟨place, hplace⟩ := (Visit.mem_all hl).mp hx
    obtain ⟨part, hpart⟩ := Visit.mem_parts.mp hy
    exact ⟨⟨place, part⟩, by simp [Position.report?, Position.visit?, hplace, hpart, hd]⟩
  · intro h
    obtain ⟨⟨place, part⟩, h⟩ := h
    obtain ⟨y, hy, hd⟩ := Option.bind_eq_some_iff.mp h
    obtain ⟨x, hx, hpart⟩ := Option.bind_eq_some_iff.mp hy
    refine ⟨y, List.mem_flatMap.mpr ⟨x, (Visit.mem_all hl).mpr ⟨place, hx⟩, ?_⟩, hd⟩
    exact Visit.mem_parts.mpr ⟨part, hpart⟩

theorem mem_diagnostics_iff {profile : Profile} {events : List Event} {c : Compilation}
    (h : ((compile spec profile).run ⟨[], events⟩).1 = .ok c)
    {d : Diagnostic} : d ∈ c.diagnostics ↔ ∃ p : Position, p.report? spec = some d := by
  obtain ⟨lineages, hl, hd⟩ := diagnostics_eq_eraseDups h
  rw [hd, List.mem_eraseDups, mem_reports_all hl]

end ApiContext
