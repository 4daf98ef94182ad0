import ApiContext.Proofs.Ascent
import ApiContext.Resolve.Operation

/-! The values of a description in the order in which a compilation comes to them, and the report
that each is due. A value is judged by itself; its element is judged with it, and nothing deeper. -/
namespace ApiContext
open Model Resolve

/-- Why a value cannot be typed. -/
def problem? (spec : Spec) (v : Value) : Option Problem :=
  match v.schema, v.tag with
  | some (.inline _), _ => none
  | some (.ref reference), _ =>
    if refName reference ∈ spec.definitions.keys then none else some (.unknownReference reference)
  | none, none => some .untyped
  | none, some tag =>
    if tag ∈ primitiveTags ∨ v.isDictionary then none else some (.unusableTag tag)

/-- A value under the path at which it is reported. -/
structure Visit where
  path : String
  value : Value

namespace Visit

/-- The value itself, then the element of an array or of a dictionary. -/
def parts (x : Visit) : List Visit :=
  [x] ++ (if x.value.isArray then x.value.items.toList.map (⟨x.path ++ ".items", ·⟩) else [])
    ++ (if x.value.isDictionary then
      x.value.element.toList.map (⟨x.path ++ ".additionalProperties", ·⟩) else [])

def report? (spec : Spec) (x : Visit) : Option Diagnostic :=
  (problem? spec x.value).map (⟨x.path, ·⟩)

/-- A value in the scope of a schema or an operation; global enums have the empty scope. -/
def inScope (scope : String) (v : Value) : Visit := ⟨qualify scope v.name, v⟩

def response? (o : Operation) (r : Response) : Option Visit :=
  r.schema.map (⟨operationId o ++ ".responses." ++ statusText r.status, ·⟩)

/-- Parameters first, then the bodies of responses. -/
def ofOperation (o : Operation) : List Visit :=
  o.parameters.map (fun p => inScope (operationId o) p.value) ++ o.responses.filterMap (response? o)

/-- Required properties first, then optional ones. -/
def ofSchema (d : String × Schema) : List Visit :=
  (d.2.requiredProperties ++ d.2.optionalProperties).map (inScope d.1)

/-- From the root down to the schema itself. -/
def ofLineage (l : Lineage) : List Visit := l.reverse.flatMap ofSchema

/-- All that a compilation visits, given the lineages of the definitions. -/
def all (spec : Spec) (lineages : List Lineage) : List Visit :=
  spec.operations.flatMap ofOperation ++ lineages.flatMap ofLineage ++ spec.enums.map (inScope "")

/-- The reports that visits are due, with their repetitions. -/
def reports (spec : Spec) (visits : List Visit) : List Diagnostic :=
  (visits.flatMap parts).filterMap (report? spec)

variable {spec : Spec} {visits visits' : List Visit}

theorem reports_append :
    reports spec (visits ++ visits') = reports spec visits ++ reports spec visits' := by
  rw [reports, List.flatMap_append, List.filterMap_append]
  rfl

theorem reports_flatMap {α : Type} (f : α → List Visit) (l : List α) :
    reports spec (l.flatMap f) = l.flatMap fun a => reports spec (f a) := by
  induction l with
  | nil => rfl
  | cons a rest ih => rw [List.flatMap_cons, List.flatMap_cons, reports_append, ih]

theorem reports_singleton (x : Visit) : reports spec [x] = (report? spec x).toList ++
    ((if x.value.isArray then x.value.items.toList.map (⟨x.path ++ ".items", ·⟩)
        else []).filterMap (report? spec) ++
      (if x.value.isDictionary then
          x.value.element.toList.map (⟨x.path ++ ".additionalProperties", ·⟩)
        else []).filterMap (report? spec)) := by
  simp only [reports, parts, List.flatMap_singleton, List.filterMap_append, List.append_assoc]
  cases h : report? spec x <;> simp [h]

theorem reports_map {α : Type} (f : α → Visit) (l : List α) :
    reports spec (l.map f) = l.flatMap fun a => reports spec [f a] := by
  rw [List.map_eq_flatMap, reports_flatMap]

theorem mem_reports {d : Diagnostic} :
    d ∈ reports spec visits ↔ ∃ x ∈ visits, d ∈ reports spec [x] := by
  induction visits with
  | nil => simp [reports]
  | cons x rest ih =>
    rw [← List.singleton_append, reports_append, List.mem_append, ih]
    simp

/-- Reports come with what is visited. -/
theorem reports_subset (h : ∀ x ∈ visits, x ∈ visits') :
    ∀ d ∈ reports spec visits, d ∈ reports spec visits' := by
  intro d hd
  obtain ⟨x, hx, hd⟩ := mem_reports.mp hd
  exact mem_reports.mpr ⟨x, h x hx, hd⟩

/-! ### The visits of a lineage -/

theorem ofLineage_cons (d : String × Schema) (ancestors : Lineage) :
    ofLineage (d :: ancestors) = ofLineage ancestors ++ ofSchema d := by
  simp [ofLineage]

/-- A property is required or optional, so it is visited with its schema. -/
theorem mem_ofSchema_iff {d : String × Schema} {x : Visit} :
    x ∈ ofSchema d ↔ ∃ v ∈ d.2.properties, x = inScope d.1 v := by
  constructor
  · intro hx
    obtain ⟨v, hv, rfl⟩ := List.mem_map.mp hx
    cases List.mem_append.mp hv with
    | inl hv => exact ⟨v, (List.mem_filter.mp hv).1, rfl⟩
    | inr hv => exact ⟨v, (List.mem_filter.mp hv).1, rfl⟩
  · intro h
    obtain ⟨v, hv, rfl⟩ := h
    refine List.mem_map.mpr ⟨v, List.mem_append.mpr ?_, rfl⟩
    cases hr : v.required with
    | true => exact .inl (List.mem_filter.mpr ⟨hv, hr⟩)
    | false => exact .inr (List.mem_filter.mpr ⟨hv, by simp [hr]⟩)

theorem mem_ofLineage_iff {l : Lineage} {x : Visit} :
    x ∈ ofLineage l ↔ ∃ d ∈ l, ∃ v ∈ d.2.properties, x = inScope d.1 v := by
  simp only [ofLineage, List.mem_flatMap, List.mem_reverse, mem_ofSchema_iff]

end Visit
end ApiContext
