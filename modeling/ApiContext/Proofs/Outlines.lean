import ApiContext.Proofs.TopLevel

/-! Descriptions without the bodies of their inline schemas. What a body holds decides nothing that
a compilation asks of a value: neither its type nor its enum, neither the ascent of a definition nor
a report. -/
namespace ApiContext

/-- The same keys, with what each value becomes. -/
def OrderedMap.map {α β : Type} (f : α → β) (m : OrderedMap α) : OrderedMap β where
  entries := m.entries.map fun e => (e.1, f e.2)
  nodup := by
    rw [Entries.keys, List.map_map]
    exact m.nodup

namespace Model

/-- An inline schema keeps its title. -/
def SchemaOrRef.outline : SchemaOrRef → SchemaOrRef
  | ref path => ref path
  | inline s => inline ⟨s.title, none, none, []⟩

mutual

/-- A value in which inline schemas have no bodies, and so in its items and entries. -/
def Value.outline : Value → Value
  | ⟨name, description, tag, format, required, schema, items, element, members, isGlobal,
      globalName, fallback⟩ =>
    ⟨name, description, tag, format, required, schema.map SchemaOrRef.outline, outline? items,
      outline? element, members, isGlobal, globalName, fallback⟩

def outline? : Option Value → Option Value
  | none => none
  | some v => some v.outline

end

def Parameter.outline (q : Parameter) : Parameter := { q with value := q.value.outline }

def Response.outline (r : Response) : Response := { r with schema := r.schema.map Value.outline }

def Operation.outline (o : Operation) : Operation :=
  { o with
    parameters := o.parameters.map Parameter.outline
    responses := o.responses.map Response.outline }

/-- A definition keeps all but the bodies inside its properties. -/
def Schema.outline (s : Schema) : Schema :=
  { s with properties := s.properties.map Value.outline }

def Spec.outline (spec : Spec) : Spec :=
  { spec with
    operations := spec.operations.map Operation.outline
    definitions := spec.definitions.map Schema.outline
    enums := spec.enums.map Value.outline }

end Model

open Model Resolve

/-! ### Values -/

namespace Model.Value
variable (v : Value)

@[simp] theorem name_outline : v.outline.name = v.name := by cases v; rfl

@[simp] theorem description_outline : v.outline.description = v.description := by cases v; rfl

@[simp] theorem tag_outline : v.outline.tag = v.tag := by cases v; rfl

@[simp] theorem format_outline : v.outline.format = v.format := by cases v; rfl

@[simp] theorem required_outline : v.outline.required = v.required := by cases v; rfl

@[simp] theorem schema_outline : v.outline.schema = v.schema.map SchemaOrRef.outline := by
  cases v; rfl

@[simp] theorem members_outline : v.outline.members = v.members := by cases v; rfl

@[simp] theorem isGlobal_outline : v.outline.isGlobal = v.isGlobal := by cases v; rfl

@[simp] theorem globalName_outline : v.outline.globalName = v.globalName := by cases v; rfl

@[simp] theorem fallback_outline : v.outline.fallback = v.fallback := by cases v; rfl

theorem outline?_eq (o : Option Value) : outline? o = o.map outline := by cases o <;> rfl

@[simp] theorem items_outline : v.outline.items = v.items.map outline := by
  cases v
  exact outline?_eq _

@[simp] theorem element_outline : v.outline.element = v.element.map outline := by
  cases v
  exact outline?_eq _

@[simp] theorem isArray_outline : v.outline.isArray = v.isArray := by simp [isArray]

@[simp] theorem isDictionary_outline : v.outline.isDictionary = v.isDictionary := by
  simp [isDictionary]

@[simp] theorem enumMembers_outline : v.outline.enumMembers = v.enumMembers := by
  have hitems : v.outline.items.bind (·.members) = v.items.bind (·.members) := by
    rw [items_outline, Option.bind_map]
    exact Option.bind_congr fun item _ => item.members_outline
  rw [enumMembers, enumMembers, members_outline, hitems]

end Model.Value

/-! ### Lineages -/

/-- A definition without the bodies inside its properties. -/
def outlineEntry (d : String × Schema) : String × Schema := (d.1, d.2.outline)

def outlineLineage (l : Lineage) : Lineage := l.map outlineEntry

section lineages
variable {spec : Spec} {d last : String × Schema} {path : Lineage}

theorem keys_outline (spec : Spec) : spec.outline.definitions.keys = spec.definitions.keys :=
  List.map_map

theorem definition?_outline (spec : Spec) (reference : String) :
    spec.outline.definition? reference = (spec.definition? reference).map outlineEntry :=
  List.find?_map ..

theorem parentOf?_outline (spec : Spec) (d : String × Schema) :
    spec.outline.parentOf? (outlineEntry d) = (spec.parentOf? d).map outlineEntry := by
  rw [Spec.parentOf?, Spec.parentOf?, Option.map_bind]
  exact Option.bind_congr fun reference _ => definition?_outline spec reference

theorem links_outline (spec : Spec) : spec.outline.links = spec.links :=
  List.map_map

theorem Ascent.outline (h : Ascent spec d path last) :
    Ascent spec.outline (outlineEntry d) (outlineLineage path) (outlineEntry last) := by
  induction h with
  | here d => exact .here (outlineEntry d)
  | @up d next path last hp _ ih =>
    have hnext : spec.outline.parentOf? (outlineEntry d) = some (outlineEntry next) := by
      rw [parentOf?_outline, hp, Option.map_some]
    exact .up hnext ih

theorem Ancestry.outline (h : Ancestry spec d path) :
    Ancestry spec.outline (outlineEntry d) (outlineLineage path) := by
  obtain ⟨last, ha, hr⟩ := h
  exact ⟨outlineEntry last, ha.outline, hr⟩

/-- The same definitions ascend, each to the outline of its lineage, or the same one fails. -/
theorem lineages_outline (spec : Spec) :
    spec.outline.lineages = spec.lineages.map (List.map outlineLineage) := by
  cases hl : spec.lineages with
  | error err =>
    -- Which definition fails, and how, is a matter of the links between definitions.
    exact lineages_error_transport (links_outline spec) hl
  | ok lineages =>
    have hup : List.Forall₂ (Ancestry spec.outline) (spec.definitions.entries.map outlineEntry)
        (lineages.map outlineLineage) := by
      rw [List.forall₂_map_left_iff, List.forall₂_map_right_iff]
      exact (lineages_eq_ok_iff.mp hl).imp fun _ _ h => h.outline
    exact lineages_eq_ok_iff.mpr hup

end lineages

/-! ### Properties -/

theorem properties_outline (s : Schema) {c : Value → Bool} (h : ∀ v, c v.outline = c v) :
    s.outline.properties.filter c = (s.properties.filter c).map Value.outline :=
  filter_map_of_eq h s.properties

/-- A value with the name of the schema that declares it. -/
def outlineProperty (q : String × Value) : String × Value := (q.1, q.2.outline)

theorem allProperties_outline (l : Lineage) :
    allProperties (outlineLineage l) = (allProperties l).map outlineProperty := by
  induction l with
  | nil => rfl
  | cons d ancestors ih =>
    obtain ⟨name, s⟩ := d
    have hcons : outlineLineage ((name, s) :: ancestors) =
        (name, s.outline) :: outlineLineage ancestors := rfl
    have hname (q : String × Value) : (fun v : Value => v.name == (outlineProperty q).2.name) ∘
        Value.outline = fun v => v.name == q.2.name := by
      funext v
      simp [outlineProperty]
    have hdeclared (q : String × Value) :
        (!s.outline.properties.any (·.name == (outlineProperty q).2.name)) =
          !s.properties.any (·.name == q.2.name) := by
      rw [Schema.outline, List.any_map, hname]
    have hown : s.outline.properties.map (name, ·) =
        (s.properties.map (name, ·)).map outlineProperty := by
      rw [Schema.outline, List.map_map, List.map_map]
      rfl
    have hinherited : ((allProperties ancestors).map outlineProperty).filter
        (fun q => !s.outline.properties.any (·.name == q.2.name)) =
          ((allProperties ancestors).filter
            fun q => !s.properties.any (·.name == q.2.name)).map outlineProperty := by
      refine filter_map_of_eq ?_ _
      exact hdeclared
    rw [hcons, allProperties, allProperties, ih, hinherited, hown, List.map_append]

/-! ### Reports -/

theorem problem?_outline (spec : Spec) (v : Value) :
    problem? spec.outline v.outline = problem? spec v := by
  unfold problem?
  rw [keys_outline, v.schema_outline, v.tag_outline, v.isDictionary_outline]
  cases v.schema with
  | none => rfl
  | some schema => cases schema <;> rfl

namespace Visit

def outline (x : Visit) : Visit := ⟨x.path, x.value.outline⟩

theorem report?_outline (spec : Spec) (x : Visit) :
    report? spec.outline x.outline = report? spec x := by
  rw [report?, report?, outline, problem?_outline]

theorem parts_outline (x : Visit) : x.outline.parts = x.parts.map outline := by
  have hpart (c : Bool) (v? : Option Value) (path : String) :
      (if c then (v?.map Value.outline).toList.map (Visit.mk path) else []) =
        (if c then v?.toList.map (Visit.mk path) else []).map outline := by
    cases c with
    | false => rfl
    | true => cases v? <;> rfl
  simp only [parts, outline, Value.isArray_outline, Value.items_outline,
    Value.isDictionary_outline, Value.element_outline, hpart, List.map_append, List.map_cons,
    List.map_nil]

theorem reports_outline (spec : Spec) (xs : List Visit) :
    reports spec.outline (xs.map outline) = reports spec xs := by
  have hparts : (xs.map outline).flatMap parts = (xs.flatMap parts).map outline := by
    rw [List.flatMap_map, List.map_flatMap]
    exact List.flatMap_congr fun x _ => parts_outline x
  rw [reports, hparts, List.filterMap_map]
  exact List.filterMap_congr fun x _ => report?_outline spec x

theorem inScope_outline (scope : String) (v : Value) :
    inScope scope v.outline = (inScope scope v).outline := by
  rw [inScope, v.name_outline]
  rfl

theorem response?_outline (o : Operation) (r : Response) :
    response? o.outline r.outline = (response? o r).map outline := by
  obtain ⟨status, description, schema⟩ := r
  cases schema <;> rfl

theorem ofOperation_outline (o : Operation) :
    ofOperation o.outline = (ofOperation o).map outline := by
  have hparameters : (o.parameters.map Parameter.outline).map
      (fun q => inScope (operationId o) q.value) =
        (o.parameters.map fun q => inScope (operationId o) q.value).map outline := by
    rw [List.map_map, List.map_map]
    exact List.map_congr_left fun q _ => inScope_outline (operationId o) q.value
  have hresponses : (o.responses.map Response.outline).filterMap (response? o.outline) =
      (o.responses.filterMap (response? o)).map outline := by
    rw [List.filterMap_map, List.map_filterMap]
    exact List.filterMap_congr fun r _ => response?_outline o r
  rw [ofOperation, ofOperation, List.map_append, ← hparameters, ← hresponses]
  rfl

theorem ofSchema_outline (d : String × Schema) :
    ofSchema (outlineEntry d) = (ofSchema d).map outline := by
  have hrequired : d.2.outline.requiredProperties = d.2.requiredProperties.map Value.outline :=
    properties_outline d.2 Value.required_outline
  have hoptional : d.2.outline.optionalProperties = d.2.optionalProperties.map Value.outline :=
    properties_outline d.2 fun v => congrArg (!·) v.required_outline
  rw [ofSchema, ofSchema, outlineEntry, hrequired, hoptional, ← List.map_append, List.map_map,
    List.map_map]
  exact List.map_congr_left fun v _ => inScope_outline d.1 v

theorem ofLineage_outline (l : Lineage) :
    ofLineage (outlineLineage l) = (ofLineage l).map outline := by
  rw [ofLineage, ofLineage, outlineLineage, ← List.map_reverse, List.flatMap_map, List.map_flatMap]
  exact List.flatMap_congr fun d _ => ofSchema_outline d

/-- The same is visited, at the same paths. -/
theorem all_outline (spec : Spec) (lineages : List Lineage) :
    all spec.outline (lineages.map outlineLineage) = (all spec lineages).map outline := by
  have hoperations : spec.outline.operations.flatMap ofOperation =
      (spec.operations.flatMap ofOperation).map outline := by
    rw [Spec.outline, List.flatMap_map, List.map_flatMap]
    exact List.flatMap_congr fun o _ => ofOperation_outline o
  have hdefinitions : (lineages.map outlineLineage).flatMap ofLineage =
      (lineages.flatMap ofLineage).map outline := by
    rw [List.flatMap_map, List.map_flatMap]
    exact List.flatMap_congr fun l _ => ofLineage_outline l
  have henums : spec.outline.enums.map (inScope "") =
      (spec.enums.map (inScope "")).map outline := by
    rw [Spec.outline, List.map_map, List.map_map]
    exact List.map_congr_left fun v _ => inScope_outline "" v
  rw [all, all, hoperations, hdefinitions, henums, List.map_append, List.map_append]

end Visit

end ApiContext
