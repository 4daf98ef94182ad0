import ApiContext.Proofs.OperationMappings
import ApiContext.Proofs.Positions
import ApiContext.Proofs.Profiles
import ApiContext.Proofs.ValueMappings

/-! The names of types in a context that was compiled without diagnostics. Every value of the
context is one that the compilation visits, and a visit without a report types the value and its
element. -/
namespace ApiContext
open Model Resolve

/-- What the name of a value's type stands for. A reference shows the type of the definition that it
was looked up to; the owner names an inline schema without title. -/
inductive Resolved (spec : Spec) (p : Profile) (c : Compilation) (v : Value) (owner : String) :
    String → Prop
  | primitive {tag} : v.schema = none → v.tag = some tag → tag ∈ primitiveTags →
      Resolved spec p c v owner tag
  | object : v.schema = none → v.tag = some "object" → v.element.isSome →
      Resolved spec p c v owner "object"
  | reference {reference d t name} : v.schema = some (.ref reference) →
      spec.definition? reference = some d → c.definition? spec d.1 = some t →
      t.get? "type" = some (.text name) → Resolved spec p c v owner name
  | inline {s} : v.schema = some (.inline s) →
      Resolved spec p c v owner (p.typeName (s.title.getD owner))

/-- The mapping of a value names its type and, where it names one, that of its element. -/
structure TypedValue (spec : Spec) (p : Profile) (c : Compilation) (v : Value) (owner : String)
    (t : Context) : Prop where
  type : ∃ name, t.get? "type" = some (.text name) ∧ Resolved spec p c v owner name
  arrayType {u : Context} : t.get? "arrayType" = some u → ∃ item name, v.items = some item ∧
    u = .text name ∧ Resolved spec p c item (owner ++ " item") name
  dictionaryType {u : Context} : t.get? "dictionaryType" = some u → ∃ element name,
    v.element = some element ∧ u = .text name ∧ Resolved spec p c element (owner ++ " value") name

/-- The mapping of an operation names no type but that of the body of its first success. -/
def TypedOperation (spec : Spec) (p : Profile) (c : Compilation) (o : Operation) (t : Context) :
    Prop :=
  ∀ u, t.get? "successType" = some u → ∃ r v name, o.successResponse = some r ∧
    r.schema = some v ∧ u = .text name ∧
      Resolved spec p c v (Draft.bodyOwner v (operationId o)) name

/-- Neither the value nor its element is due a report. -/
structure Model.Value.Typable (spec : Spec) (v : Value) : Prop where
  self : problem? spec v = none
  items {item : Value} : v.isArray → v.items = some item → problem? spec item = none
  element {element : Value} : v.isDictionary → v.element = some element →
    problem? spec element = none

/-! ### The values of an origin -/

def Model.Operation.values (o : Operation) : List Value :=
  o.parameters.map (·.value) ++ o.responses.filterMap (·.schema)

def lineageValues (l : Lineage) : List Value := l.flatMap (·.2.properties)

/-- All values in an origin; the items of a value belong to it. -/
def Origin.values : Origin → List Value
  | description spec => spec.operations.flatMap Operation.values ++
      (spec.definitions.entries.flatMap fun d => lineageValues (d :: (spec.lineageOf d).tail)) ++
        spec.enums
  | tag _ _ os => os.flatMap Operation.values
  | operation o => o.values
  | response _ r => r.schema.toList
  | schema d ancestors => lineageValues (d :: ancestors)
  | value v _ _ => [v]

def Origins.allValues : Origins → List Value
  | absent => []
  | one o => o.values
  | many os => os.flatMap Origin.values

theorem allValues_many {α : Type} (f : α → Origin) (l : List α) :
    (Origins.many (l.map f)).allValues = l.flatMap fun a => (f a).values :=
  List.flatMap_map ..

theorem allValues_values (vs : List Value) : (Origins.values vs).allValues = vs := by
  rw [Origins.values, allValues_many]
  exact List.flatMap_singleton' vs

theorem allValues_parameters (qs : List Parameter) :
    (Origins.parameters qs).allValues = qs.map (·.value) := by
  rw [Origins.parameters, allValues_many]
  exact List.map_eq_flatMap.symm

theorem allValues_parent (l : Lineage) : (Origins.parent l).allValues = lineageValues l := by
  cases l <;> rfl

theorem allValues_operations (os : List Operation) :
    (Origins.operations os).allValues = os.flatMap Operation.values :=
  allValues_many _ os

theorem mem_allValues_ofOption {α : Type} {f : α → Origin} {o : Option α} {v : Value}
    (h : v ∈ (Origins.ofOption (o.map f)).allValues) : ∃ a, o = some a ∧ v ∈ (f a).values := by
  cases o with
  | none => cases h
  | some a => exact ⟨a, rfl, h⟩

section operation
variable {o : Operation} {v : Value}

theorem mem_values_of_parameter {q : Parameter} (hq : q ∈ o.parameters) : q.value ∈ o.values :=
  List.mem_append_left _ (List.mem_map_of_mem hq)

theorem mem_values_of_response {r : Response} (hr : r ∈ o.responses) (hv : r.schema = some v) :
    v ∈ o.values :=
  List.mem_append_right _ (List.mem_filterMap.mpr ⟨r, hr, hv⟩)

theorem mem_values_of_parameters {qs : List Parameter} (hqs : ∀ q ∈ qs, q ∈ o.parameters)
    (hv : v ∈ (Origins.parameters qs).allValues) : v ∈ o.values := by
  rw [allValues_parameters] at hv
  obtain ⟨q, hq, rfl⟩ := List.mem_map.mp hv
  exact mem_values_of_parameter (hqs q hq)

theorem mem_values_of_group (c : Parameter → Bool)
    (hv : v ∈ (Origins.parameters (o.parameters.filter c)).allValues) : v ∈ o.values :=
  mem_values_of_parameters (fun _ hq => (List.mem_filter.mp hq).1) hv

end operation

/-- Under a key stand no other values than those of the origin. -/
theorem Origin.values_of_field (o : Origin) :
    ∀ e ∈ o.fields, ∀ v ∈ e.2.allValues, v ∈ o.values := by
  cases o with
  | description spec =>
    simp only [fields, List.forall_mem_cons, allValues_operations, allValues_values,
      allValues_many]
    refine ⟨?_, ?_, ?_, ?_, by simp⟩
    · intro v hv
      exact List.mem_append_left _ (List.mem_append_left _ hv)
    · intro v hv
      obtain ⟨g, hg, hv⟩ := List.mem_flatMap.mp hv
      obtain ⟨o, ho, hv⟩ := List.mem_flatMap.mp hv
      have ho := Draft.mem_of_mem_tagged (List.mem_flatMap.mpr ⟨g, hg, ho⟩)
      exact List.mem_append_left _ (List.mem_append_left _ (List.mem_flatMap.mpr ⟨o, ho, hv⟩))
    · intro v hv
      exact List.mem_append_left _ (List.mem_append_right _ hv)
    · intro v hv
      exact List.mem_append_right _ hv
  | tag spec name os =>
    simp only [fields, List.forall_mem_cons, allValues_operations]
    exact ⟨fun v hv => hv, by simp⟩
  | operation o =>
    simp only [fields, List.forall_mem_cons, allValues_many]
    refine ⟨fun _ => mem_values_of_parameters fun _ hq => hq, fun _ => mem_values_of_group _, ?_,
      fun _ => mem_values_of_group _, fun _ => mem_values_of_group _,
      fun _ => mem_values_of_group _, fun _ => mem_values_of_group _,
      fun _ => mem_values_of_group _, ?_, ?_, by simp⟩
    · intro v hv
      obtain ⟨q, hq, hv⟩ := mem_allValues_ofOption hv
      obtain rfl := List.mem_singleton.mp hv
      exact mem_values_of_parameter (List.mem_filter.mp (List.mem_of_head? hq)).1
    · intro v hv
      obtain ⟨r, hr, hv⟩ := List.mem_flatMap.mp hv
      exact mem_values_of_response hr (Option.mem_toList.mp hv)
    · intro v hv
      obtain ⟨r, hr, hv⟩ := mem_allValues_ofOption hv
      exact mem_values_of_response (List.mem_of_find?_eq_some hr) (Option.mem_toList.mp hv)
  | response o r =>
    simp only [fields, List.forall_mem_cons]
    refine ⟨?_, by simp⟩
    intro v hv
    obtain ⟨body, hbody, hv⟩ := mem_allValues_ofOption hv
    obtain rfl := List.mem_singleton.mp hv
    exact Option.mem_toList.mpr hbody
  | schema d ancestors =>
    have hown {v : Value} (hv : v ∈ d.2.properties) : v ∈ lineageValues (d :: ancestors) :=
      List.mem_append_left _ hv
    simp only [fields, List.forall_mem_cons, allValues_values, allValues_parent]
    refine ⟨?_, ?_, ?_, fun v => hown, ?_, ?_, by simp⟩
    · intro v hv
      exact List.mem_append_right _ hv
    · intro v hv
      exact hown (List.mem_filter.mp hv).1
    · intro v hv
      exact hown (List.mem_filter.mp hv).1
    · intro v hv
      obtain ⟨q, hq, rfl⟩ := List.mem_map.mp hv
      obtain ⟨e, he, hdeclared, _⟩ := exists_declaring hq
      exact List.mem_flatMap.mpr ⟨e, he, hdeclared⟩
    · intro v hv
      exact hown (List.mem_filter.mp hv).1
  | value v owner location => simp [fields]

theorem values_step? {x y : Origins} {s : Step} (h : x.step? s = some y) :
    ∀ v ∈ y.allValues, v ∈ x.allValues := by
  cases x with
  | absent => cases h
  | one o =>
    cases s with
    | key name => exact o.values_of_field _ (Entries.mem_of_lookup h)
    | index i => cases h
  | many os =>
    cases s with
    | key name => cases h
    | index i =>
      obtain ⟨o, ho, rfl⟩ := Option.map_eq_some_iff.mp h
      intro v hv
      exact List.mem_flatMap.mpr ⟨o, List.mem_of_getElem? ho, hv⟩

/-- No path leads to other values than those at which it starts. -/
theorem values_follow? {x y : Origins} {path : List Step} (h : x.follow? path = some y) :
    ∀ v ∈ y.allValues, v ∈ x.allValues := by
  induction path generalizing x with
  | nil =>
    obtain rfl := Option.some.inj h
    exact fun v hv => hv
  | cons s rest ih =>
    obtain ⟨z, hz, h⟩ := Option.bind_eq_some_iff.mp h
    intro v hv
    exact values_step? hz v (ih h v hv)

/-! ### Names of types -/

section compiled
variable {spec : Spec} {p : Profile} {c : Compilation} {v : Value} {owner : String}
variable {events : List Event}

theorem exists_definition_type {j : Journal} (h : ((compile spec p).run j).1 = .ok c)
    {d : String × Schema} (hd : d ∈ spec.definitions.entries) :
    ∃ t, c.definition? spec d.1 = some t ∧ t.get? "type" = some (.text (p.typeName d.1)) := by
  obtain ⟨l, ⟨last, ha, _⟩, ht⟩ := definition?_eq_prune h hd
  obtain ⟨ancestors, rfl⟩ := ha.exists_cons
  exact ⟨schemaTree p d ancestors, ht, get?_schemaTree p d ancestors "type"⟩

/-- A value without problem is typed. -/
theorem resolved_typeText {j : Journal} (h : ((compile spec p).run j).1 = .ok c)
    (hv : problem? spec v = none) (owner : String) :
    Resolved spec p c v owner (Draft.typeText p v owner) := by
  unfold problem? at hv
  unfold Draft.typeText
  cases hs : v.schema with
  | some schema =>
    cases schema with
    | inline s => exact .inline hs
    | ref reference =>
      have hk : refName reference ∈ spec.definitions.keys := by
        by_contra hk
        simp [hs, hk] at hv
      cases hd : spec.definition? reference with
      | none => exact absurd hk ((spec.definition?_eq_none_iff reference).mp hd)
      | some d =>
        obtain ⟨t, ht, htype⟩ := exists_definition_type h (Spec.mem_entries_of_definition? hd)
        rw [Spec.name_of_definition? hd] at htype
        exact .reference hs hd ht htype
  | none =>
    cases ht : v.tag with
    | none => simp [hs, ht] at hv
    | some tag =>
      have hor : tag ∈ primitiveTags ∨ v.isDictionary := by
        by_contra hor
        simp [hs, ht, hor] at hv
      cases hor with
      | inl htag => exact .primitive hs ht htag
      | inr hdictionary =>
        have htag : v.tag = some "object" := by
          simp only [Value.isDictionary, Bool.and_eq_true, beq_iff_eq] at hdictionary
          exact hdictionary.1
        obtain rfl := Option.some.inj (ht.symm.trans htag)
        exact .object hs ht (v.isSome_element hdictionary)

theorem typedValue_locatedTree {j : Journal} (h : ((compile spec p).run j).1 = .ok c)
    (hv : v.Typable spec) (owner : String) (location : Option Location) :
    TypedValue spec p c v owner (Draft.locatedTree p v owner location) where
  type := ⟨_, Draft.get?_locatedTree_value (by decide) (by decide),
    resolved_typeText h hv.self owner⟩
  arrayType := by
    intro u hu
    rw [Draft.get?_arrayType] at hu
    obtain ⟨name, hname, rfl⟩ := Option.map_eq_some_iff.mp hu
    obtain ⟨ha, hname⟩ := Option.ite_none_right_eq_some.mp hname
    obtain ⟨item, hitem, rfl⟩ := Option.map_eq_some_iff.mp hname
    exact ⟨item, _, hitem, rfl, resolved_typeText h (hv.items ha hitem) _⟩
  dictionaryType := by
    intro u hu
    rw [Draft.get?_dictionaryType] at hu
    obtain ⟨name, hname, rfl⟩ := Option.map_eq_some_iff.mp hu
    obtain ⟨ha, hname⟩ := Option.ite_none_right_eq_some.mp hname
    obtain ⟨element, helement, rfl⟩ := Option.map_eq_some_iff.mp hname
    exact ⟨element, _, helement, rfl, resolved_typeText h (hv.element ha helement) _⟩

theorem typedOperation_ofOperation {j : Journal} (h : ((compile spec p).run j).1 = .ok c)
    {o : Operation} (ho : ∀ v ∈ o.values, problem? spec v = none) {t : Context}
    (ht : (Draft.ofOperation p o).prune = some t) : TypedOperation spec p c o t := by
  intro u hu
  have htree : (Draft.ofOperation p o).tree = t := Option.some.inj ht
  have hsuccess := Draft.get?_successType (p := p) (o := o)
  rw [htree, hu] at hsuccess
  obtain ⟨name, hname, rfl⟩ := Option.map_eq_some_iff.mp hsuccess.symm
  obtain ⟨v, hv, rfl⟩ := Option.map_eq_some_iff.mp hname
  obtain ⟨r, hr, hv⟩ := Option.bind_eq_some_iff.mp hv
  have hmem := mem_values_of_response (List.mem_of_find?_eq_some hr) hv
  exact ⟨r, v, _, hr, hv, rfl, resolved_typeText h (ho v hmem) _⟩

/-! ### Visits without reports -/

theorem typable_of_reports {x : Visit} (h : Visit.reports spec [x] = []) :
    x.value.Typable spec := by
  have hpart (part : Part) {y : Visit} (hy : part.visit? x = some y) :
      problem? spec y.value = none := by
    have hmem : y ∈ [x].flatMap Visit.parts := by
      simpa using Visit.mem_parts.mpr ⟨part, hy⟩
    exact Option.map_eq_none_iff.mp (List.filterMap_eq_nil_iff.mp h y hmem)
  refine ⟨hpart .self rfl, ?_, ?_⟩
  · intro item ha hitem
    exact hpart .items (y := ⟨x.path ++ ".items", item⟩) (by simp [Part.visit?, ha, hitem])
  · intro element hd helement
    exact hpart .element (y := ⟨x.path ++ ".additionalProperties", element⟩)
      (by simp [Part.visit?, hd, helement])

/-- Every value of a description that compiles is visited. -/
theorem exists_visit {j : Journal} (h : ((compile spec p).run j).1 = .ok c)
    (hv : v ∈ (Origin.description spec).values) :
    ∃ x ∈ Visit.all spec (spec.definitions.entries.map spec.lineageOf), x.value = v := by
  rw [Origin.values, List.mem_append, List.mem_append, or_assoc] at hv
  obtain hv | hv | hv := hv
  · obtain ⟨o, ho, hv⟩ := List.mem_flatMap.mp hv
    have hvisit : ∃ x ∈ Visit.ofOperation o, x.value = v := by
      cases List.mem_append.mp hv with
      | inl hv =>
        obtain ⟨q, hq, rfl⟩ := List.mem_map.mp hv
        exact ⟨_, List.mem_append_left _ (List.mem_map_of_mem hq), rfl⟩
      | inr hv =>
        obtain ⟨r, hr, hv⟩ := List.mem_filterMap.mp hv
        exact ⟨_, List.mem_append_right _ (List.mem_filterMap.mpr
          ⟨r, hr, Option.map_eq_some_iff.mpr ⟨v, hv, rfl⟩⟩), rfl⟩
    obtain ⟨x, hx, rfl⟩ := hvisit
    have hmem : x ∈ spec.operations.flatMap Visit.ofOperation := List.mem_flatMap.mpr ⟨o, ho, hx⟩
    exact ⟨x, List.mem_append_left _ (List.mem_append_left _ hmem), rfl⟩
  · obtain ⟨d, hd, hv⟩ := List.mem_flatMap.mp hv
    rw [cons_tail_lineageOf h hd] at hv
    obtain ⟨e, he, hv⟩ := List.mem_flatMap.mp hv
    have hx : Visit.inScope e.1 v ∈ Visit.ofLineage (spec.lineageOf d) :=
      Visit.mem_ofLineage_iff.mpr ⟨e, he, v, hv, rfl⟩
    exact ⟨_, List.mem_append_left _ (List.mem_append_right _ (List.mem_flatMap.mpr
      ⟨_, List.mem_map_of_mem hd, hx⟩)), rfl⟩
  · exact ⟨_, List.mem_append_right _ (List.mem_map_of_mem hv), rfl⟩

theorem typable_of_diagnostics (h : ((compile spec p).run ⟨[], events⟩).1 = .ok c)
    (hc : c.diagnostics = []) (hv : v ∈ (Origin.description spec).values) : v.Typable spec := by
  obtain ⟨x, hx, rfl⟩ := exists_visit h hv
  obtain ⟨lineages, hl, hd⟩ := diagnostics_eq_eraseDups h
  obtain rfl := lineages_eq_map hl
  refine typable_of_reports (List.eq_nil_iff_forall_not_mem.mpr ?_)
  intro d hr
  have hmem : d ∈ c.diagnostics := by
    rw [hd, List.mem_eraseDups]
    exact Visit.mem_reports.mpr ⟨x, hx, hr⟩
  rw [hc] at hmem
  cases hmem

/-- In a context without diagnostics every mapping of a value and every mapping of an operation is
typed by what the same path leads to in the description. -/
theorem resolved_types (h : ((compile spec p).run ⟨[], events⟩).1 = .ok c)
    (hc : c.diagnostics = []) (path : List Step) (es : Entries Context)
    (ht : c.context.follow? path = some (.mapping es)) :
    (Kind.description.along path = .value → ∃ v owner location,
      spec.originAt? path = some (.value v owner location) ∧
        TypedValue spec p c v owner (.mapping es)) ∧
    (Kind.description.along path = .operation → ∃ o,
      spec.originAt? path = some (.operation o) ∧ TypedOperation spec p c o (.mapping es)) := by
  -- The path leads to values of the description only, and all of these are visited.
  have hvalues {o : Origin} (ho : spec.originAt? path = some o) :
      ∀ v ∈ o.values, v.Typable spec := by
    intro v hv
    exact typable_of_diagnostics h hc (values_follow? (originAt?_eq_some_iff.mp ho) v hv)
  constructor
  · intro hk
    obtain ⟨v, owner, location, ho, hes⟩ := exists_value h hk ht
    have hv := hvalues ho v (List.mem_singleton.mpr rfl)
    rw [hes]
    exact ⟨v, owner, location, ho, typedValue_locatedTree h hv owner location⟩
  · intro hk
    obtain ⟨o, ho, hkind⟩ := exists_originAt h (hk ▸ rfl) ht
    rw [hk] at hkind
    cases o with
    | operation o =>
      have htree := (follow?_originAt h ho).symm.trans ht
      exact ⟨o, ho, typedOperation_ofOperation h (fun v hv => (hvalues ho v hv).self) htree⟩
    | _ => cases hkind

end compiled

/-- A body of dogs, which are defined. -/
def litter : Value := { Value.plain "" (some "array") with
  items := some { Value.plain "" none with schema := some (.ref "#/definitions/Dog") } }

def breeder : Spec := .plain
  [⟨.get, "/dogs", some "getDogs", none, none, [], [], [⟨some 200, none, some litter⟩], [], false⟩]
  ⟨[("Dog", ⟨none, none, none, [.plain "name" (some "string")]⟩)], by decide⟩ []

theorem resolved_types_breeder : ∃ c t u, ((compile breeder noDogs).run .empty).1 = .ok c ∧
    c.diagnostics = [] ∧
    c.context.follow? [.key "operations", .index 0] = some t ∧
    (∃ o, breeder.operations = [o] ∧ TypedOperation breeder noDogs c o t) ∧
    c.context.follow? [.key "operations", .index 0, .key "successResponse", .key "schema"] =
      some u ∧
    TypedValue breeder noDogs c litter "getDogs response" u ∧
    u.get? "arrayType" = some (.text "_Dog") := by
  have hlineages : List.Forall₂ (Ancestry breeder) breeder.definitions.entries
      [breeder.definitions.entries] := .cons ⟨_, .here _, rfl⟩ .nil
  obtain ⟨c, hc⟩ : ∃ c, ((compile breeder noDogs).run .empty).1 = .ok c :=
    ⟨_, compile_eq_ok_iff.mpr ⟨_, hlineages, rfl⟩⟩
  have hclean : c.diagnostics = [] := by
    obtain ⟨lineages, hl, hd⟩ := compile_diagnostics hc
    obtain rfl := ancestries_unique hl hlineages
    refine hd.trans ?_
    decide
  have hop : breeder.originAt? [.key "operations", .index 0] =
      some (.operation breeder.operations[0]) := rfl
  have hbody : breeder.originAt?
      [.key "operations", .index 0, .key "successResponse", .key "schema"] =
        some (.value litter "getDogs response" none) := rfl
  have ht := follow?_originAt hc hop
  have hu := follow?_value hc hbody
  obtain ⟨o, ho, htyped⟩ := (resolved_types hc hclean _ _ ht).2 rfl
  obtain rfl := Origin.operation.inj (Option.some.inj (ho.symm.trans hop))
  obtain ⟨v, owner, location, ho, hvalue⟩ := (resolved_types hc hclean _ _ hu).1 rfl
  obtain ⟨rfl, rfl, rfl⟩ := Origin.value.inj (Option.some.inj (ho.symm.trans hbody))
  exact ⟨c, _, _, hc, hclean, ht, ⟨_, rfl, htyped⟩, hu, hvalue, Draft.get?_arrayType⟩

end ApiContext
