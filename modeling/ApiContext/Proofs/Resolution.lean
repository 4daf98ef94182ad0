import ApiContext.Proofs.Drafts
import ApiContext.Proofs.Notes
import ApiContext.Proofs.Visits

/-! What each resolver yields: the draft that the profile determines, and the reports that its
values are due under their own paths. -/
namespace ApiContext.Resolve
open Model
variable {env : Environment}

def reporting (ds : List Diagnostic) : List Note := ds.map .report

theorem reported_reporting (ds : List Diagnostic) : reported (reporting ds) = ds := by
  induction ds with
  | nil => rfl
  | cons d rest ih => exact congrArg (d :: ·) ih

theorem logged_reporting (ds : List Diagnostic) : logged (reporting ds) = [] := by
  induction ds with
  | nil => rfl
  | cons d rest ih => exact ih

theorem reporting_append (ds es : List Diagnostic) :
    reporting (ds ++ es) = reporting ds ++ reporting es :=
  List.map_append

theorem reporting_flatMap {α : Type} (f : α → List Diagnostic) (l : List α) :
    reporting (l.flatMap f) = l.flatMap fun a => reporting (f a) :=
  List.map_flatMap

/-! ### Values -/

/-- A definition has the name by which it was found, so a reference is typed alike in both cases. -/
theorem yields_reference (reference owner path : String) :
    Yields env (schemaType (.ref reference) owner path) (env.profile.typeName (refName reference))
      (reporting (if refName reference ∈ env.spec.definitions.keys then []
        else [⟨path, .unknownReference reference⟩])) := by
  unfold schemaType
  apply Yields.of_read
  dsimp only
  cases hd : env.spec.definition? reference with
  | none =>
    rw [if_neg ((Spec.definition?_eq_none_iff env.spec reference).mp hd)]
    exact (yields_report path _).bind (yields_pure _)
  | some d =>
    have hk : refName reference ∈ env.spec.definitions.keys := by
      by_contra hk
      rw [(Spec.definition?_eq_none_iff env.spec reference).mpr hk] at hd
      cases hd
    rw [if_pos hk, ← Spec.name_of_definition? hd]
    exact yields_pure _

theorem yields_type (v : Value) (owner path : String) :
    Yields env (type v owner path) (Draft.typeText env.profile v owner)
      (reporting (Visit.report? env.spec ⟨path, v⟩).toList) := by
  unfold type Draft.typeText Visit.report? problem?
  cases hs : v.schema with
  | some schema =>
    cases schema with
    | inline s => exact fun _ => rfl
    | ref reference =>
      have h : Yields env _ _ _ := yields_reference reference owner path
      by_cases hk : refName reference ∈ env.spec.definitions.keys
      · simpa [hk] using h
      · simpa [hk] using h
  | none =>
    cases ht : v.tag with
    | none => exact fun _ => rfl
    | some tag =>
      by_cases hp : tag ∈ primitiveTags ∨ v.isDictionary
      · have hb : (primitiveTags.contains tag || v.isDictionary) = true := by simpa using hp
        simp only [hb, if_pos hp]
        exact fun _ => rfl
      · have hb : (primitiveTags.contains tag || v.isDictionary) = false := by simpa using hp
        simp only [hb, if_neg hp]
        exact fun _ => rfl

/-- The type of an element, where a value has one. -/
theorem yields_elementType (b : Bool) (element : Option Value) (owner path : String) :
    Yields env (if b then element.mapM (type · owner path) else pure none)
      (if b then element.map (Draft.typeText env.profile · owner) else none)
      (reporting ((if b then element.toList.map (⟨path, ·⟩) else []).filterMap
        (Visit.report? env.spec))) := by
  cases b with
  | false => exact yields_pure none
  | true =>
    cases element with
    | none => exact yields_pure none
    | some v =>
      have h : Yields env _ _ _ := (yields_type v owner path).map some
      cases hr : Visit.report? env.spec ⟨path, v⟩ with
      | none => simpa [hr] using h
      | some d => simpa [hr] using h

theorem yields_valueEntries (v : Value) (owner path : String) :
    Yields env (valueEntries v owner path) (Draft.valueFields env.profile v owner)
      (reporting (Visit.reports env.spec [⟨path, v⟩])) := by
  rw [Visit.reports_singleton, reporting_append, reporting_append,
    ← List.append_nil (reporting (List.filterMap _ (if v.isDictionary then _ else _)))]
  unfold valueEntries
  apply Yields.of_read
  refine (yields_type v owner path).bind ?_
  refine (yields_elementType v.isArray v.items _ _).bind_ite ?_
  refine (yields_elementType v.isDictionary v.element _ _).bind_ite ?_
  exact yields_pure _

theorem yields_value (v : Value) (scope : String) :
    Yields env (value v scope) (Draft.ofValue env.profile v)
      (reporting (Visit.reports env.spec [.inScope scope v])) := by
  have h : Yields env _ _ _ :=
    (yields_valueEntries v v.name (qualify scope v.name)).map Draft.mapping
  rwa [map_eq_pure_bind] at h

theorem yields_parameter (q : Parameter) (scope : String) :
    Yields env (parameter q scope) (Draft.ofParameter env.profile q)
      (reporting (Visit.reports env.spec [.inScope scope q.value])) := by
  have h : Yields env _ _ _ := (yields_valueEntries q.value q.value.name
    (qualify scope q.value.name)).map fun entries => Draft.mapping <|
      Entries.set "raw" (raw q.toJson) <|
        Entries.set "parameterType" (.text q.location.label) entries
  rwa [map_eq_pure_bind] at h

/-- Values of one list, each in its own scope. -/
theorem yields_properties (ps : List (String × Value)) :
    Yields env (properties ps) (Draft.ofValues env.profile (ps.map (·.2)))
      (reporting (Visit.reports env.spec (ps.map fun p => .inScope p.1 p.2))) := by
  have h : Yields env _ _ _ := (yields_mapM (f := fun p : String × Value => value p.2 p.1) _ _
    (l := ps) fun p _ => yields_value p.2 p.1).map Draft.sequence
  rw [map_eq_pure_bind] at h
  rw [Visit.reports_map, reporting_flatMap, Draft.ofValues, List.map_map]
  exact h

/-! ### Operations -/

theorem yields_response (o : Operation) (r : Response) :
    Yields env (response r (operationId o)) (Draft.ofResponse env.profile r (operationId o))
      (reporting (Visit.reports env.spec (Visit.response? o r).toList)) := by
  have h : Yields env _ _ _ := yields_mapM_option (o := r.schema)
    (f := fun v => valueEntries v (Draft.bodyOwner v (operationId o))
      (operationId o ++ ".responses." ++ statusText r.status)) _ _ fun v _ =>
        yields_valueEntries v _ _
  have hnotes : reporting (Visit.reports env.spec (Visit.response? o r).toList) =
      r.schema.toList.flatMap fun v => reporting (Visit.reports env.spec
        [⟨operationId o ++ ".responses." ++ statusText r.status, v⟩]) := by
    unfold Visit.response?
    cases r.schema with
    | none => rfl
    | some v => simp
  rw [hnotes, ← List.append_nil (List.flatMap _ _)]
  exact h.bind (yields_pure _)

theorem yields_operation (o : Operation) :
    Yields env (operation o) (Draft.ofOperation env.profile o)
      (.log (.resolvingOperation (operationId o)) ::
        reporting (Visit.reports env.spec (Visit.ofOperation o))) := by
  have hparams : Yields env _ _ _ := yields_mapM (l := o.parameters)
    (f := fun q => do return (q, ← parameter q (operationId o))) _ _ fun q _ =>
      (yields_parameter q (operationId o)).bind (yields_pure (q, Draft.ofParameter env.profile q))
  have hresponses : Yields env _ _ _ := yields_mapM (l := o.responses)
    (f := fun r => do return (r, ← response r (operationId o))) _ _ fun r _ =>
      (yields_response o r).bind (yields_pure (r, Draft.ofResponse env.profile r (operationId o)))
  have hnotes : Note.log (.resolvingOperation (operationId o)) ::
      reporting (Visit.reports env.spec (Visit.ofOperation o)) =
      [.log (.resolvingOperation (operationId o))] ++
        ((o.parameters.flatMap fun q =>
            reporting (Visit.reports env.spec [.inScope (operationId o) q.value]) ++ []) ++
          ((o.responses.flatMap fun r =>
            reporting (Visit.reports env.spec (Visit.response? o r).toList) ++ []) ++ [])) := by
    simp only [Visit.ofOperation, List.filterMap_eq_flatMap_toList, Visit.reports_append,
      Visit.reports_map, Visit.reports_flatMap, reporting_append, reporting_flatMap,
      List.append_nil, List.singleton_append]
  rw [hnotes]
  unfold operation
  refine (yields_log _).bind ?_
  refine hparams.bind ?_
  refine hresponses.bind ?_
  exact yields_pure _

/-! ### Schemas -/

/-- The notes on a list of properties, each in the scope of the schema that declares it. -/
def propertyNotes (spec : Spec) (ps : List (String × Value)) : List Note :=
  reporting (Visit.reports spec (ps.map fun p => .inScope p.1 p.2))

/-- Ancestors come first; then the properties are gone through once for each list they are in. -/
def lineageNotes (spec : Spec) : Lineage → List Note
  | [] => []
  | (name, s) :: ancestors =>
    .log (.resolvingSchema name) :: (lineageNotes spec ancestors
      ++ propertyNotes spec (declaredBy name s.requiredProperties)
      ++ propertyNotes spec (declaredBy name s.optionalProperties)
      ++ propertyNotes spec (declaredBy name s.properties)
      ++ propertyNotes spec (allProperties ((name, s) :: ancestors))
      ++ propertyNotes spec (declaredBy name s.enums))

theorem yields_declaredBy (name : String) (vs : List Value) :
    Yields env (properties (declaredBy name vs)) (Draft.ofValues env.profile vs)
      (propertyNotes env.spec (declaredBy name vs)) := by
  have h : Yields env _ _ _ := yields_properties (declaredBy name vs)
  rwa [declaredBy, List.map_map, List.map_id''] at h
  exact fun _ => rfl

theorem yields_schemaOf (l : Lineage) :
    Yields env (schemaOf l) (Draft.ofLineage env.profile l) (lineageNotes env.spec l) := by
  induction l with
  | nil => exact yields_pure _
  | cons d ancestors ih =>
    obtain ⟨name, s⟩ := d
    have hnotes : lineageNotes env.spec ((name, s) :: ancestors) =
        [.log (.resolvingSchema name)] ++ (lineageNotes env.spec ancestors
          ++ (propertyNotes env.spec (declaredBy name s.requiredProperties)
          ++ (propertyNotes env.spec (declaredBy name s.optionalProperties)
          ++ (propertyNotes env.spec (declaredBy name s.properties)
          ++ (propertyNotes env.spec (allProperties ((name, s) :: ancestors))
          ++ (propertyNotes env.spec (declaredBy name s.enums) ++ [])))))) := by
      simp [lineageNotes]
    rw [hnotes]
    unfold schemaOf
    refine (yields_log _).bind ?_
    apply Yields.of_read
    refine ih.bind ?_
    refine (yields_declaredBy name s.requiredProperties).bind ?_
    refine (yields_declaredBy name s.optionalProperties).bind ?_
    refine (yields_declaredBy name s.properties).bind ?_
    refine (yields_properties (allProperties ((name, s) :: ancestors))).bind ?_
    refine (yields_declaredBy name s.enums).bind ?_
    exact yields_pure _

/-- The draft of a schema, or why it has none. -/
def schemaDraft (env : Environment) (d : String × Schema) : Except CompileError Draft :=
  (lineage env.spec d.1 d.2).map (Draft.ofLineage env.profile)

/-- A schema without a lineage leaves no note. -/
def schemaNotes (spec : Spec) (d : String × Schema) : List Note :=
  match lineage spec d.1 d.2 with
  | .ok l => lineageNotes spec l
  | .error _ => []

theorem yields_schema (d : String × Schema) :
    Yields env (schema d.1 d.2).run (schemaDraft env d) (schemaNotes env.spec d) := by
  have hread : Yields env (read : ExceptT CompileError Resolve Environment).run (.ok env) [] :=
    fun _ => rfl
  unfold schema schemaDraft schemaNotes
  rw [ExceptT.run_bind]
  cases h : lineage env.spec d.1 d.2 with
  | error e =>
    refine (hread.bind ?_ : Yields env _ _ ([] ++ []))
    dsimp only
    rw [h]
    exact fun _ => rfl
  | ok l =>
    refine (hread.bind ?_ : Yields env _ _ ([] ++ lineageNotes env.spec l))
    dsimp only
    rw [h]
    exact (yields_schemaOf l).lift

end ApiContext.Resolve
