import ApiContext.Proofs.Sessions
import ApiContext.Proofs.ValueMappings

/-! The mappings of operations. All parameters stand in one list, and every other list of them is
the part of it that the mappings of the parameters tell by themselves. The success is one of the
responses, and its type that of its own body. -/
namespace ApiContext
open Model Resolve

/-- The position of the first response with status 200 or 204. -/
def Model.Operation.successIndex? (o : Operation) : Option Nat :=
  o.responses.findIdx? (·.isSuccess)

/-- What the mapping of a parameter says of its place in the request. -/
def Context.isLocated (label : String) (t : Context) : Bool :=
  t.get? "parameterType" = some (.text label)

/-- The mapping of a parameter is what a fresh compiler answers, and tells one place. -/
structure ParameterMapping (env : Environment) (o : Operation) (q : Parameter) (t : Context) :
    Prop where
  answer : Request.Answer env (.parameter q (operationId o)) t
  location {l : Location} : t.isLocated l.label ↔ l = q.location

/-- The mapping of a response is what it is resolved into from an empty journal. -/
structure ResponseMapping (env : Environment) (o : Operation) (r : Response) (t : Context) :
    Prop where
  answer : (((response r (operationId o)).run env).run .empty).1.prune = some t
  statusCode : t.get? "statusCode" = r.status.map fun s => .integer (.ofInt s.toNat)
  description : t.get? "description" = r.description.map .text
  schema : (t.get? "schema").isSome ↔ r.schema.isSome

/-- What the mapping of an operation shows, given the mappings of its parameters and responses. -/
structure OperationMapping (env : Environment) (o : Operation) (t : Context)
    (ps rs : List Context) : Prop where
  params : t.get? "params" = some (.sequence ps)
  parameters : List.Forall₂ (ParameterMapping env o) o.parameters ps
  groups : ∀ g ∈ [("pathParams", "path"), ("queryParams", "query"), ("headerParams", "header"),
    ("formParams", "form")], t.get? g.1 = some (.sequence (ps.filter (·.isLocated g.2)))
  nonBodyParams : t.get? "nonBodyParams" = some (.sequence (ps.filter (!·.isLocated "body")))
  bodyParam : t.get? "bodyParam" = ps.find? (·.isLocated "body")
  hasBody : t.get? "hasBody" = some (.boolean
    ((t.get? "bodyParam").isSome ∨ t.get? "formParams" ≠ some (.sequence [])))
  enums : t.get? "enums" = some (.sequence (ps.filter fun u =>
    (u.get? "enums").isSome ∧ u.get? "isGlobal" = some (.boolean false)))
  responses : t.get? "responses" = some (.sequence rs)
  answers : List.Forall₂ (ResponseMapping env o) o.responses rs
  success : o.successResponse = o.successIndex?.bind (o.responses[·]?)
  successResponse : t.get? "successResponse" = o.successIndex?.bind (rs[·]?)
  successResponse_none : t.get? "successResponse" = none ↔ o.successResponse = none
  successType : t.get? "successType" =
    ((t.get? "successResponse").bind (·.get? "schema")).bind (·.get? "type")
  successType_none : t.get? "successType" = none ↔
    (t.get? "successResponse").bind (·.get? "schema") = none

variable {p : Profile} {o : Operation} {q : Parameter} {r : Response} {id key : String}

theorem Model.Location.label_injective {l m : Location} (h : l.label = m.label) : l = m := by
  cases l <;> cases m <;> first | rfl | simp [label, key] at h

namespace Draft

def fields : Draft → Entries Draft
  | .mapping entries => entries
  | _ => []

/-- What a mapping is pruned to. -/
def tree (d : Draft) : Context := .mapping (pruneEntries d.fields)

theorem get?_tree {entries : Entries Draft} (hn : (Entries.keys entries).Nodup) (key : String) :
    (mapping entries).tree.get? key = ((mapping entries).get key).prune :=
  get?_pruneEntries hn key

/-! ### Parameters -/

theorem tree_ofParameter (p : Profile) (q : Parameter) :
    (ofParameter p q).tree = locatedTree p q.value q.value.name (some q.location) :=
  rfl

theorem isLocated_ofParameter {label : String} :
    (ofParameter p q).tree.isLocated label = decide (q.location.label = label) := by
  have hget := (valueMapping_locatedTree p q.value q.value.name (some q.location)).parameterType
  rw [tree_ofParameter, Context.isLocated, hget]
  simp

theorem parameterMapping_ofParameter (env : Environment) (o : Operation) (q : Parameter) :
    ParameterMapping env o q (ofParameter env.profile q).tree where
  answer := ⟨_, Request.fresh_eq _, rfl⟩
  location := by
    intro l
    rw [isLocated_ofParameter, decide_eq_true_iff]
    exact ⟨fun h => (Location.label_injective h).symm, fun h => h ▸ rfl⟩

theorem isLocated_eq_located {l : Location} :
    (ofParameter p q).tree.isLocated l.label = located l q := by
  rw [isLocated_ofParameter, located, Bool.eq_iff_iff, decide_eq_true_iff, beq_iff_eq]
  exact ⟨Location.label_injective, congrArg Location.label⟩

/-- An enum is declared where the mapping shows one that is not global. -/
theorem declaresEnum_eq : declaresEnum q = decide
    (((ofParameter p q).tree.get? "enums").isSome ∧
      (ofParameter p q).tree.get? "isGlobal" = some (.boolean false)) := by
  rw [tree_ofParameter, isSome_enums, get?_isGlobal, declaresEnum]
  cases q.value.isGlobal <;> simp

/-! ### Lists of parameters -/

def parameterTrees (p : Profile) (qs : List Parameter) : List Context :=
  qs.map fun q => (ofParameter p q).tree

theorem pruneElems_parameters (qs : List Parameter) :
    pruneElems (qs.map (ofParameter p)) = parameterTrees p qs :=
  pruneElems_map fun _ _ => rfl

theorem get?_ofOperation (key : String) :
    (ofOperation p o).tree.get? key = ((ofOperation p o).get key).prune :=
  get?_tree (by simp [Entries.keys]) key

theorem get?_params : (ofOperation p o).tree.get? "params" =
    some (.sequence (parameterTrees p o.parameters)) := by
  have hdraft : (ofOperation p o).get "params" =
      .sequence ((o.parameters.map fun q => (q, ofParameter p q)).map (·.2)) :=
    rfl
  rw [get?_ofOperation, hdraft, map_beside, prune, pruneElems_parameters]

/-- The parameters that satisfy a condition are those whose mappings do. -/
theorem get?_choose {c : Parameter → Bool} {f : Context → Bool}
    (hkey : (ofOperation p o).get key =
      .sequence (choose (o.parameters.map fun q => (q, ofParameter p q)) c))
    (hc : ∀ q, c q = f (ofParameter p q).tree) : (ofOperation p o).tree.get? key =
      some (.sequence ((parameterTrees p o.parameters).filter f)) := by
  rw [get?_ofOperation, hkey, choose_map, prune, pruneElems_parameters, parameterTrees,
    parameterTrees, filter_map_of_eq fun q => (hc q).symm]

/-- The parameters of one location are those whose mappings tell it. -/
theorem get?_located {l : Location} (hkey : (ofOperation p o).get key =
      .sequence (choose (o.parameters.map fun q => (q, ofParameter p q)) (located l))) :
    (ofOperation p o).tree.get? key =
      some (.sequence ((parameterTrees p o.parameters).filter (·.isLocated l.label))) :=
  get?_choose hkey fun _ => isLocated_eq_located.symm

theorem isLocated_body : (ofParameter p q).tree.isLocated "body" = located .body q :=
  isLocated_eq_located (l := .body)

theorem get?_bodyParam : (ofOperation p o).tree.get? "bodyParam" =
    (parameterTrees p o.parameters).find? (·.isLocated "body") := by
  have hdraft : (ofOperation p o).get "bodyParam" =
      ofOption (choose (o.parameters.map fun q => (q, ofParameter p q)) (located .body)).head? :=
    rfl
  have hbody : (fun q => (ofParameter p q).tree.isLocated "body") = located .body :=
    funext fun _ => isLocated_body
  rw [get?_ofOperation, hdraft, choose_map, List.head?_map, List.head?_filter, parameterTrees,
    List.find?_map, Function.comp_def, hbody]
  cases o.parameters.find? (located .body) <;> rfl

/-- There is a body where a parameter is one or belongs to a form. -/
theorem get?_hasBody : (ofOperation p o).tree.get? "hasBody" = some (.boolean
    (((ofOperation p o).tree.get? "bodyParam").isSome ∨
      (ofOperation p o).tree.get? "formParams" ≠ some (.sequence []))) := by
  have hdraft : (ofOperation p o).tree.get? "hasBody" =
      some (.boolean (o.parameters.any (·.isBodyOrForm))) :=
    get?_ofOperation "hasBody"
  have hform : (ofOperation p o).tree.get? "formParams" = some (.sequence _) :=
    get?_located (l := .formData) rfl
  have hany : o.parameters.any (·.isBodyOrForm) ↔
      (∃ q ∈ o.parameters, located .body q) ∨ ∃ q ∈ o.parameters, located .formData q := by
    simp [Parameter.isBodyOrForm, located, and_or_left, exists_or]
  rw [hdraft, get?_bodyParam, hform, Option.some.injEq, Context.boolean.injEq, Bool.eq_iff_iff,
    hany]
  simp [parameterTrees, isLocated_body, isLocated_eq_located]

/-! ### Responses -/

theorem get?_ofResponse (key : String) :
    (ofResponse p r id).tree.get? key = ((ofResponse p r id).get key).prune :=
  get?_tree (by simp [Entries.keys]) key

theorem get?_schema : (ofResponse p r id).tree.get? "schema" =
    r.schema.map fun v => locatedTree p v (bodyOwner v id) none := by
  have hdraft : (ofResponse p r id).get "schema" =
      ofOption ((r.schema.map fun v => valueFields p v (bodyOwner v id)).map .mapping) :=
    rfl
  rw [get?_ofResponse, hdraft]
  cases r.schema <;> rfl

theorem get?_schema_type : ((ofResponse p r id).tree.get? "schema").bind (·.get? "type") =
    (r.schema.map fun v => typeText p v (bodyOwner v id)).map .text := by
  have htype (v : Value) (owner : String) :
      (locatedTree p v owner none).get? "type" = some (.text (typeText p v owner)) :=
    get?_locatedTree_value (by decide) (by decide)
  rw [get?_schema]
  cases r.schema with
  | none => rfl
  | some v => exact htype v _

theorem responseMapping_ofResponse (env : Environment) (o : Operation) (r : Response) :
    ResponseMapping env o r (ofResponse env.profile r (operationId o)).tree where
  answer := by
    rw [yields_response o r .empty]
    rfl
  statusCode := by
    have hdraft : (ofResponse env.profile r (operationId o)).get "statusCode" =
        ofOption (r.status.map fun s => .integer (.ofInt s.toNat)) :=
      rfl
    rw [get?_ofResponse, hdraft]
    cases r.status <;> rfl
  description := (get?_ofResponse "description").trans (prune_ofText? _)
  schema := by simp [get?_schema]

def responseTrees (p : Profile) (o : Operation) : List Context :=
  o.responses.map fun r => (ofResponse p r (operationId o)).tree

theorem get?_responses :
    (ofOperation p o).tree.get? "responses" = some (.sequence (responseTrees p o)) := by
  have hdraft : (ofOperation p o).get "responses" =
      .sequence ((o.responses.map fun r => (r, ofResponse p r (operationId o))).map (·.2)) :=
    rfl
  have htrees : pruneElems (o.responses.map (ofResponse p · (operationId o))) =
      responseTrees p o :=
    pruneElems_map fun _ _ => rfl
  rw [get?_ofOperation, hdraft, map_beside (ofResponse p · (operationId o)), prune, htrees]

theorem get?_successResponse : (ofOperation p o).tree.get? "successResponse" =
    o.successResponse.map fun r => (ofResponse p r (operationId o)).tree := by
  have hdraft : (ofOperation p o).get "successResponse" =
      ofOption (((o.responses.map fun r => (r, ofResponse p r (operationId o))).find?
        (·.1.isSuccess)).map (·.2)) :=
    rfl
  rw [get?_ofOperation, hdraft, find?_responses (ofResponse p · (operationId o)),
    ← Operation.successResponse]
  cases o.successResponse <;> rfl

/-- The type of a success, where it has a body. -/
theorem get?_successType : (ofOperation p o).tree.get? "successType" =
    ((o.successResponse.bind (·.schema)).map fun v =>
      typeText p v (bodyOwner v (operationId o))).map .text := by
  have hdraft : (ofOperation p o).get "successType" =
      ((ofOption (((o.responses.map fun r => (r, ofResponse p r (operationId o))).find?
        (·.1.isSuccess)).map (·.2))).get "schema").get "type" :=
    rfl
  rw [get?_ofOperation, hdraft, find?_responses (ofResponse p · (operationId o)),
    ← Operation.successResponse, successType_eq, prune_ofText?]

theorem get?_successType_eq_get?_type : (ofOperation p o).tree.get? "successType" =
    (((ofOperation p o).tree.get? "successResponse").bind (·.get? "schema")).bind
      (·.get? "type") := by
  rw [get?_successType, get?_successResponse]
  cases o.successResponse with
  | none => rfl
  | some r => exact get?_schema_type.symm

/-- The search for the success finds the same place among the responses and among their trees. -/
theorem successResponse_eq_getElem? (o : Operation) :
    o.successResponse = o.successIndex?.bind (o.responses[·]?) :=
  List.find?_eq_bind_findIdx?_getElem?

theorem get?_successResponse_eq_getElem? : (ofOperation p o).tree.get? "successResponse" =
    o.successIndex?.bind ((responseTrees p o)[·]?) := by
  rw [get?_successResponse, successResponse_eq_getElem?, Option.map_bind]
  simp only [responseTrees, List.getElem?_map]
  rfl

end Draft

/-- The mapping of an operation agrees with itself, whatever was resolved before it. -/
theorem operation_mapping (env : Environment) (o : Operation) (j : Journal) :
    ∃ d t ps rs, ((Request.operation o).ask env j).1 = .ok d ∧ d.prune = some t ∧
      OperationMapping env o t ps rs := by
  refine ⟨Draft.ofOperation env.profile o, (Draft.ofOperation env.profile o).tree,
    Draft.parameterTrees env.profile o.parameters, Draft.responseTrees env.profile o, ?_, rfl, ?_⟩
  · rw [Request.ask_eq]
    rfl
  constructor
  case params => exact Draft.get?_params
  case parameters =>
    rw [Draft.parameterTrees, List.forall₂_map_right_iff]
    exact List.forall₂_same.mpr fun q _ => Draft.parameterMapping_ofParameter env o q
  case groups =>
    simp only [List.forall_mem_cons, List.not_mem_nil, false_implies, implies_true, and_true]
    exact ⟨Draft.get?_located (l := .path) rfl, Draft.get?_located (l := .query) rfl,
      Draft.get?_located (l := .header) rfl, Draft.get?_located (l := .formData) rfl⟩
  case nonBodyParams =>
    exact Draft.get?_choose (f := (!·.isLocated "body")) rfl fun _ =>
      congrArg _ Draft.isLocated_body.symm
  case bodyParam => exact Draft.get?_bodyParam
  case hasBody => exact Draft.get?_hasBody
  case enums => exact Draft.get?_choose rfl fun _ => Draft.declaresEnum_eq
  case responses => exact Draft.get?_responses
  case answers =>
    rw [Draft.responseTrees, List.forall₂_map_right_iff]
    exact List.forall₂_same.mpr fun r _ => Draft.responseMapping_ofResponse env o r
  case success => exact Draft.successResponse_eq_getElem? o
  case successResponse => exact Draft.get?_successResponse_eq_getElem?
  case successResponse_none => simp [Draft.get?_successResponse]
  case successType => exact Draft.get?_successType_eq_get?_type
  case successType_none =>
    rw [Draft.get?_successType_eq_get?_type, Draft.get?_successResponse]
    cases o.successResponse with
    | none => simp
    | some r =>
      rw [Option.map_some, Option.bind_some, Draft.get?_schema_type, Draft.get?_schema]
      simp

end ApiContext
