import ApiContext.Compilation
import ApiContext.Proofs.Grouping

/-! The drafts of values, operations, schemas and of a whole context as functions of the profile
alone. Neither the definitions of a description nor the journal have a part in them. -/
namespace ApiContext.Draft
open Model Resolve
variable (p : Profile)

/-- The type of a value: its schema's name, else its tag, else `Any`. -/
def typeText (v : Value) (owner : String) : String :=
  match v.schema, v.tag with
  | some (.inline s), _ => p.typeName (s.title.getD owner)
  | some (.ref reference), _ => p.typeName (refName reference)
  | none, some tag => tag
  | none, none => "Any"

def arrayType? (v : Value) (owner : String) : Option String :=
  if v.isArray then v.items.map (typeText p · (owner ++ " item")) else none

def dictionaryType? (v : Value) (owner : String) : Option String :=
  if v.isDictionary then v.element.map (typeText p · (owner ++ " value")) else none

def valueFields (v : Value) (owner : String) : Entries Draft := [
  ("type", .text (typeText p v owner)),
  ("name", .text (Naming.fieldName v.name)),
  ("value", .text v.name),
  ("description", .ofText? v.description),
  ("format", .ofText? v.format),
  ("default", .ofOption (v.fallback.map .ofJson)),
  ("required", .boolean v.required),
  ("optional", .boolean !v.required),
  ("enumName", .text (enumName p v)),
  ("enums", .ofOption (v.enumMembers.map fun ms => .sequence (ms.map enumCase))),
  ("arrayType", .ofText? (arrayType? p v owner)),
  ("dictionaryType", .ofText? (dictionaryType? p v owner)),
  ("isArray", .boolean v.isArray),
  ("isDictionary", .boolean v.isDictionary),
  ("isGlobal", .boolean v.isGlobal),
  ("raw", raw v.toJson)]

/-- A value that is its own owner. -/
def ofValue (v : Value) : Draft := .mapping (valueFields p v v.name)

def ofParameter (q : Parameter) : Draft :=
  .mapping <| Entries.set "raw" (raw q.toJson) <|
    Entries.set "parameterType" (.text q.location.label) (valueFields p q.value q.value.name)

/-- A body without a name is owned by the operation. -/
def bodyOwner (v : Value) (id : String) : String :=
  if v.name.isEmpty then id ++ " response" else v.name

def ofResponse (r : Response) (id : String) : Draft := .mapping [
  ("statusCode", .ofOption (r.status.map fun s => .integer (.ofInt s.toNat))),
  ("description", .ofText? r.description),
  ("schema", .ofOption ((r.schema.map fun v => valueFields p v (bodyOwner v id)).map .mapping))]

def ofOperation (o : Operation) : Draft :=
  let id := operationId o
  let params := o.parameters.map fun q => (q, ofParameter p q)
  let responses := o.responses.map fun r => (r, ofResponse p r id)
  let success := Draft.ofOption ((responses.find? (·.1.isSuccess)).map (·.2))
  let security := o.security.map requirement
  .mapping [
    ("operationId", .text id),
    ("method", .text o.method.label),
    ("path", .text o.path),
    ("summary", .ofText? o.summary),
    ("description", .ofText? o.description),
    ("tag", .ofText? o.tags.head?),
    ("tags", .ofTexts o.tags),
    ("deprecated", .boolean o.deprecated),
    ("params", .sequence (params.map (·.2))),
    ("nonBodyParams", .sequence (choose params (!located .body ·))),
    ("bodyParam", .ofOption (choose params (located .body)).head?),
    ("pathParams", .sequence (choose params (located .path))),
    ("queryParams", .sequence (choose params (located .query))),
    ("headerParams", .sequence (choose params (located .header))),
    ("formParams", .sequence (choose params (located .formData))),
    ("hasBody", .boolean (o.parameters.any (·.isBodyOrForm))),
    ("enums", .sequence (choose params declaresEnum)),
    ("responses", .sequence (responses.map (·.2))),
    ("successResponse", success),
    ("successType", (success.get "schema").get "type"),
    ("securityRequirement", .ofOption security.head?),
    ("securityRequirements", .sequence security),
    ("raw", raw o.toJson)]

def ofValues (vs : List Value) : Draft := .sequence (vs.map (ofValue p))

/-- The fields of a schema, given its parent and all of its properties. -/
def schemaFields (name : String) (s : Schema) (parent : Draft) (all : List Value) :
    Entries Draft := [
  ("type", .text (p.typeName name)),
  ("description", .ofText? s.description),
  ("parent", parent),
  ("requiredProperties", ofValues p s.requiredProperties),
  ("optionalProperties", ofValues p s.optionalProperties),
  ("properties", ofValues p s.properties),
  ("allProperties", ofValues p all),
  ("enums", ofValues p s.enums),
  ("raw", raw s.toJson)]

/-- A schema with its ancestors inside. -/
def ofLineage : Lineage → Draft
  | [] => .absent
  | (name, s) :: ancestors => .mapping <| schemaFields p name s (ofLineage ancestors)
    ((allProperties ((name, s) :: ancestors)).map (·.2))

/-- The top level of a context, given the lineages of the definitions. -/
def specFields (spec : Spec) (lineages : List Lineage) : Entries Draft := [
  ("info", infoDraft spec.info),
  ("host", .ofText? spec.host),
  ("basePath", .ofText? spec.basePath),
  ("baseURL", .text (baseUrl spec)),
  ("schemes", .ofTexts spec.schemes),
  ("operations", .sequence (spec.operations.map (ofOperation p))),
  ("tags", .sequence ((tagGroups (spec.operations.map fun o => (o, ofOperation p o))).map
    fun (name, ds) => tagDraft spec name ds)),
  ("definitions", .sequence (lineages.map (ofLineage p))),
  ("enums", .sequence (spec.enums.map (ofValue p))),
  ("securityDefinitions", .sequence (spec.securitySchemes.map securityScheme)),
  ("raw", raw spec.toJson)]

/-! ### Keys -/

theorem nodup_keys_valueFields (v : Value) (owner : String) :
    (Entries.keys (valueFields p v owner)).Nodup := by
  simp [Entries.keys, valueFields]

theorem nodup_keys_schemaFields (name : String) (s : Schema) (parent : Draft) (all : List Value) :
    (Entries.keys (schemaFields p name s parent all)).Nodup := by
  simp [Entries.keys, schemaFields]

theorem nodup_keys_specFields (spec : Spec) (lineages : List Lineage) :
    (Entries.keys (specFields p spec lineages)).Nodup := by
  simp [Entries.keys, specFields]

/-! ### Pruned -/

/-- The value under a key is pruned by itself, as long as no key stands twice. -/
theorem lookup_pruneEntries {entries : Entries Draft} (hn : (Entries.keys entries).Nodup)
    (key : String) : (pruneEntries entries).lookup key = (entries.lookup key).bind prune := by
  rw [pruneEntries_eq]
  exact Entries.lookup_filterMap prune hn key

theorem get?_pruneEntries {entries : Entries Draft} (hn : (Entries.keys entries).Nodup)
    (key : String) : (Context.mapping (pruneEntries entries)).get? key =
      ((mapping entries).get key).prune := by
  have hlookup := lookup_pruneEntries hn key
  rw [Context.get?, hlookup, get]
  cases entries.lookup key <;> rfl

theorem pruneEntries_append (entries entries' : Entries Draft) :
    pruneEntries (entries ++ entries') = pruneEntries entries ++ pruneEntries entries' := by
  simp only [pruneEntries_eq, List.filterMap_append]

theorem pruneElems_map {α : Type} {f : α → Draft} {g : α → Context} {l : List α}
    (h : ∀ a ∈ l, (f a).prune = some (g a)) : pruneElems (l.map f) = l.map g := by
  induction l with
  | nil => rfl
  | cons a rest ih =>
    have hrest := ih fun b hb => h b (List.mem_cons_of_mem a hb)
    rw [List.map_cons, pruneElems, h a (by simp), hrest, List.map_cons]

/-! ### Lists of parameters, responses and operations -/

/-- The drafts alone, of things that are kept beside them. -/
theorem map_beside {α : Type} (f : α → Draft) (l : List α) :
    (l.map fun a => (a, f a)).map (·.2) = l.map f :=
  List.map_map

theorem choose_map (f : Parameter → Draft) (ps : List Parameter) (c : Parameter → Bool) :
    choose (ps.map fun x => (x, f x)) c = (ps.filter c).map f := by
  rw [choose, List.filter_map, List.map_map]
  rfl

theorem find?_responses (f : Response → Draft) (rs : List Response) :
    ((rs.map fun r => (r, f r)).find? (·.1.isSuccess)).map (·.2) =
      (rs.find? (·.isSuccess)).map f := by
  rw [List.find?_map, Option.map_map]
  rfl

/-- The type of a success is that of its body. -/
theorem successType_eq (r : Option Response) (id : String) :
    ((ofOption (r.map (ofResponse p · id))).get "schema").get "type" =
      .ofText? ((r.bind (·.schema)).map fun v => typeText p v (bodyOwner v id)) := by
  cases r with
  | none => rfl
  | some r =>
    obtain ⟨status, description, schema⟩ := r
    cases schema <;> rfl

/-- The operations under their first tags. -/
def tagged (operations : List Operation) : Entries (List Operation) :=
  operations.foldl (fun groups o =>
    match o.tags.head? with
    | some tag => Entries.push tag o groups
    | none => groups) []

/-- Groups whose items become something else. -/
def mapGroups {α β : Type} (f : α → β) (groups : Entries (List α)) : Entries (List β) :=
  groups.map fun g => (g.1, g.2.map f)

theorem push_mapGroups {α β : Type} (f : α → β) (key : String) (a : α) (m : Entries (List α)) :
    Entries.push key (f a) (mapGroups f m) = mapGroups f (Entries.push key a m) := by
  induction m with
  | nil => rfl
  | cons g rest ih =>
    obtain ⟨k, items⟩ := g
    have hcons : mapGroups f ((k, items) :: rest) = (k, items.map f) :: mapGroups f rest := rfl
    rw [hcons, Entries.push, Entries.push, ih]
    by_cases hk : k = key
    · simp [hk, mapGroups]
    · simp [hk, mapGroups]

/-- Things are grouped by their tags, whatever they become. -/
theorem foldl_push {α β γ : Type} (tag? : α → Option String) (f : α → β) (g : β → γ)
    (l : List α) :
    l.foldl (fun groups a =>
      match tag? a with
      | some tag => Entries.push tag (g (f a)) groups
      | none => groups) [] =
    mapGroups g (l.foldl (fun groups a =>
      match tag? a with
      | some tag => Entries.push tag (f a) groups
      | none => groups) []) := by
  have hnil : mapGroups g [] = [] := rfl
  rw [← hnil]
  refine List.foldl_hom (mapGroups g) fun groups a => ?_
  cases tag? a with
  | none => rfl
  | some tag => exact push_mapGroups g tag (f a) groups

/-- Which operations are in which groups does not depend on their drafts. -/
theorem tagGroups_map (f : Operation → Draft) (operations : List Operation) :
    tagGroups (operations.map fun o => (o, f o)) = mapGroups f (tagged operations) := by
  rw [tagGroups, List.foldl_map]
  exact foldl_push (fun o : Operation => o.tags.head?) id f operations

theorem tagged_eq_groups (operations : List Operation) :
    tagged operations = Entries.groups (·.tags.head?) operations :=
  Entries.foldl_push_eq_groups _ _

/-- In the groups are none but the operations themselves. -/
theorem mem_of_mem_tagged {operations : List Operation} {o : Operation}
    (h : o ∈ (tagged operations).flatMap (·.2)) : o ∈ operations := by
  rw [tagged_eq_groups] at h
  exact List.mem_of_mem_filter ((Entries.groups_perm _ operations).mem_iff.mp h)

end ApiContext.Draft
