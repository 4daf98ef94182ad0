import ApiContext.Naming.Route
import ApiContext.Resolve.Value

/-! Operations resolved into mappings. Each parameter and response is resolved once and then copied
into the groups it belongs to. -/
namespace ApiContext.Resolve
open Model

def operationId (o : Operation) : String :=
  o.id.getD (Naming.operationId o.method.label o.path)

def statusText (status : Option UInt16) : String :=
  match status with
  | some s => toString s.toNat
  | none => "default"

/-- A body without a name is owned by the operation. -/
def response (r : Response) (id : String) : Resolve Draft := do
  let body ← r.schema.mapM fun v =>
    valueEntries v (if v.name.isEmpty then id ++ " response" else v.name)
      (id ++ ".responses." ++ statusText r.status)
  return .mapping [
    ("statusCode", .ofOption (r.status.map fun s => .integer (.ofInt s.toNat))),
    ("description", .ofText? r.description),
    ("schema", .ofOption (body.map .mapping))]

def requirement (s : SecurityRequirement) : Draft := .mapping [
  ("name", .text s.name),
  ("scope", .ofText? s.scopes.head?),
  ("scopes", .ofTexts s.scopes)]

/-- The drafts of the parameters that satisfy a condition. -/
def choose (params : List (Parameter × Draft)) (p : Parameter → Bool) : List Draft :=
  (params.filter (p ·.1)).map (·.2)

def located (l : Location) (p : Parameter) : Bool := p.location == l

/-- A global enum is declared elsewhere. -/
def declaresEnum (p : Parameter) : Bool := p.value.enumMembers.isSome && !p.value.isGlobal

def operation (o : Operation) : Resolve Draft := do
  let id := operationId o
  log (.resolvingOperation id)
  let params ← o.parameters.mapM fun p => return (p, ← parameter p id)
  let responses ← o.responses.mapM fun r => return (r, ← response r id)
  let success := Draft.ofOption ((responses.find? (·.1.isSuccess)).map (·.2))
  let security := o.security.map requirement
  return .mapping [
    ("operationId", .text id),
    ("method", .text o.method.label),
    ("path", .text o.path),
    ("summary", .ofText? o.summary),
    ("description", .ofText? o.description),
    ("tag", .ofText? o.tags.head?),
    ("tags", .ofTexts o.tags),
    ("deprecated", .boolean o.deprecated),
    ("params", .sequence (params.map (·.2))),
    ("nonBodyParams", .sequence (choose params (!located .body ·))),
    ("bodyParam", .ofOption (choose params (located .body)).head?),
    ("pathParams", .sequence (choose params (located .path))),
    ("queryParams", .sequence (choose params (located .query))),
    ("headerParams", .sequence (choose params (located .header))),
    ("formParams", .sequence (choose params (located .formData))),
    ("hasBody", .boolean (o.parameters.any (·.isBodyOrForm))),
    ("enums", .sequence (choose params declaresEnum)),
    ("responses", .sequence (responses.map (·.2))),
    ("successResponse", success),
    ("successType", (success.get "schema").get "type"),
    ("securityRequirement", .ofOption security.head?),
    ("securityRequirements", .sequence security),
    ("raw", raw o.toJson)]

end ApiContext.Resolve
