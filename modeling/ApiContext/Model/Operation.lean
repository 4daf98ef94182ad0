import ApiContext.Model.Parameter
import ApiContext.Model.Security

/-! Operations: one method on one path, with parameters, responses and requirements. -/
namespace ApiContext.Model

inductive Method where
  | get | post | put | delete | patch | options | head
deriving DecidableEq

namespace Method

def all : List Method := [.get, .post, .put, .delete, .patch, .options, .head]

def key : Method → String
  | .get => "get"
  | .post => "post"
  | .put => "put"
  | .delete => "delete"
  | .patch => "patch"
  | .options => "options"
  | .head => "head"

def label : Method → String
  | .get => "GET"
  | .post => "POST"
  | .put => "PUT"
  | .delete => "DELETE"
  | .patch => "PATCH"
  | .options => "OPTIONS"
  | .head => "HEAD"

end Method

/-- The default response has no status. -/
structure Response where
  status : Option UInt16
  description : Option String
  schema : Option Value

namespace Response

def isSuccess (r : Response) : Bool := r.status == some 200 || r.status == some 204

def toJson (r : Response) : Json := .record [
  ("statusCode", r.status.map .ofUInt16),
  ("description", r.description.map .str),
  ("schema", r.schema.map Value.toJson)]

def ofJson? (s : Json.Source) : Option Response := do
  let r ← Json.Record.ofJson? 3 s
  return {
    status := ← r.optional 0 "statusCode" Json.uint16?
    description := ← r.optional 1 "description" Json.string?
    schema := ← r.optional 2 "schema" Value.ofJson? }

end Response

structure Operation where
  method : Method
  path : String
  id : Option String
  summary : Option String
  description : Option String
  tags : List String
  parameters : List Parameter
  responses : List Response
  security : List SecurityRequirement
  deprecated : Bool

namespace Operation

/-- The first response with status 200 or 204. -/
def successResponse (o : Operation) : Option Response := o.responses.find? (·.isSuccess)

def toJson (o : Operation) : Json := .record [
  ("method", some (.str o.method.key)),
  ("path", some (.str o.path)),
  ("operationId", o.id.map .str),
  ("summary", o.summary.map .str),
  ("description", o.description.map .str),
  ("tags", Json.unlessEmpty (Json.texts o.tags)),
  ("parameters", Json.unlessEmpty (o.parameters.map Parameter.toJson)),
  ("responses", Json.unlessEmpty (o.responses.map Response.toJson)),
  ("security", Json.unlessEmpty (o.security.map SecurityRequirement.toJson)),
  ("deprecated", some (.bool o.deprecated))]

def ofJson? (s : Json.Source) : Option Operation := do
  let r ← Json.Record.ofJson? 10 s
  return {
    method := ← r.required 0 "method" (Json.choice? Method.all Method.key)
    path := ← r.required 1 "path" Json.string?
    id := ← r.optional 2 "operationId" Json.string?
    summary := ← r.optional 3 "summary" Json.string?
    description := ← r.optional 4 "description" Json.string?
    tags := ← r.defaulted 5 "tags" [] (Json.list? Json.string?)
    parameters := ← r.defaulted 6 "parameters" [] (Json.list? Parameter.ofJson?)
    responses := ← r.defaulted 7 "responses" [] (Json.list? Response.ofJson?)
    security := ← r.defaulted 8 "security" [] (Json.list? SecurityRequirement.ofJson?)
    deprecated := ← r.defaulted 9 "deprecated" false Json.bool? }

end Operation
end ApiContext.Model
