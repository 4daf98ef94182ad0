import ApiContext.Json.Record

/-! Security schemes that a description declares, and what an operation requires of them. -/
namespace ApiContext.Model

inductive SchemeType where
  | basic | apiKey | oauth2
deriving DecidableEq

namespace SchemeType

def all : List SchemeType := [.basic, .apiKey, .oauth2]

def key : SchemeType → String
  | .basic => "basic"
  | .apiKey => "apiKey"
  | .oauth2 => "oauth2"

end SchemeType

/-- A scheme; `parameterName` and `location` tell what carries an API key, and scopes go with their
descriptions. -/
structure SecurityScheme where
  name : String
  type : SchemeType
  description : Option String
  parameterName : Option String
  location : Option String
  flow : Option String
  authorizationUrl : Option String
  tokenUrl : Option String
  scopes : OrderedMap String

namespace SecurityScheme

def toJson (s : SecurityScheme) : Json := .record [
  ("name", some (.str s.name)),
  ("type", some (.str s.type.key)),
  ("description", s.description.map .str),
  ("parameterName", s.parameterName.map .str),
  ("in", s.location.map .str),
  ("flow", s.flow.map .str),
  ("authorizationUrl", s.authorizationUrl.map .str),
  ("tokenUrl", s.tokenUrl.map .str),
  ("scopes", Json.unlessEmptyMap (s.scopes.entries.map fun (k, v) => (k, .str v)))]

def ofJson? (s : Json.Source) : Option SecurityScheme := do
  let r ← Json.Record.ofJson? 9 s
  return {
    name := ← r.required 0 "name" Json.string?
    type := ← r.required 1 "type" (Json.choice? SchemeType.all SchemeType.key)
    description := ← r.optional 2 "description" Json.string?
    parameterName := ← r.optional 3 "parameterName" Json.string?
    location := ← r.optional 4 "in" Json.string?
    flow := ← r.optional 5 "flow" Json.string?
    authorizationUrl := ← r.optional 6 "authorizationUrl" Json.string?
    tokenUrl := ← r.optional 7 "tokenUrl" Json.string?
    scopes := ← r.defaulted 8 "scopes" .empty (Json.map? Json.string?) }

end SecurityScheme

structure SecurityRequirement where
  name : String
  scopes : List String

namespace SecurityRequirement

def toJson (s : SecurityRequirement) : Json := .record [
  ("name", some (.str s.name)),
  ("scopes", Json.unlessEmpty (Json.texts s.scopes))]

def ofJson? (s : Json.Source) : Option SecurityRequirement := do
  let r ← Json.Record.ofJson? 2 s
  return {
    name := ← r.required 0 "name" Json.string?
    scopes := ← r.defaulted 1 "scopes" [] (Json.list? Json.string?) }

end SecurityRequirement
end ApiContext.Model
