import ApiContext.Model.Operation

/-! The description of an API as a whole, and the definitions and tags found in it by name. -/
namespace ApiContext.Model

structure Info where
  title : String
  description : Option String
  version : String

namespace Info

def toJson (i : Info) : Json := .record [
  ("title", some (.str i.title)),
  ("description", i.description.map .str),
  ("version", some (.str i.version))]

def ofJson? (s : Json.Source) : Option Info := do
  let r ← Json.Record.ofJson? 3 s
  return {
    title := ← r.required 0 "title" Json.string?
    description := ← r.optional 1 "description" Json.string?
    version := ← r.required 2 "version" Json.string? }

end Info

structure Tag where
  name : String
  description : Option String

namespace Tag

def toJson (t : Tag) : Json := .record [
  ("name", some (.str t.name)),
  ("description", t.description.map .str)]

def ofJson? (s : Json.Source) : Option Tag := do
  let r ← Json.Record.ofJson? 2 s
  return {
    name := ← r.required 0 "name" Json.string?
    description := ← r.optional 1 "description" Json.string? }

end Tag

structure Spec where
  info : Info
  host : Option String
  basePath : Option String
  schemes : List String
  operations : List Operation
  definitions : OrderedMap Schema
  securitySchemes : List SecurityScheme
  enums : List Value
  tags : List Tag

namespace Spec

/-- The definition named by the last segment of a reference, with its key. -/
def definition? (spec : Spec) (reference : String) : Option (String × Schema) :=
  spec.definitions.find? (refName reference)

def tag? (spec : Spec) (name : String) : Option Tag := spec.tags.find? (·.name == name)

def toJson (s : Spec) : Json := .record [
  ("info", some s.info.toJson),
  ("host", s.host.map .str),
  ("basePath", s.basePath.map .str),
  ("schemes", Json.unlessEmpty (Json.texts s.schemes)),
  ("operations", Json.unlessEmpty (s.operations.map Operation.toJson)),
  ("definitions", Json.unlessEmptyMap (s.definitions.entries.map fun (k, v) => (k, v.toJson))),
  ("securityDefinitions", Json.unlessEmpty (s.securitySchemes.map SecurityScheme.toJson)),
  ("enums", Json.unlessEmpty (s.enums.map Value.toJson)),
  ("tags", Json.unlessEmpty (s.tags.map Tag.toJson))]

def ofJson? (s : Json.Source) : Option Spec := do
  let r ← Json.Record.ofJson? 9 s
  return {
    info := ← r.required 0 "info" Info.ofJson?
    host := ← r.optional 1 "host" Json.string?
    basePath := ← r.optional 2 "basePath" Json.string?
    schemes := ← r.defaulted 3 "schemes" [] (Json.list? Json.string?)
    operations := ← r.defaulted 4 "operations" [] (Json.list? Operation.ofJson?)
    definitions := ← r.defaulted 5 "definitions" .empty (Json.map? Schema.ofJson?)
    securitySchemes := ← r.defaulted 6 "securityDefinitions" [] (Json.list? SecurityScheme.ofJson?)
    enums := ← r.defaulted 7 "enums" [] (Json.list? Value.ofJson?)
    tags := ← r.defaulted 8 "tags" [] (Json.list? Tag.ofJson?) }

end Spec
end ApiContext.Model
