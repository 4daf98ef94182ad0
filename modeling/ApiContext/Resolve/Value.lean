import ApiContext.Resolve.Basic

/-! Values resolved into mappings. A value is typed by its schema or else by its tag; one that cannot
be typed is reported under its path and keeps its tag, or becomes `Any`. -/
namespace ApiContext.Resolve
open Model

def primitiveTags : List String := ["string", "integer", "number", "boolean", "array", "file"]

/-- A reference has the name of its last segment, whether or not that names a definition; an inline
schema has its title, or else the name of its owner. -/
def schemaType (schema : SchemaOrRef) (owner path : String) : Resolve String := do
  let env ← read
  match schema with
  | .inline s => return env.profile.typeName (s.title.getD owner)
  | .ref reference =>
    match env.spec.definition? reference with
    | some (name, _) => return env.profile.typeName name
    | none =>
      report path (.unknownReference reference)
      return env.profile.typeName (refName reference)

def type (v : Value) (owner path : String) : Resolve String := do
  match v.schema, v.tag with
  | some schema, _ => schemaType schema owner path
  | none, none =>
    report path .untyped
    return "Any"
  | none, some tag =>
    unless primitiveTags.contains tag || v.isDictionary do
      report path (.unusableTag tag)
    return tag

/-- A text names itself, any other member is named by its JSON text. -/
def memberLabel : Json → String
  | .str s => s
  | j => j.render

def enumCase (member : Json) : Draft := .mapping [
  ("name", .text (Naming.enumCaseName (memberLabel member))),
  ("value", .ofJson member)]

/-- A global enum goes by its global name. -/
def enumName (p : Profile) (v : Value) : String :=
  p.enumName (if v.isGlobal then v.globalName.getD v.name else v.name)

/-- The owner names an inline schema that has no title; problems are reported under the path. -/
def valueEntries (v : Value) (owner path : String) : Resolve (Entries Draft) := do
  let env ← read
  let type ← Resolve.type v owner path
  let arrayType ← if v.isArray then
      v.items.mapM (Resolve.type · (owner ++ " item") (path ++ ".items"))
    else pure none
  let dictionaryType ← if v.isDictionary then
      v.element.mapM (Resolve.type · (owner ++ " value") (path ++ ".additionalProperties"))
    else pure none
  return [
    ("type", .text type),
    ("name", .text (Naming.fieldName v.name)),
    ("value", .text v.name),
    ("description", .ofText? v.description),
    ("format", .ofText? v.format),
    ("default", .ofOption (v.fallback.map .ofJson)),
    ("required", .boolean v.required),
    ("optional", .boolean !v.required),
    ("enumName", .text (enumName env.profile v)),
    ("enums", .ofOption (v.enumMembers.map fun ms => .sequence (ms.map enumCase))),
    ("arrayType", .ofText? arrayType),
    ("dictionaryType", .ofText? dictionaryType),
    ("isArray", .boolean v.isArray),
    ("isDictionary", .boolean v.isDictionary),
    ("isGlobal", .boolean v.isGlobal),
    ("raw", raw v.toJson)]

/-- The scope is the name of a schema or the identifier of an operation. -/
def value (v : Value) (scope : String) : Resolve Draft := do
  return .mapping (← valueEntries v v.name (qualify scope v.name))

/-- The entries of the value with its own description in place of the value's, and the location. -/
def parameter (p : Parameter) (scope : String) : Resolve Draft := do
  let entries ← valueEntries p.value p.value.name (qualify scope p.value.name)
  return .mapping <| Entries.set "raw" (raw p.toJson) <|
    Entries.set "parameterType" (.text p.location.label) entries

end ApiContext.Resolve
