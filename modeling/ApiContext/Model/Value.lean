import ApiContext.Json.Record

/-! Values: the named, typed elements that parameters, properties, response bodies and global enums
have in common, and the schemas that may be nested in them. -/
namespace ApiContext.Model

mutual

/-- A value; `tag` is its type tag, `element` what the entries of a dictionary are, `members` are
those of an enum, and `globalName` is the name of a global enum where it differs from `name`. -/
structure Value where
  name : String
  description : Option String
  tag : Option String
  format : Option String
  required : Bool
  schema : Option SchemaOrRef
  items : Option Value
  element : Option Value
  members : Option (List Json)
  isGlobal : Bool
  globalName : Option String
  fallback : Option Json

inductive SchemaOrRef where
  | ref (path : String)
  | inline (schema : Schema)

/-- A type with properties; `parent` is a bare name or a pointer whose last segment is the name. -/
structure Schema where
  title : Option String
  description : Option String
  parent : Option String
  properties : List Value

end

/-- The characters after the last slash. -/
def lastSegment (path : List Char) : List Char := (path.reverse.takeWhile (· != '/')).reverse

/-- The reference `#/definitions/Pet` refers to `Pet`. -/
def refName (path : String) : String := .ofList (lastSegment path.toList)

namespace Value

def isArray (v : Value) : Bool := v.tag == some "array"

def isDictionary (v : Value) : Bool := v.tag == some "object" && v.element.isSome

/-- The members of a value, or else of its items; those of a dictionary's entries do not count. -/
def enumMembers (v : Value) : Option (List Json) := v.members <|> v.items.bind (·.members)

end Value

namespace Schema

def requiredProperties (s : Schema) : List Value := s.properties.filter (·.required)

def optionalProperties (s : Schema) : List Value := s.properties.filter (!·.required)

def enums (s : Schema) : List Value := s.properties.filter (·.enumMembers.isSome)

def parentName (s : Schema) : Option String := s.parent.map refName

end Schema

/-! ### JSON -/

mutual

def Value.fields : Value → List (String × Option Json)
  | ⟨name, description, tag, format, required, schema, items, element, members, isGlobal,
      globalName, fallback⟩ =>
    [("name", some (.str name)),
      ("description", description.map .str),
      ("type", tag.map .str),
      ("format", format.map .str),
      ("required", some (.bool required)),
      ("schema", schemaJson? schema),
      ("items", valueJson? items),
      ("additionalProperties", valueJson? element),
      ("enum", members.map .arr),
      ("isGlobal", some (.bool isGlobal)),
      ("globalName", globalName.map .str),
      ("default", fallback)]

def valueJson? : Option Value → Option Json
  | none => none
  | some v => some (.record v.fields)

def schemaJson? : Option SchemaOrRef → Option Json
  | none => none
  | some (.ref path) => some (.obj [("$ref", .str path)])
  | some (.inline s) => some (.record s.fields)

def Schema.fields : Schema → List (String × Option Json)
  | ⟨title, description, parent, properties⟩ =>
    [("title", title.map .str),
      ("description", description.map .str),
      ("parent", parent.map .str),
      ("properties", Json.unlessEmpty (valueJsons properties))]

def valueJsons : List Value → List Json
  | [] => []
  | v :: rest => .record v.fields :: valueJsons rest

end

def Value.toJson (v : Value) : Json := .record v.fields

def Schema.toJson (s : Schema) : Json := .record s.fields

def SchemaOrRef.toJson : SchemaOrRef → Json
  | .ref path => .obj [("$ref", .str path)]
  | .inline s => s.toJson

theorem valueJsons_eq (vs : List Value) : valueJsons vs = vs.map Value.toJson := by
  induction vs with
  | nil => rfl
  | cons v rest ih => simp [valueJsons, ih, Value.toJson]

/-- Reads a schema by a reader for the values in it. -/
def Schema.read? (value? : Json.Source → Option Value) (s : Json.Source) : Option Schema := do
  let r ← Json.Record.ofJson? 4 s
  return {
    title := ← r.optional 0 "title" Json.string?
    description := ← r.optional 1 "description" Json.string?
    parent := ← r.optional 2 "parent" Json.string?
    properties := ← r.defaulted 3 "properties" [] (Json.list? value?) }

/-- The text under `$ref`, if an object holds one there. -/
def reference? : Json.Source → Option String
  | .obj members => (Json.Record.named members).required 0 "$ref" Json.string?
  | _ => none

/-- An object with a text under `$ref` is a reference, whatever else it holds; all that it holds is
looked at to tell. -/
def SchemaOrRef.read? (value? : Json.Source → Option Value) : Json.Source → Option SchemaOrRef :=
  Json.Source.whole fun s =>
    match reference? s with
    | some path => some (.ref path)
    | none => (Schema.read? value? s).map .inline

def Value.readRecord? (value? : Json.Source → Option Value) (r : Json.Record) :
    Option Value := do
  return {
    name := ← r.defaulted 0 "name" "" Json.string?
    description := ← r.optional 1 "description" Json.string?
    tag := ← r.optional 2 "type" Json.string?
    format := ← r.optional 3 "format" Json.string?
    required := ← r.defaulted 4 "required" false Json.bool?
    schema := ← r.optional 5 "schema" (SchemaOrRef.read? value?)
    items := ← r.optional 6 "items" value?
    element := ← r.optional 7 "additionalProperties" value?
    members := ← r.optional 8 "enum" (Json.list? Json.free?)
    isGlobal := ← r.defaulted 9 "isGlobal" false Json.bool?
    globalName := ← r.optional 10 "globalName" Json.string?
    fallback := ← r.optional 11 "default" Json.free? }

/-- Reads values nested at most `depth` deep. -/
def Value.readWithin? : (depth : Nat) → Json.Source → Option Value
  | 0, _ => none
  | depth + 1, s => (Json.Record.ofJson? 12 s).bind (Value.readRecord? (Value.readWithin? depth))

/-- A nested value is nested in the document too, so the depth of the document is enough. -/
def Value.ofJson? (s : Json.Source) : Option Value := Value.readWithin? s.depth s

def Value.ofRecord? (members : List (String × Json.Source)) : Option Value :=
  Value.readRecord? (Value.readWithin? (Json.Source.obj members).depth) (.named members)

def Schema.ofJson? (s : Json.Source) : Option Schema := Schema.read? (Value.readWithin? s.depth) s

def SchemaOrRef.ofJson? (s : Json.Source) : Option SchemaOrRef :=
  SchemaOrRef.read? (Value.readWithin? s.depth) s

end ApiContext.Model
