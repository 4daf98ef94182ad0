import ApiContext.Journal
import ApiContext.Naming.Identifier
import ApiContext.Settings.Basic

/-! Naming profiles: the type names that a target language disallows, and how to escape them. -/
namespace ApiContext

/-- How a disallowed name is renamed, for a model and for an enum. -/
structure Escape where
  model : String → String
  enum : String → String

def Escape.marked (mark : String) : Escape := ⟨(mark ++ ·), (mark ++ ·)⟩

def Escape.underscore : Escape := .marked "_"

structure Profile where
  name : String
  disallowed : List String
  escape : Escape

namespace Profile

def plain : Profile := ⟨"default", [], .underscore⟩

/-- Keywords and types of the standard library. -/
def swiftNames : List String := [
  "Any", "AnyObject", "Array", "Bool", "Character", "Class", "Codable", "Data", "Date", "Decimal",
  "Decodable", "Dictionary", "Double", "Encodable", "Enum", "Error", "Float", "Int", "Int32",
  "Int64", "Optional", "Protocol", "Result", "Self", "Set", "String", "Struct", "Type", "URL",
  "UUID", "Void"]

def swift : Profile := ⟨"swift", swiftNames, .underscore⟩

def named? (name : String) : Option Profile :=
  if name = plain.name then some plain else if name = swift.name then some swift else none

/-- The profile that settings select; an unknown one gives the plain profile and is logged. -/
def ofSettings (s : Settings) : StateM Journal Profile := do
  let base ← match named? s.profile with
    | some p => pure p
    | none => do
      modify (·.log (.unknownProfile s.profile))
      pure plain
  return {
    name := base.name
    disallowed := base.disallowed ++ s.reserved
    escape := (s.escapePrefix.map Escape.marked).getD base.escape }

def isDisallowed (p : Profile) (name : String) : Bool := p.disallowed.contains name

def typeName (p : Profile) (raw : String) : String :=
  let name := Naming.typeName raw
  if p.isDisallowed name then p.escape.model name else name

def enumName (p : Profile) (raw : String) : String :=
  let name := Naming.typeName raw
  if p.isDisallowed name then p.escape.enum name else name

end Profile
end ApiContext
