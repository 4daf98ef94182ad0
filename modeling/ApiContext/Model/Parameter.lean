import ApiContext.Model.Value

/-! Parameters of an operation: a value and the place in the request that carries it. -/
namespace ApiContext.Model

inductive Location where
  | path | query | header | formData | body
deriving DecidableEq

namespace Location

def all : List Location := [.path, .query, .header, .formData, .body]

/-- The name in a description. -/
def key : Location → String
  | .path => "path"
  | .query => "query"
  | .header => "header"
  | .formData => "formData"
  | .body => "body"

/-- The name in a context. -/
def label : Location → String
  | .formData => "form"
  | l => l.key

end Location

structure Parameter where
  location : Location
  value : Value

namespace Parameter

def isBodyOrForm (p : Parameter) : Bool := p.location == .body || p.location == .formData

/-- The location is written before the fields of the value. -/
def toJson (p : Parameter) : Json := .record (("in", some (.str p.location.key)) :: p.value.fields)

/-- A parameter has no form as an array, since its fields are those of two records. Which of them a
name belongs to is asked of all that the object holds. -/
def ofJson? : Json.Source → Option Parameter :=
  Json.Source.whole fun
    | .obj members => do
      let location ← (Json.Record.named members).required 0 "in"
        (Json.choice? Location.all Location.key)
      return ⟨location, ← Value.ofRecord? members⟩
    | _ => none

end Parameter
end ApiContext.Model
