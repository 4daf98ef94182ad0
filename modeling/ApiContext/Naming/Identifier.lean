import ApiContext.Text.Words

/-! Identifiers made from free text: one pass joins the alphanumeric runs by underscores, camel
case removes them again, and a leading ASCII digit is guarded by an underscore. -/
namespace ApiContext.Naming
open Text

/-- One pass over the text: `started` once something is written, `gap` after a separator. -/
def joinRuns (started gap : Bool) : List Char → List Char
  | [] => []
  | c :: r =>
    if isAlphanumeric c then
      (if started && gap then ['_', c] else [c]) ++ joinRuns true false r
    else joinRuns started true r

/-- What stands for text without any alphanumeric character. -/
def unnamed : List Char := ['u', 'n', 'n', 'a', 'm', 'e', 'd']

def sanitize (raw : List Char) : List Char :=
  match joinRuns false false raw with
  | [] => unnamed
  | joined => joined

def pascal (raw : List Char) : List Char := upperCamel (sanitize raw)

def guardDigit : List Char → List Char
  | [] => []
  | c :: r => if c.isDigit then '_' :: c :: r else c :: r

def typeName (raw : String) : String := .ofList (guardDigit (pascal raw.toList))

def fieldName (raw : String) : String := .ofList (guardDigit (lowerCamel (sanitize raw.toList)))

def enumCaseName (raw : String) : String := .ofList (guardDigit (pascal raw.toList))

example : typeName "HTTPServer pet_id" = "HttpServerPetId" := by decide +kernel
example : fieldName "2nd-item" = "_2ndItem" := by decide +kernel

end ApiContext.Naming
