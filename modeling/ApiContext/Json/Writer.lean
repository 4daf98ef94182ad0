import ApiContext.Json.Basic
import ApiContext.Decimal.Shortest

/-! Compact JSON text: no blanks, members in their own order, and no escape that is not needed. -/
namespace ApiContext.Json

/-- Doubles are written plainly for decimal exponents from -5 up to 15. -/
def floatStyle : Decimal.Style := ⟨-5, 16⟩

def Number.text : Number → String
  | .integer n _ _ => toString n
  | .float x _ => .ofList (Decimal.text floatStyle x)

example : (Number.ofFloat? 1000000000000000.0).map Number.text = some "1000000000000000.0" := by
  decide +kernel
example : (Number.ofFloat? 1e16).map Number.text = some "1e+16" := by decide +kernel
example : (Number.ofFloat? 0.00001).map Number.text = some "0.00001" := by decide +kernel
example : (Number.ofFloat? 5e-324).map Number.text = some "5e-324" := by decide +kernel
example : (Number.ofFloat? (-0.0)).map Number.text = some "-0.0" := by decide +kernel

def escape (c : Char) : List Char :=
  if c = '"' then ['\\', '"']
  else if c = '\\' then ['\\', '\\']
  else if c = '\n' then ['\\', 'n']
  else if c = '\r' then ['\\', 'r']
  else if c = '\t' then ['\\', 't']
  else if c = '\x08' then ['\\', 'b']
  else if c = '\x0c' then ['\\', 'f']
  else if c.toNat < 32 then
    ['\\', 'u', '0', '0', Nat.digitChar (c.toNat / 16), Nat.digitChar (c.toNat % 16)]
  else [c]

def quote (s : String) : String := "\"" ++ .ofList (s.toList.flatMap escape) ++ "\""

mutual

def render : Json → String
  | .null => "null"
  | .bool b => if b then "true" else "false"
  | .num n => n.text
  | .str s => quote s
  | .arr elems => "[" ++ ",".intercalate (renderElems elems) ++ "]"
  | .obj members => "\x7b" ++ ",".intercalate (renderMembers members) ++ "\x7d"

def renderElems : List Json → List String
  | [] => []
  | e :: rest => e.render :: renderElems rest

def renderMembers : List (String × Json) → List String
  | [] => []
  | (k, v) :: rest => (quote k ++ ":" ++ v.render) :: renderMembers rest

end

end ApiContext.Json
