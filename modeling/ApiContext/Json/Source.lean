import ApiContext.Json.Basic

/-! JSON as a text has it. A number beyond the doubles and a container nested too deeply may stand
where they are passed over, but they have no value; all else reads as the value that it shows. An
object keeps all its members, also those that share a key: which of them count is for its reader to
say. -/
namespace ApiContext

inductive Json.Source where
  | null
  | bool (b : Bool)
  | num (n : Json.Number)
  | str (s : String)
  | arr (elems : List Json.Source)
  | obj (members : List (String × Json.Source))
  | beyond

namespace Json.Source

def get? (key : String) : Source → Option Source
  | .obj members => members.lookup key
  | _ => none

mutual

/-- Scalars have depth one. -/
def depth : Source → Nat
  | .arr elems => depthElems elems + 1
  | .obj members => depthMembers members + 1
  | _ => 1

def depthElems : List Source → Nat
  | [] => 0
  | e :: rest => max e.depth (depthElems rest)

def depthMembers : List (String × Source) → Nat
  | [] => 0
  | (_, v) :: rest => max v.depth (depthMembers rest)

end

mutual

/-- The value, unless something in it lies beyond. -/
def toJson? : Source → Option Json
  | .null => some .null
  | .bool b => some (.bool b)
  | .num n => some (.num n)
  | .str s => some (.str s)
  | .arr elems => (toJsons? elems).map .arr
  | .obj members => (toMembers? members).map .obj
  | .beyond => none

def toJsons? : List Source → Option (List Json)
  | [] => some []
  | e :: rest => do return (← e.toJson?) :: (← toJsons? rest)

def toMembers? : List (String × Source) → Option (List (String × Json))
  | [] => some []
  | (k, v) :: rest => do return (k, ← v.toJson?) :: (← toMembers? rest)

end

mutual

def ofJson : Json → Source
  | .null => .null
  | .bool b => .bool b
  | .num n => .num n
  | .str s => .str s
  | .arr elems => .arr (ofJsons elems)
  | .obj members => .obj (ofMembers members)

def ofJsons : List Json → List Source
  | [] => []
  | e :: rest => ofJson e :: ofJsons rest

def ofMembers : List (String × Json) → List (String × Source)
  | [] => []
  | (k, v) :: rest => (k, ofJson v) :: ofMembers rest

end

mutual

theorem toJson?_ofJson : (j : Json) → (ofJson j).toJson? = some j
  | .null | .bool _ | .num _ | .str _ => rfl
  | .arr elems => by simp [ofJson, toJson?, toJsons?_ofJsons elems]
  | .obj members => by simp [ofJson, toJson?, toMembers?_ofMembers members]

theorem toJsons?_ofJsons : (elems : List Json) → toJsons? (ofJsons elems) = some elems
  | [] => rfl
  | e :: rest => by simp [ofJsons, toJsons?, toJson?_ofJson e, toJsons?_ofJsons rest]

theorem toMembers?_ofMembers :
    (members : List (String × Json)) → toMembers? (ofMembers members) = some members
  | [] => rfl
  | (_, v) :: rest => by simp [ofMembers, toMembers?, toJson?_ofJson v, toMembers?_ofMembers rest]

end

/-- A reader that refuses what lies beyond also where it passes over it. -/
def whole {α : Type} (read : Source → Option α) (s : Source) : Option α :=
  if s.toJson?.isSome then read s else none

end Json.Source
end ApiContext
