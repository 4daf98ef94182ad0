import ApiContext.Entries
import ApiContext.Json.Source

/-! Records read from JSON. A record is an object of named fields, in which unknown names are passed
over, or the array of its fields in their order, which may stop early only before defaults. What
repeats the name of a field is no record. Of JSON that is kept in its own shape the last member under
a key counts, and of a map the last value under it. -/
namespace ApiContext.Json
variable {α : Type}

def string? : Source → Option String
  | .str s => some s
  | _ => none

def bool? : Source → Option Bool
  | .bool b => some b
  | _ => none

def uint16? : Source → Option UInt16
  | .num (.integer n _ _) => if 0 ≤ n ∧ n < 0x10000 then some (.ofNat n.toNat) else none
  | _ => none

def list? (read : Source → Option α) : Source → Option (List α)
  | .arr elems => elems.mapM read
  | _ => none

def map? (read : Source → Option α) : Source → Option (OrderedMap α)
  | .obj members =>
    (members.mapM fun m => (read m.2).map (m.1, ·)).map OrderedMap.ofEntries
  | _ => none

/-- One of the given alternatives, as its name or as an object that holds null under its name. -/
def choice? (all : List α) (name : α → String) : Source → Option α
  | .str s => all.find? (name · == s)
  | .obj [(s, .null)] => all.find? (name · == s)
  | _ => none

/-- JSON of no fixed shape is kept with sorted members under distinct keys. -/
def free? (s : Source) : Option Json := s.toJson?.map fun j => j.distinct.sorted

inductive Record where
  | named (members : List (String × Source))
  | listed (elems : List Source)

namespace Record

/-- A list may not have more elements than the record has fields. -/
def ofJson? (size : Nat) : Source → Option Record
  | .obj members => some (.named members)
  | .arr elems => if elems.length ≤ size then some (.listed elems) else none
  | _ => none

/-- What the record holds in a field, if anything; a name may not stand twice. -/
def field? (position : Nat) (name : String) : Record → Option (Option Source)
  | .named members => Entries.only? name members
  | .listed elems => some elems[position]?

def required (r : Record) (position : Nat) (name : String) (read : Source → Option α) : Option α :=
  (r.field? position name).join.bind read

/-- Null is no value, and so is a missing name; a list has to hold the element. -/
def optional (r : Record) (position : Nat) (name : String) (read : Source → Option α) :
    Option (Option α) :=
  match r, r.field? position name with
  | _, none => none
  | .named _, some none => some none
  | .listed _, some none => none
  | _, some (some .null) => some none
  | _, some (some s) => (read s).map some

/-- Null does not stand for the default. -/
def defaulted (r : Record) (position : Nat) (name : String) (default : α)
    (read : Source → Option α) : Option α :=
  match r.field? position name with
  | none => none
  | some none => some default
  | some (some s) => read s

end Record

def texts (ss : List String) : List Json := ss.map .str

/-- An empty list has no place in a written record. -/
def unlessEmpty : List Json → Option Json
  | [] => none
  | elems => some (.arr elems)

def unlessEmptyMap : List (String × Json) → Option Json
  | [] => none
  | members => some (.obj members)

end ApiContext.Json
