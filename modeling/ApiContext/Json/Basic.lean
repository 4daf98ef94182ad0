import ApiContext.Entries

/-! JSON values that keep the order of their members. An integer lies in the union of the signed and
the unsigned range of 64 bits; any other number is a finite double. -/
namespace ApiContext

/-- The least signed integer of 64 bits. -/
def Json.least : Int := -0x8000000000000000

/-- The bound of the signed integers of 64 bits. -/
def Json.signedBound : Int := 0x8000000000000000

/-- The bound of the unsigned integers of 64 bits. -/
def Json.unsignedBound : Int := 0x10000000000000000

inductive Json.Number where
  | integer (n : Int) (lower : Json.least ≤ n) (upper : n < Json.unsignedBound)
  | float (x : Float) (finite : x.isFinite = true)
deriving DecidableEq

inductive Json where
  | null
  | bool (b : Bool)
  | num (n : Json.Number)
  | str (s : String)
  | arr (elems : List Json)
  | obj (members : List (String × Json))

namespace Json

def Number.ofInt? (n : Int) : Option Number :=
  if h : least ≤ n ∧ n < unsignedBound then some (.integer n h.1 h.2) else none

def Number.ofFloat? (x : Float) : Option Number :=
  if h : x.isFinite = true then some (.float x h) else none

theorem least_le_toNat (n : UInt16) : least ≤ n.toNat := by
  simp only [least]
  omega

theorem toNat_lt_unsignedBound (n : UInt16) : n.toNat < unsignedBound := by
  have h := n.toNat_lt
  simp only [unsignedBound]
  omega

def ofUInt16 (n : UInt16) : Json :=
  .num (.integer n.toNat (least_le_toNat n) (toNat_lt_unsignedBound n))

/-- Puts a member behind those with lesser keys. -/
def insertSorted (key : String) (value : Json) : List (String × Json) → List (String × Json)
  | [] => [(key, value)]
  | (k, v) :: rest =>
    if k < key then (k, v) :: insertSorted key value rest else (key, value) :: (k, v) :: rest

mutual

/-- Members in ascending order of their keys, by code points, at every depth. -/
def sorted : Json → Json
  | .arr elems => .arr (sortedElems elems)
  | .obj members => .obj (sortedMembers members)
  | j => j

def sortedElems : List Json → List Json
  | [] => []
  | e :: rest => e.sorted :: sortedElems rest

def sortedMembers : List (String × Json) → List (String × Json)
  | [] => []
  | (k, v) :: rest => insertSorted k v.sorted (sortedMembers rest)

end

mutual

/-- Members under distinct keys, at every depth; of those that share a key the last one counts. -/
def distinct : Json → Json
  | .arr elems => .arr (distinctElems elems)
  | .obj members => .obj (OrderedMap.ofEntries (distinctValues members)).entries
  | j => j

def distinctElems : List Json → List Json
  | [] => []
  | e :: rest => e.distinct :: distinctElems rest

def distinctValues : List (String × Json) → List (String × Json)
  | [] => []
  | (k, v) :: rest => (k, v.distinct) :: distinctValues rest

end

/-- A record of named fields, in order, without those that have no value. -/
def record (fields : List (String × Option Json)) : Json :=
  .obj (fields.filterMap fun (name, value?) => value?.map (name, ·))

end Json
end ApiContext
