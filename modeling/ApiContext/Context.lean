import ApiContext.Entries
import ApiContext.Json.Writer

/-! The finished context: a tree of scalars, sequences and mappings in which nothing is absent. -/
namespace ApiContext

inductive Context where
  | boolean (b : Bool)
  | integer (n : Int64)
  | float (x : Float)
  | text (s : String)
  | sequence (elems : List Context)
  | mapping (entries : List (String × Context))

namespace Context

def get? (key : String) : Context → Option Context
  | .mapping entries => entries.lookup key
  | _ => none

def at? (index : Nat) : Context → Option Context
  | .sequence elems => elems[index]?
  | _ => none

def asText? : Context → Option String
  | .text s => some s
  | _ => none

def asBoolean? : Context → Option Bool
  | .boolean b => some b
  | _ => none

def asInteger? : Context → Option Int64
  | .integer n => some n
  | _ => none

def asSequence? : Context → Option (List Context)
  | .sequence elems => some elems
  | _ => none

def asMapping? : Context → Option (Entries Context)
  | .mapping entries => some entries
  | _ => none

theorem least_le_toInt (n : Int64) : Json.least ≤ n.toInt := Int64.le_toInt n

theorem toInt_lt_unsignedBound (n : Int64) : n.toInt < Json.unsignedBound := by
  have h := Int64.toInt_lt n
  simp only [Json.unsignedBound]
  omega

/-- A double that is not finite is written as null. -/
def ofDouble (x : Float) : Json := ((Json.Number.ofFloat? x).map .num).getD .null

mutual

def toJson : Context → Json
  | .boolean b => .bool b
  | .integer n => .num (.integer n.toInt (least_le_toInt n) (toInt_lt_unsignedBound n))
  | .float x => ofDouble x
  | .text s => .str s
  | .sequence elems => .arr (elemsToJson elems)
  | .mapping entries => .obj (entriesToJson entries)

def elemsToJson : List Context → List Json
  | [] => []
  | e :: rest => e.toJson :: elemsToJson rest

def entriesToJson : List (String × Context) → List (String × Json)
  | [] => []
  | (k, v) :: rest => (k, v.toJson) :: entriesToJson rest

end

def render (c : Context) : String := c.toJson.render

mutual

/-- Equality of trees; doubles are equal when they are the same double. -/
def same : Context → Context → Bool
  | .boolean a, .boolean b => a == b
  | .integer a, .integer b => a == b
  | .float a, .float b => decide (a = b)
  | .text a, .text b => a == b
  | .sequence a, .sequence b => sameElems a b
  | .mapping a, .mapping b => sameEntries a b
  | _, _ => false

def sameElems : List Context → List Context → Bool
  | [], [] => true
  | a :: s, b :: t => same a b && sameElems s t
  | _, _ => false

def sameEntries : List (String × Context) → List (String × Context) → Bool
  | [], [] => true
  | (k, a) :: s, (l, b) :: t => k == l && same a b && sameEntries s t
  | _, _ => false

end

mutual

theorem same_iff : ∀ a b : Context, same a b = true ↔ a = b
  | .boolean _, b | .integer _, b | .float _, b | .text _, b => by cases b <;> simp [same]
  | .sequence s, b => by cases b <;> simp [same, sameElems_iff s]
  | .mapping s, b => by cases b <;> simp [same, sameEntries_iff s]

theorem sameElems_iff : ∀ s t : List Context, sameElems s t = true ↔ s = t
  | [], t => by cases t <;> simp [sameElems]
  | a :: s, [] => by simp [sameElems]
  | a :: s, b :: t => by simp [sameElems, same_iff a b, sameElems_iff s t]

theorem sameEntries_iff : ∀ s t : List (String × Context), sameEntries s t = true ↔ s = t
  | [], t => by cases t <;> simp [sameEntries]
  | (k, a) :: s, [] => by simp [sameEntries]
  | (k, a) :: s, (l, b) :: t => by simp [sameEntries, same_iff a b, sameEntries_iff s t]

end

instance : DecidableEq Context := fun a b => decidable_of_iff _ (same_iff a b)

end Context
end ApiContext
