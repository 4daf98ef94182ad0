import ApiContext.Context

/-! Drafts of a context, in which a value may be absent. Pruning drops what is absent at every depth
and nothing else, so an empty text, sequence or mapping stays. -/
namespace ApiContext

inductive Draft where
  | absent
  | boolean (b : Bool)
  | integer (n : Int64)
  | float (x : Float)
  | text (s : String)
  | sequence (elems : List Draft)
  | mapping (entries : List (String × Draft))

namespace Draft

def isAbsent : Draft → Bool
  | .absent => true
  | _ => false

mutual

def prune : Draft → Option Context
  | .absent => none
  | .boolean b => some (.boolean b)
  | .integer n => some (.integer n)
  | .float x => some (.float x)
  | .text s => some (.text s)
  | .sequence elems => some (.sequence (pruneElems elems))
  | .mapping entries => some (.mapping (pruneEntries entries))

def pruneElems : List Draft → List Context
  | [] => []
  | e :: rest =>
    match e.prune with
    | none => pruneElems rest
    | some c => c :: pruneElems rest

def pruneEntries : List (String × Draft) → List (String × Context)
  | [] => []
  | (k, v) :: rest =>
    match v.prune with
    | none => pruneEntries rest
    | some c => (k, c) :: pruneEntries rest

end

/-- The value under a key, absent for a key that is missing and for any draft but a mapping. -/
def get (key : String) : Draft → Draft
  | .mapping entries => (entries.lookup key).getD .absent
  | _ => .absent

mutual

/-- Each key of a mapping stands once, at every depth. -/
def WellFormed : Draft → Prop
  | .sequence elems => WellFormedElems elems
  | .mapping entries => (Entries.keys entries).Nodup ∧ WellFormedEntries entries
  | _ => True

def WellFormedElems : List Draft → Prop
  | [] => True
  | e :: rest => e.WellFormed ∧ WellFormedElems rest

def WellFormedEntries : List (String × Draft) → Prop
  | [] => True
  | (_, v) :: rest => v.WellFormed ∧ WellFormedEntries rest

end

/-- An integer beyond 64 signed bits becomes the nearest double. -/
def ofNumber : Json.Number → Draft
  | .integer n _ _ => if n < Json.signedBound then .integer (.ofInt n) else .float (.ofInt n)
  | .float x _ => .float x

mutual

/-- Null is absent. -/
def ofJson : Json → Draft
  | .null => .absent
  | .bool b => .boolean b
  | .num n => ofNumber n
  | .str s => .text s
  | .arr elems => .sequence (ofJsons elems)
  | .obj members => .mapping (ofMembers members)

def ofJsons : List Json → List Draft
  | [] => []
  | e :: rest => ofJson e :: ofJsons rest

def ofMembers : List (String × Json) → List (String × Draft)
  | [] => []
  | (k, v) :: rest => (k, ofJson v) :: ofMembers rest

end

mutual

def ofContext : Context → Draft
  | .boolean b => .boolean b
  | .integer n => .integer n
  | .float x => .float x
  | .text s => .text s
  | .sequence elems => .sequence (ofContexts elems)
  | .mapping entries => .mapping (ofEntries entries)

def ofContexts : List Context → List Draft
  | [] => []
  | e :: rest => ofContext e :: ofContexts rest

def ofEntries : List (String × Context) → List (String × Draft)
  | [] => []
  | (k, v) :: rest => (k, ofContext v) :: ofEntries rest

end

def ofText? (s : Option String) : Draft := (s.map text).getD absent

def ofTexts (ss : List String) : Draft := .sequence (ss.map text)

def ofOption (d : Option Draft) : Draft := d.getD .absent

theorem pruneElems_eq (elems : List Draft) : pruneElems elems = elems.filterMap prune := by
  induction elems with
  | nil => rfl
  | cons e rest ih =>
    simp only [pruneElems, List.filterMap_cons, ih]
    cases e.prune <;> rfl

theorem pruneEntries_eq (entries : List (String × Draft)) :
    pruneEntries entries = entries.filterMap fun e => e.2.prune.map (e.1, ·) := by
  induction entries with
  | nil => rfl
  | cons e rest ih =>
    obtain ⟨k, v⟩ := e
    simp only [pruneEntries, List.filterMap_cons, ih]
    cases v.prune <;> rfl

theorem ofMembers_eq (ms : List (String × Json)) :
    ofMembers ms = ms.map fun m => (m.1, ofJson m.2) := by
  induction ms with
  | nil => rfl
  | cons m rest ih =>
    obtain ⟨k, v⟩ := m
    rw [ofMembers, ih, List.map_cons]

theorem keys_ofMembers (ms : List (String × Json)) :
    Entries.keys (ofMembers ms) = Entries.keys ms := by
  rw [ofMembers_eq, Entries.keys, List.map_map]
  rfl

theorem ofJsons_eq (js : List Json) : ofJsons js = js.map ofJson := by
  induction js with
  | nil => rfl
  | cons j rest ih => rw [ofJsons, ih, List.map_cons]

end Draft
end ApiContext
