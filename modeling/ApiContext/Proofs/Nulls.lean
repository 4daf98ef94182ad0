import Mathlib.Data.List.Forall2
import ApiContext.Proofs.Doubles
import ApiContext.Proofs.Sorting
import ApiContext.Resolve.Basic

/-! JSON and contexts. A context made from JSON is written as that JSON without its nulls; JSON made
from a context gives the context back, as long as its doubles can be written. -/
namespace ApiContext

namespace Json

/-- A number as contexts keep it: beyond 64 signed bits an integer becomes the nearest double. -/
def Number.signed : Number → Number
  | .integer n lower upper =>
    if h : n < signedBound then .integer n lower upper
    else .float (.ofInt n) (isFinite_ofInt (Int.not_lt.mp h) upper)
  | .float x finite => .float x finite

def isNull : Json → Bool
  | .null => true
  | _ => false

mutual

/-- Without the elements and members that are null, at every depth. What has lost all of them stays
as an empty array or object. -/
def withoutNulls : Json → Json
  | .null => .null
  | .bool b => .bool b
  | .num n => .num n.signed
  | .str s => .str s
  | .arr elems => .arr (elemsWithoutNulls elems)
  | .obj members => .obj (membersWithoutNulls members)

def elemsWithoutNulls : List Json → List Json
  | [] => []
  | e :: rest =>
    if e.isNull then elemsWithoutNulls rest else e.withoutNulls :: elemsWithoutNulls rest

def membersWithoutNulls : List (String × Json) → List (String × Json)
  | [] => []
  | (k, v) :: rest =>
    if v.isNull then membersWithoutNulls rest
    else (k, v.withoutNulls) :: membersWithoutNulls rest

end

theorem isNull_iff {j : Json} : j.isNull = true ↔ j = .null := by
  cases j <;> simp [isNull]

theorem sorted_eq_null_iff {j : Json} : j.sorted = .null ↔ j = .null := by
  cases j <;> simp [sorted]

end Json

namespace Context

mutual

/-- No double is infinite or not a number. -/
def FloatsFinite : Context → Prop
  | .float x => x.isFinite = true
  | .sequence elems => ElemsFinite elems
  | .mapping entries => EntriesFinite entries
  | _ => True

def ElemsFinite : List Context → Prop
  | [] => True
  | e :: rest => e.FloatsFinite ∧ ElemsFinite rest

def EntriesFinite : List (String × Context) → Prop
  | [] => True
  | (_, v) :: rest => v.FloatsFinite ∧ EntriesFinite rest

end

mutual

/-- `Reordered c d`: the trees are equal but for the order of the entries of mappings. -/
inductive Reordered : Context → Context → Prop
  | boolean (b) : Reordered (.boolean b) (.boolean b)
  | integer (n) : Reordered (.integer n) (.integer n)
  | float (x) : Reordered (.float x) (.float x)
  | text (s) : Reordered (.text s) (.text s)
  | sequence {elems elems'} : ReorderedElems elems elems' →
      Reordered (.sequence elems) (.sequence elems')
  | mapping {entries entries' shuffled} : ReorderedEntries entries entries' →
      entries'.Perm shuffled → Reordered (.mapping entries) (.mapping shuffled)

/-- Item by item. -/
inductive ReorderedElems : List Context → List Context → Prop
  | nil : ReorderedElems [] []
  | cons {e e' rest rest'} : Reordered e e' → ReorderedElems rest rest' →
      ReorderedElems (e :: rest) (e' :: rest')

/-- Entry by entry, each under its key. -/
inductive ReorderedEntries : List (String × Context) → List (String × Context) → Prop
  | nil : ReorderedEntries [] []
  | cons {k v v' rest rest'} : Reordered v v' → ReorderedEntries rest rest' →
      ReorderedEntries ((k, v) :: rest) ((k, v') :: rest')

end

/-! ### From JSON -/

theorem ofDouble_of_isFinite {x : Float} (h : x.isFinite = true) :
    ofDouble x = .num (.float x h) := by
  simp [ofDouble, Json.Number.ofFloat?, h]

theorem toJson_prune_ofNumber (n : Json.Number) :
    (Draft.ofNumber n).prune.map toJson = some (.num n.signed) := by
  cases n with
  | integer n lower upper =>
    rw [Draft.ofNumber, Json.Number.signed]
    by_cases h : n < Json.signedBound
    · have hvalue : (Int64.ofInt n).toInt = n := by
        simp only [Json.least, Json.signedBound] at lower h
        exact Int64.toInt_ofInt_of_le (by omega) (by omega)
      simp only [if_pos h, dif_pos h, Draft.prune, Option.map_some, toJson, hvalue]
    · have hfinite := isFinite_ofInt (Int.not_lt.mp h) upper
      simp only [if_neg h, dif_neg h, Draft.prune, Option.map_some, toJson,
        ofDouble_of_isFinite hfinite]
  | float x finite =>
    exact congrArg some (ofDouble_of_isFinite finite)

mutual

theorem toJson_prune_ofJson : (j : Json) → (Draft.ofJson j).prune.map toJson =
    if j.isNull then none else some j.withoutNulls
  | .null | .bool _ | .str _ => rfl
  | .num n => toJson_prune_ofNumber n
  | .arr elems => by
    have h := elemsToJson_pruneElems elems
    simp only [Draft.ofJson, Draft.prune, Option.map_some, toJson, h]
    rfl
  | .obj members => by
    have h := entriesToJson_pruneEntries members
    simp only [Draft.ofJson, Draft.prune, Option.map_some, toJson, h]
    rfl

theorem elemsToJson_pruneElems : (elems : List Json) →
    elemsToJson (Draft.pruneElems (Draft.ofJsons elems)) = Json.elemsWithoutNulls elems
  | [] => rfl
  | e :: rest => by
    have he := toJson_prune_ofJson e
    have hrest := elemsToJson_pruneElems rest
    rw [Draft.ofJsons, Draft.pruneElems, Json.elemsWithoutNulls, ← hrest]
    cases hnull : e.isNull with
    | true =>
      have hnone : (Draft.ofJson e).prune = none := by simpa [hnull] using he
      rw [hnone, if_pos rfl]
    | false =>
      obtain ⟨c, hc, htree⟩ : ∃ c, (Draft.ofJson e).prune = some c ∧ c.toJson = e.withoutNulls := by
        simpa [hnull] using he
      rw [hc, elemsToJson, htree]
      rfl

theorem entriesToJson_pruneEntries : (members : List (String × Json)) →
    entriesToJson (Draft.pruneEntries (Draft.ofMembers members)) = Json.membersWithoutNulls members
  | [] => rfl
  | (k, v) :: rest => by
    have hv := toJson_prune_ofJson v
    have hrest := entriesToJson_pruneEntries rest
    rw [Draft.ofMembers, Draft.pruneEntries, Json.membersWithoutNulls, ← hrest]
    cases hnull : v.isNull with
    | true =>
      have hnone : (Draft.ofJson v).prune = none := by simpa [hnull] using hv
      rw [hnone, if_pos rfl]
    | false =>
      obtain ⟨c, hc, htree⟩ : ∃ c, (Draft.ofJson v).prune = some c ∧ c.toJson = v.withoutNulls := by
        simpa [hnull] using hv
      rw [hc, entriesToJson, htree]
      rfl

end

theorem prune_ofJson_eq_none_iff {j : Json} : (Draft.ofJson j).prune = none ↔ j = .null := by
  have h := toJson_prune_ofJson j
  rw [← Option.map_eq_none_iff, h, ← Json.isNull_iff]
  simp

theorem toJson_of_prune_ofJson {j : Json} {t : Context} (ht : (Draft.ofJson j).prune = some t) :
    t.toJson = j.withoutNulls := by
  have h := toJson_prune_ofJson j
  have hnull : j.isNull = false := by
    by_contra hj
    simp [ht, hj] at h
  simpa [ht, hnull] using h

/-! ### From contexts -/

theorem prune_ofNumber_integer (n : Int64) : (Draft.ofNumber (.integer n.toInt
    (least_le_toInt n) (toInt_lt_unsignedBound n))).prune = some (.integer n) := by
  have h : n.toInt < Json.signedBound := Int64.toInt_lt n
  rw [Draft.ofNumber, if_pos h, Int64.ofInt_toInt]
  rfl

mutual

theorem prune_ofJson_toJson : (c : Context) → c.FloatsFinite →
    (Draft.ofJson c.toJson).prune = some c
  | .boolean _, _ | .text _, _ => rfl
  | .integer n, _ => prune_ofNumber_integer n
  | .float x, h => by
    rw [toJson, ofDouble_of_isFinite h]
    rfl
  | .sequence elems, h => by
    rw [toJson, Draft.ofJson, Draft.prune, pruneElems_elemsToJson elems h]
  | .mapping entries, h => by
    rw [toJson, Draft.ofJson, Draft.prune, pruneEntries_entriesToJson entries h]

theorem pruneElems_elemsToJson : (elems : List Context) → ElemsFinite elems →
    Draft.pruneElems (Draft.ofJsons (elemsToJson elems)) = elems
  | [], _ => rfl
  | e :: rest, h => by
    rw [elemsToJson, Draft.ofJsons, Draft.pruneElems, prune_ofJson_toJson e h.1,
      pruneElems_elemsToJson rest h.2]

theorem pruneEntries_entriesToJson : (entries : List (String × Context)) → EntriesFinite entries →
    Draft.pruneEntries (Draft.ofMembers (entriesToJson entries)) = entries
  | [], _ => rfl
  | (k, v) :: rest, h => by
    rw [entriesToJson, Draft.ofMembers, Draft.pruneEntries, prune_ofJson_toJson v h.1,
      pruneEntries_entriesToJson rest h.2]

end

/-! ### Sorted members -/

mutual

/-- Sorting moves entries only. -/
theorem exists_reordered : (c : Context) → c.FloatsFinite →
    ∃ d, (Draft.ofJson c.toJson.sorted).prune = some d ∧ Reordered c d
  | .boolean b, _ => ⟨_, rfl, .boolean b⟩
  | .text s, _ => ⟨_, rfl, .text s⟩
  | .integer n, _ => ⟨_, prune_ofNumber_integer n, .integer n⟩
  | .float x, h => by
    refine ⟨.float x, ?_, .float x⟩
    rw [toJson, ofDouble_of_isFinite h]
    rfl
  | .sequence elems, h => ⟨_, rfl, .sequence (reorderedElems elems h)⟩
  | .mapping entries, h => by
    have hsorted := Json.sortedMembers_perm (entriesToJson entries)
    refine ⟨_, rfl, .mapping (reorderedEntries entries h) ?_⟩
    simp only [Draft.pruneEntries_eq, Draft.ofMembers_eq]
    exact ((hsorted.map _).filterMap _).symm

theorem reorderedElems : (elems : List Context) → ElemsFinite elems → ReorderedElems elems
    (Draft.pruneElems (Draft.ofJsons (Json.sortedElems (elemsToJson elems))))
  | [], _ => .nil
  | e :: rest, h => by
    obtain ⟨d, hd, hr⟩ := exists_reordered e h.1
    rw [elemsToJson, Json.sortedElems, Draft.ofJsons, Draft.pruneElems, hd]
    exact .cons hr (reorderedElems rest h.2)

theorem reorderedEntries : (entries : List (String × Context)) → EntriesFinite entries →
    ReorderedEntries entries (Draft.pruneEntries (Draft.ofMembers
      ((entriesToJson entries).map fun m => (m.1, m.2.sorted))))
  | [], _ => .nil
  | (k, v) :: rest, h => by
    obtain ⟨d, hd, hr⟩ := exists_reordered v h.1
    rw [entriesToJson, List.map_cons, Draft.ofMembers, Draft.pruneEntries, hd]
    exact .cons hr (reorderedEntries rest h.2)

end

end Context

open Context

/-- Nothing but null has no tree. The tree of any other JSON is written as that JSON without its
nulls, integers beyond 64 signed bits as doubles. A tree whose doubles can be written is the tree of
the JSON that it is written as; where the members of that JSON are sorted, so are its entries. -/
theorem json_contexts :
    (∀ j : Json, ((Draft.ofJson j).prune = none ↔ j = .null) ∧
      ((Resolve.raw j).prune = none ↔ j = .null)) ∧
    (∀ (j : Json) (t : Context), ((Draft.ofJson j).prune = some t → t.toJson = j.withoutNulls) ∧
      ((Resolve.raw j).prune = some t → t.toJson = j.sorted.withoutNulls)) ∧
    ∀ c : Context, c.FloatsFinite → (Draft.ofJson c.toJson).prune = some c ∧
      ∃ d, (Resolve.raw c.toJson).prune = some d ∧ Reordered c d := by
  refine ⟨fun j => ⟨prune_ofJson_eq_none_iff, ?_⟩, fun j t => ?_, fun c h => ?_⟩
  · exact prune_ofJson_eq_none_iff.trans Json.sorted_eq_null_iff
  · exact ⟨toJson_of_prune_ofJson, toJson_of_prune_ofJson⟩
  · exact ⟨prune_ofJson_toJson c h, exists_reordered c h⟩

/-- The least integer that is no signed one. -/
def Json.Number.beyond : Json.Number := .integer 0x8000000000000000 (by decide) (by decide)

def gaps : Json :=
  .obj [("b", .arr [.null, .num .beyond]), ("a", .null), ("c", .obj [("d", .null)])]

def halves : Context := .mapping [("y", .float 0.5), ("x", .text "half")]

theorem json_contexts_gaps :
    (∃ t, (Resolve.raw gaps).prune = some t ∧ t.toJson =
      .obj [("b", .arr [.num (.float 9223372036854775808.0 (by decide))]), ("c", .obj [])]) ∧
    halves.FloatsFinite ∧ (Draft.ofJson halves.toJson).prune = some halves ∧
      ∃ d, (Resolve.raw halves.toJson).prune = some d ∧ Reordered halves d := by
  have hhalf : (0.5 : Float).isFinite = true := by decide
  have hfinite : halves.FloatsFinite := ⟨hhalf, trivial, trivial⟩
  obtain ⟨hnone, htree, hback⟩ := json_contexts
  refine ⟨?_, hfinite, hback halves hfinite⟩
  obtain ⟨t, ht⟩ : ∃ t, (Resolve.raw gaps).prune = some t := ⟨_, rfl⟩
  refine ⟨t, ht, ((htree gaps t).2 ht).trans ?_⟩
  rfl

end ApiContext
