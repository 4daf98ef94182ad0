import Mathlib.Data.List.Forall2
import ApiContext.Draft
import ApiContext.Entries

/-! Two contexts side by side. They agree when each path leads to the same in both, or to nothing in
both, except where a name stands: there the names may differ as a relation says. -/
namespace ApiContext

inductive Step where
  | key (name : String)
  | index (i : Nat)

/-- What stands at a place of a context. A raw description, a default, the members of an enum and
whatever else is copied from the description is fixed. -/
inductive Kind where
  | description | tag | operation | response | schema | value | typeName | enumName | fixed
deriving DecidableEq

namespace Kind

/-- The keys under which something else stands than what is fixed. -/
def fields : Kind → Entries Kind
  | description => [
    ("operations", operation), ("tags", tag), ("definitions", schema), ("enums", value)]
  | tag => [("operations", operation)]
  | operation => [
    ("params", value), ("nonBodyParams", value), ("bodyParam", value), ("pathParams", value),
    ("queryParams", value), ("headerParams", value), ("formParams", value), ("enums", value),
    ("responses", response), ("successResponse", response), ("successType", typeName)]
  | response => [("schema", value)]
  | schema => [
    ("type", typeName), ("parent", schema), ("requiredProperties", value),
    ("optionalProperties", value), ("properties", value), ("allProperties", value),
    ("enums", value)]
  | value => [
    ("type", typeName), ("enumName", enumName), ("arrayType", typeName),
    ("dictionaryType", typeName)]
  | typeName => []
  | enumName => []
  | fixed => []

/-- An item is of the kind of its sequence. -/
def below (k : Kind) : Step → Kind
  | .key name => (k.fields.lookup name).getD fixed
  | .index _ => k

/-- The kind of the place to which a path leads. -/
def along (k : Kind) (path : List Step) : Kind := path.foldl below k

def isName (k : Kind) : Bool := k = typeName || k = enumName

end Kind

/-! ### Options and lists related item by item -/

section related
variable {α β γ δ : Type} {S : α → β → Prop} {T : γ → δ → Prop}

theorem rel_bind {f : α → Option γ} {g : β → Option δ} {o : Option α} {o' : Option β}
    (h : Option.Rel S o o') (hfg : ∀ a b, S a b → Option.Rel T (f a) (g b)) :
    Option.Rel T (o.bind f) (o'.bind g) := by
  cases h with
  | none => exact .none
  | some hab => exact hfg _ _ hab

theorem rel_getElem? {as : List α} {bs : List β} (h : List.Forall₂ S as bs) (i : Nat) :
    Option.Rel S as[i]? bs[i]? := by
  induction h generalizing i with
  | nil => exact .none
  | cons hab _ ih =>
    cases i with
    | zero => exact .some hab
    | succ i => exact ih i

/-- Entries with the same keys, related under each key, stay so when a key is set on both sides. -/
theorem rel_set {R : String → α → β → Prop} {es : Entries α} {fs : Entries β} {key : String}
    {a : α} {b : β} (hkey : R key a b)
    (h : List.Forall₂ (fun e f => e.1 = f.1 ∧ R e.1 e.2 f.2) es fs) :
    List.Forall₂ (fun e f => e.1 = f.1 ∧ R e.1 e.2 f.2)
      (Entries.set key a es) (Entries.set key b fs) := by
  induction h with
  | nil => exact .cons ⟨rfl, hkey⟩ .nil
  | @cons e f es fs hef hrest ih =>
    obtain ⟨k, x⟩ := e
    obtain ⟨l, y⟩ := f
    obtain ⟨rfl, hxy⟩ := hef
    rw [Entries.set, Entries.set]
    by_cases hk : k = key
    · rw [if_pos hk, if_pos hk]
      exact .cons ⟨rfl, hkey⟩ hrest
    · rw [if_neg hk, if_neg hk]
      exact .cons ⟨rfl, hxy⟩ ih

end related

/-! ### Trees -/

namespace Context

def step? (t : Context) : Step → Option Context
  | .key name => t.get? name
  | .index i => t.at? i

def follow? (t : Context) : List Step → Option Context
  | [] => some t
  | s :: rest => (t.step? s).bind (·.follow? rest)

/-- What a tree shows without its branches. -/
inductive Face where
  | boolean (b : Bool)
  | integer (n : Int64)
  | float (x : Float)
  | text (s : String)
  | sequence (length : Nat)
  | mapping (keys : List String)

def face : Context → Face
  | .boolean b => .boolean b
  | .integer n => .integer n
  | .float x => .float x
  | .text s => .text s
  | .sequence elems => .sequence elems.length
  | .mapping entries => .mapping (Entries.keys entries)

variable {R : Kind → String → String → Prop} {k : Kind} {t u : Context}

/-- Trees that show the same, or names that may differ. -/
def Alike (R : Kind → String → String → Prop) (k : Kind) (t u : Context) : Prop :=
  t.face = u.face ∨ ∃ a b, t = .text a ∧ u = .text b ∧ R k a b

/-- Trees that are alike at every path. -/
def Agree (R : Kind → String → String → Prop) (k : Kind) (t u : Context) : Prop :=
  ∀ path, Option.Rel (Alike R (k.along path)) (t.follow? path) (u.follow? path)

theorem agree_refl (t : Context) : Agree R k t t := by
  intro path
  cases t.follow? path with
  | none => exact .none
  | some t => exact .some (.inl rfl)

theorem agree_of_steps (h : Alike R k t u)
    (hs : ∀ s, Option.Rel (Agree R (k.below s)) (t.step? s) (u.step? s)) : Agree R k t u := by
  intro path
  cases path with
  | nil => exact .some h
  | cons s rest => exact rel_bind (hs s) fun _ _ h => h rest

theorem agree_text {a b : String} (h : a = b ∨ R k a b) : Agree R k (.text a) (.text b) := by
  refine agree_of_steps ?_ ?_
  · cases h with
    | inl h => exact .inl (h ▸ rfl)
    | inr h => exact .inr ⟨a, b, rfl, rfl, h⟩
  · intro s
    cases s with
    | key name => exact .none
    | index i => exact .none

theorem agree_sequence {ts us : List Context} (h : List.Forall₂ (Agree R k) ts us) :
    Agree R k (.sequence ts) (.sequence us) := by
  refine agree_of_steps (.inl (congrArg Face.sequence h.length_eq)) ?_
  intro s
  cases s with
  | key name => exact .none
  | index i => exact rel_getElem? h i

/-- Entries with the same keys, under which trees agree. -/
def AgreeEntries (R : Kind → String → String → Prop) (k : Kind) :
    Entries Context → Entries Context → Prop :=
  List.Forall₂ fun e f => e.1 = f.1 ∧ Agree R (k.below (.key e.1)) e.2 f.2

theorem keys_eq_of_agree {es fs : Entries Context} (h : AgreeEntries R k es fs) :
    Entries.keys es = Entries.keys fs := by
  induction h with
  | nil => rfl
  | cons he _ ih => exact congrArg₂ List.cons he.1 ih

theorem rel_lookup {es fs : Entries Context} (h : AgreeEntries R k es fs) (name : String) :
    Option.Rel (Agree R (k.below (.key name))) (es.lookup name) (fs.lookup name) := by
  induction h with
  | nil => exact .none
  | @cons e f es fs he _ ih =>
    obtain ⟨hkey, hagree⟩ := he
    rw [List.lookup_cons, List.lookup_cons, ← hkey]
    by_cases hname : name = e.1
    · subst hname
      simpa using hagree
    · simpa [beq_eq_false_iff_ne.mpr hname] using ih

theorem agree_mapping {es fs : Entries Context} (h : AgreeEntries R k es fs) :
    Agree R k (.mapping es) (.mapping fs) := by
  refine agree_of_steps (.inl (congrArg Face.mapping (keys_eq_of_agree h))) ?_
  intro s
  cases s with
  | key name => exact rel_lookup h name
  | index i => exact .none

end Context

/-! ### Drafts -/

namespace Draft
variable {R : Kind → String → String → Prop} {k : Kind}

/-- Drafts that are both absent, or become trees that agree. -/
def Agree (R : Kind → String → String → Prop) (k : Kind) (d e : Draft) : Prop :=
  Option.Rel (Context.Agree R k) d.prune e.prune

theorem agree_refl (d : Draft) : Agree R k d d := by
  unfold Agree
  cases d.prune with
  | none => exact .none
  | some t => exact .some (Context.agree_refl t)

theorem agree_text {a b : String} (h : a = b ∨ R k a b) : Agree R k (.text a) (.text b) :=
  .some (Context.agree_text h)

theorem agree_sequence {ds es : List Draft} (h : List.Forall₂ (Agree R k) ds es) :
    Agree R k (.sequence ds) (.sequence es) := by
  refine .some (Context.agree_sequence ?_)
  rw [pruneElems_eq, pruneElems_eq]
  exact List.rel_filterMap (fun _ _ hd => hd) h

/-- Fields with the same keys, under which drafts agree. -/
def AgreeFields (R : Kind → String → String → Prop) (k : Kind) :
    Entries Draft → Entries Draft → Prop :=
  List.Forall₂ fun e f => e.1 = f.1 ∧ Agree R (k.below (.key e.1)) e.2 f.2

theorem agreeFields_nil : AgreeFields R k [] [] := .nil

theorem agreeFields_cons {name : String} {d e : Draft} {es fs : Entries Draft} :
    AgreeFields R k ((name, d) :: es) ((name, e) :: fs) ↔
      Agree R (k.below (.key name)) d e ∧ AgreeFields R k es fs := by
  simp [AgreeFields]

theorem agree_mapping {es fs : Entries Draft} (h : AgreeFields R k es fs) :
    Agree R k (.mapping es) (.mapping fs) := by
  refine .some (Context.agree_mapping ?_)
  rw [pruneEntries_eq, pruneEntries_eq]
  refine List.rel_filterMap ?_ h
  intro e f hef
  dsimp only
  rw [Option.map_eq_bind, Option.map_eq_bind]
  exact rel_bind hef.2 fun _ _ ht => .some ⟨hef.1, ht⟩

theorem agree_map {α : Type} {f g : α → Draft} {l : List α} (h : ∀ a ∈ l, Agree R k (f a) (g a)) :
    Agree R k (.sequence (l.map f)) (.sequence (l.map g)) := by
  refine agree_sequence ?_
  rw [List.forall₂_map_left_iff, List.forall₂_map_right_iff]
  exact List.forall₂_same.mpr h

theorem agree_ofOption {α : Type} {f g : α → Draft} {o : Option α}
    (h : ∀ a ∈ o, Agree R k (f a) (g a)) : Agree R k (.ofOption (o.map f)) (.ofOption (o.map g)) := by
  cases o with
  | none => exact agree_refl _
  | some a => exact h a rfl

theorem agreeFields_set {es fs : Entries Draft} (key : String) (d : Draft)
    (h : AgreeFields R k es fs) :
    AgreeFields R k (Entries.set key d es) (Entries.set key d fs) := by
  refine rel_set (R := fun name d e => Agree R (k.below (.key name)) d e) ?_ h
  exact agree_refl d

end Draft
end ApiContext
