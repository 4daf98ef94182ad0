import ApiContext.Proofs.Positions

/-! Which positions share a diagnostic. Two that are due reports share one exactly when path and
message are the same; well-chosen names keep all paths apart. -/
namespace ApiContext
open Model Resolve
variable {spec : Spec} {x y : Visit} {place place' : Place} {l l' : List String}

/-! ### Names that keep paths apart -/

/-- The names of operations, definitions and global enums, with which all paths begin. -/
def Model.Spec.scopeNames (spec : Spec) : List String :=
  spec.operations.map operationId ++ spec.definitions.keys ++ spec.enums.map (shownName ·.name)

/-- Scopes have different names, so have the values of one list, and no name holds a dot. -/
structure Model.Spec.WellNamed (spec : Spec) : Prop where
  scopes : spec.scopeNames.Nodup
  scopes_ne : "" ∉ spec.scopeNames
  scopes_dotFree : ∀ name ∈ spec.scopeNames, DotFree name
  parameters : ∀ o ∈ spec.operations, (o.parameters.map (shownName ·.value.name)).Nodup
  parameters_dotFree : ∀ o ∈ spec.operations, ∀ q ∈ o.parameters, DotFree (shownName q.value.name)
  responses : ∀ o ∈ spec.operations, (o.responses.map (·.status)).Nodup
  properties : ∀ d ∈ spec.definitions.entries, (d.2.properties.map (shownName ·.name)).Nodup
  properties_dotFree : ∀ d ∈ spec.definitions.entries, ∀ v ∈ d.2.properties,
    DotFree (shownName v.name)

/-- The list of the description from which a path begins, with the index in it. -/
inductive Scope where
  | operation (index : Nat)
  | definition (index : Nat)
  | enum (index : Nat)

def Scope.name? (spec : Spec) : Scope → Option String
  | .operation o => (spec.operations.map operationId)[o]?
  | .definition k => spec.definitions.keys[k]?
  | .enum i => (spec.enums.map (shownName ·.name))[i]?

def Place.scope : Place → Scope
  | .parameter o _ => .operation o
  | .response o _ => .operation o
  | .property k _ => .definition k
  | .enum i => .enum i

def Part.segments : Part → List String
  | .self => []
  | .items => ["items"]
  | .element => ["additionalProperties"]

theorem index_unique {α : Type} {l : List α} {i j : Nat} {a : α} (hn : l.Nodup)
    (hi : l[i]? = some a) (hj : l[j]? = some a) : i = j := by
  obtain ⟨hlt, _⟩ := List.getElem?_eq_some_iff.mp hi
  exact (List.getElem?_inj hlt hn).mp (hi.trans hj.symm)

theorem index_unique_map {α β : Type} {f : α → β} {l : List α} {i j : Nat} {a b : α}
    (hn : (l.map f).Nodup) (hi : l[i]? = some a) (hj : l[j]? = some b) (h : f a = f b) : i = j := by
  have hi' : (l.map f)[i]? = some (f a) := by simp [hi]
  have hj' : (l.map f)[j]? = some (f a) := by simp [hj, h]
  exact index_unique hn hi' hj'

namespace Scope
variable {s t : Scope} {name : String}

theorem unique (hn : spec.scopeNames.Nodup) (hs : s.name? spec = some name)
    (ht : t.name? spec = some name) : s = t := by
  obtain ⟨htop, henums, hdisjoint⟩ := List.nodup_append.mp hn
  obtain ⟨hops, hdefs, hdisjoint'⟩ := List.nodup_append.mp htop
  cases s with
  | operation o =>
    have hname := List.mem_of_getElem? hs
    cases t with
    | operation o' => exact congrArg operation (index_unique hops hs ht)
    | definition k => exact absurd rfl (hdisjoint' _ hname _ (List.mem_of_getElem? ht))
    | enum i =>
      exact absurd rfl (hdisjoint _ (List.mem_append_left _ hname) _ (List.mem_of_getElem? ht))
  | definition k =>
    have hname := List.mem_of_getElem? hs
    cases t with
    | operation o => exact absurd rfl (hdisjoint' _ (List.mem_of_getElem? ht) _ hname)
    | definition k' => exact congrArg definition (index_unique hdefs hs ht)
    | enum i =>
      exact absurd rfl (hdisjoint _ (List.mem_append_right _ hname) _ (List.mem_of_getElem? ht))
  | enum i =>
    have hname := List.mem_of_getElem? hs
    cases t with
    | operation o =>
      exact absurd rfl (hdisjoint _ (List.mem_append_left _ (List.mem_of_getElem? ht)) _ hname)
    | definition k =>
      exact absurd rfl (hdisjoint _ (List.mem_append_right _ (List.mem_of_getElem? ht)) _ hname)
    | enum i' => exact congrArg enum (index_unique henums hs ht)

end Scope

/-! ### Paths as segments -/

namespace Part

theorem segments_injective {a b : Part} (h : a.segments = b.segments) : a = b := by
  cases a <;> cases b <;> simp [segments] at h ⊢

theorem statusText_not_mem {part : Part} (status : Option UInt16) :
    statusText status ∉ part.segments := by
  intro h
  cases part with
  | self => cases h
  | items =>
    have hw : statusText status = "items" := by simpa [segments] using h
    exact statusText_ne (c := 'i') (by decide) (by decide) (by decide) status hw
  | element =>
    have hw : statusText status = "additionalProperties" := by simpa [segments] using h
    exact statusText_ne (c := 'a') (by decide) (by decide) (by decide) status hw

end Part

namespace Stands

theorem scope (h : Stands spec place l x) :
    ∃ name rest, l = name :: rest ∧ place.scope.name? spec = some name := by
  cases h with
  | parameter ho _ => exact ⟨_, _, rfl, by simp [Place.scope, Scope.name?, ho]⟩
  | response ho _ _ => exact ⟨_, _, rfl, by simp [Place.scope, Scope.name?, ho]⟩
  | property hk _ =>
    exact ⟨_, _, rfl, by simp [Place.scope, Scope.name?, OrderedMap.keys, Entries.keys, hk]⟩
  | enum hi => exact ⟨_, _, rfl, by simp [Place.scope, Scope.name?, hi]⟩

/-- Segments with those of a part behind them tell the place and the part. -/
theorem unique (hw : spec.WellNamed) {a b : Part} (h : Stands spec place l x)
    (h' : Stands spec place' l' y) (heq : l ++ a.segments = l' ++ b.segments) :
    place = place' ∧ a = b := by
  obtain ⟨name, rest, hl, hname⟩ := h.scope
  obtain ⟨name', rest', hl', hname'⟩ := h'.scope
  have hnames : name = name' := by
    rw [hl, hl'] at heq
    exact (List.cons.inj heq).1
  have hscope := Scope.unique hw.scopes hname (hnames ▸ hname')
  cases h with
  | @parameter o i op q ho hi =>
    cases h' with
    | @parameter o' i' op' q' ho' hi' =>
      obtain rfl := Scope.operation.inj hscope
      obtain rfl : op = op' := by simpa [ho] using ho'
      obtain ⟨hq, hpart⟩ : shownName q.value.name = shownName q'.value.name ∧
          a.segments = b.segments := by simpa using heq
      have hn := hw.parameters op (List.mem_of_getElem? ho)
      rw [index_unique_map hn hi hi' hq]
      exact ⟨rfl, Part.segments_injective hpart⟩
    | @response o' i' op' r' v' _ _ _ =>
      -- The status would have to be the segment of a part.
      have hmem : statusText r'.status ∈ a.segments := by
        simp only [List.cons_append, List.nil_append, List.cons.injEq] at heq
        simp [heq.2.2]
      exact absurd hmem (Part.statusText_not_mem _)
    | property _ _ => cases hscope
    | enum _ => cases hscope
  | @response o i op r v ho hi hv =>
    cases h' with
    | parameter _ _ =>
      have hmem : statusText r.status ∈ b.segments := by
        simp only [List.cons_append, List.nil_append, List.cons.injEq] at heq
        simp [← heq.2.2]
      exact absurd hmem (Part.statusText_not_mem _)
    | @response o' i' op' r' v' ho' hi' hv' =>
      obtain rfl := Scope.operation.inj hscope
      obtain rfl : op = op' := by simpa [ho] using ho'
      obtain ⟨hr, hpart⟩ : statusText r.status = statusText r'.status ∧
          a.segments = b.segments := by simpa using heq
      have hn := hw.responses op (List.mem_of_getElem? ho)
      rw [index_unique_map hn hi hi' (statusText_injective hr)]
      exact ⟨rfl, Part.segments_injective hpart⟩
    | property _ _ => cases hscope
    | enum _ => cases hscope
  | @property k i d v hk hi =>
    cases h' with
    | parameter _ _ => cases hscope
    | response _ _ _ => cases hscope
    | @property k' i' d' v' hk' hi' =>
      obtain rfl := Scope.definition.inj hscope
      obtain rfl : d = d' := by
        rw [hk] at hk'
        exact Option.some.inj hk'
      obtain ⟨hv, hpart⟩ : shownName v.name = shownName v'.name ∧
          a.segments = b.segments := by simpa using heq
      have hn := hw.properties d (List.mem_of_getElem? hk)
      rw [index_unique_map hn hi hi' hv]
      exact ⟨rfl, Part.segments_injective hpart⟩
    | enum _ => cases hscope
  | @enum i v hi =>
    cases h' with
    | parameter _ _ => cases hscope
    | response _ _ _ => cases hscope
    | property _ _ => cases hscope
    | @enum i' v' hi' =>
      obtain rfl := Scope.enum.inj hscope
      obtain ⟨_, hpart⟩ : shownName v.name = shownName v'.name ∧
          a.segments = b.segments := by simpa using heq
      exact ⟨rfl, Part.segments_injective hpart⟩

end Stands

end ApiContext
