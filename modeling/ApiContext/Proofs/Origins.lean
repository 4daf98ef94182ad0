import ApiContext.Proofs.RawTrees

/-! Where the nodes of a context come from. A path through a context leads through the description
as well: from an operation to its parameters in a group, from a definition to its parent and from
there to a list of properties. What stands at its end in the context is made from what it leads to
in the description, and no node of a kind stands elsewhere. -/
namespace ApiContext
open Model Resolve

/-- What a node of a context is made from. A value has an owner, and a location if it is that of a
parameter; a schema has its ancestors, the nearest first. -/
inductive Origin where
  | description (spec : Spec)
  | tag (spec : Spec) (name : String) (operations : List Operation)
  | operation (o : Operation)
  | response (o : Operation) (r : Response)
  | schema (d : String × Schema) (ancestors : Lineage)
  | value (v : Value) (owner : String) (location : Option Location)

/-- What stands under one key: nothing, a node, or a list of nodes. -/
inductive Origins where
  | absent
  | one (o : Origin)
  | many (os : List Origin)

namespace Origin

def ofParameter (q : Parameter) : Origin := .value q.value q.value.name (some q.location)

/-- A value that is its own owner. -/
def ofValue (v : Value) : Origin := .value v v.name none

def ofBody (o : Operation) (v : Value) : Origin :=
  .value v (Draft.bodyOwner v (operationId o)) none

/-- The operations under one tag. -/
def ofGroup (spec : Spec) (g : String × List Operation) : Origin := .tag spec g.1 g.2

def ofDefinition (spec : Spec) (d : String × Schema) : Origin :=
  .schema d (spec.lineageOf d).tail

def kind : Origin → Kind
  | description _ => .description
  | tag _ _ _ => .tag
  | operation _ => .operation
  | response _ _ => .response
  | schema _ _ => .schema
  | value _ _ _ => .value

end Origin

namespace Origins

def ofOption : Option Origin → Origins
  | none => absent
  | some o => one o

def operations (os : List Operation) : Origins := many (os.map .operation)

def parameters (qs : List Parameter) : Origins := many (qs.map .ofParameter)

def values (vs : List Value) : Origins := many (vs.map .ofValue)

def parent : Lineage → Origins
  | [] => absent
  | d :: ancestors => one (.schema d ancestors)

end Origins

/-- The keys under which nodes stand, with what these are made from. -/
def Origin.fields : Origin → Entries Origins
  | description spec => [
    ("operations", .operations spec.operations),
    ("tags", .many ((Draft.tagged spec.operations).map (.ofGroup spec))),
    ("definitions", .many (spec.definitions.entries.map (.ofDefinition spec))),
    ("enums", .values spec.enums)]
  | tag _ _ os => [("operations", .operations os)]
  | operation o => [
    ("params", .parameters o.parameters),
    ("nonBodyParams", .parameters (o.parameters.filter (!located .body ·))),
    ("bodyParam", .ofOption ((o.parameters.filter (located .body)).head?.map .ofParameter)),
    ("pathParams", .parameters (o.parameters.filter (located .path))),
    ("queryParams", .parameters (o.parameters.filter (located .query))),
    ("headerParams", .parameters (o.parameters.filter (located .header))),
    ("formParams", .parameters (o.parameters.filter (located .formData))),
    ("enums", .parameters (o.parameters.filter declaresEnum)),
    ("responses", .many (o.responses.map (.response o))),
    ("successResponse", .ofOption (o.successResponse.map (.response o)))]
  | response o r => [("schema", .ofOption (r.schema.map (.ofBody o)))]
  | schema d ancestors => [
    ("parent", .parent ancestors),
    ("requiredProperties", .values d.2.requiredProperties),
    ("optionalProperties", .values d.2.optionalProperties),
    ("properties", .values d.2.properties),
    ("allProperties", .values ((allProperties (d :: ancestors)).map (·.2))),
    ("enums", .values d.2.enums)]
  | value _ _ _ => []

namespace Origins

def step? : Origins → Step → Option Origins
  | one o, .key name => o.fields.lookup name
  | many os, .index i => os[i]?.map one
  | _, _ => none

def follow? (x : Origins) : List Step → Option Origins
  | [] => some x
  | s :: rest => (x.step? s).bind (·.follow? rest)

end Origins

/-- The node of a description to which a path leads. -/
def Model.Spec.originAt? (spec : Spec) (path : List Step) : Option Origin :=
  match (Origins.one (.description spec)).follow? path with
  | some (.one o) => some o
  | _ => none

/-! ### Drafts -/

namespace Draft

/-- The fields of a value, with those of a parameter where it has a location. -/
def locatedFields (p : Profile) (v : Value) (owner : String) : Option Location → Entries Draft
  | none => valueFields p v owner
  | some l => Entries.set "raw" (raw (Parameter.mk l v).toJson) <|
      Entries.set "parameterType" (.text l.label) (valueFields p v owner)

end Draft

namespace Origin

def draft (p : Profile) : Origin → Draft
  | description spec => .mapping (Draft.specFields p spec
      (spec.definitions.entries.map fun d => d :: (spec.lineageOf d).tail))
  | tag spec name os => tagDraft spec name (os.map (Draft.ofOperation p))
  | operation o => Draft.ofOperation p o
  | response o r => Draft.ofResponse p r (operationId o)
  | schema d ancestors => Draft.ofLineage p (d :: ancestors)
  | value v owner location => .mapping (Draft.locatedFields p v owner location)

end Origin

def Origins.draft (p : Profile) : Origins → Draft
  | absent => .absent
  | one o => o.draft p
  | many os => .sequence (os.map (Origin.draft p))

variable {p : Profile}

theorem nodup_keys_locatedFields (v : Value) (owner : String) (location : Option Location) :
    (Entries.keys (Draft.locatedFields p v owner location)).Nodup := by
  cases location with
  | none => exact Draft.nodup_keys_valueFields p v owner
  | some l =>
    exact Entries.nodup_keys_set (Entries.nodup_keys_set (Draft.nodup_keys_valueFields p v owner))

theorem draft_many {α : Type} (f : α → Origin) (l : List α) :
    (Origins.many (l.map f)).draft p = .sequence (l.map fun a => (f a).draft p) :=
  congrArg Draft.sequence List.map_map

theorem draft_ofOption {α : Type} (f : α → Origin) (o : Option α) :
    (Origins.ofOption (o.map f)).draft p = Draft.ofOption (o.map fun a => (f a).draft p) := by
  cases o <;> rfl

theorem draft_operations (os : List Operation) :
    (Origins.operations os).draft p = .sequence (os.map (Draft.ofOperation p)) :=
  draft_many _ os

theorem draft_parameters (qs : List Parameter) :
    (Origins.parameters qs).draft p = .sequence (qs.map (Draft.ofParameter p)) :=
  draft_many _ qs

theorem draft_values (vs : List Value) :
    (Origins.values vs).draft p = Draft.ofValues p vs :=
  draft_many _ vs

theorem draft_parent (l : Lineage) : (Origins.parent l).draft p = Draft.ofLineage p l := by
  cases l <;> rfl

/-- The draft of an origin is a mapping that holds, under the keys of nodes, their drafts. -/
theorem Origin.exists_entries (p : Profile) (o : Origin) : ∃ es, o.draft p = .mapping es ∧
    (Entries.keys es).Nodup ∧ ∀ e ∈ o.fields, es.lookup e.1 = some (e.2.draft p) := by
  cases o with
  | description spec =>
    refine ⟨_, rfl, Draft.nodup_keys_specFields p spec _, ?_⟩
    simp only [fields, List.forall_mem_cons, draft_operations, draft_values, draft_many]
    refine ⟨rfl, ?_, ?_, rfl, by simp⟩
    · refine congrArg (some <| Draft.sequence ·) ?_
      rw [Draft.tagGroups_map, Draft.mapGroups, List.map_map]
      rfl
    · exact congrArg (some <| Draft.sequence ·) List.map_map
  | tag spec name os =>
    refine ⟨_, rfl, by simp [Entries.keys], ?_⟩
    simp only [fields, List.forall_mem_cons, draft_operations]
    exact ⟨rfl, by simp⟩
  | operation o =>
    refine ⟨_, rfl, by simp [Entries.keys], ?_⟩
    simp only [fields, List.forall_mem_cons, draft_parameters, draft_many, draft_ofOption,
      ← Draft.choose_map]
    have hparams := Draft.map_beside (Draft.ofParameter p) o.parameters
    have hresponses := Draft.map_beside (Draft.ofResponse p · (operationId o)) o.responses
    refine ⟨congrArg (some <| Draft.sequence ·) hparams, rfl, ?_, rfl, rfl, rfl, rfl, rfl,
      congrArg (some <| Draft.sequence ·) hresponses, ?_, by simp⟩
    · refine congrArg (some <| Draft.ofOption ·) ?_
      rw [Draft.choose_map, List.head?_map]
      rfl
    · exact congrArg (some <| Draft.ofOption ·) (Draft.find?_responses _ _)
  | response o r =>
    refine ⟨_, rfl, by simp [Entries.keys], ?_⟩
    simp only [fields, List.forall_mem_cons, draft_ofOption]
    refine ⟨?_, by simp⟩
    cases r.schema <;> rfl
  | schema d ancestors =>
    refine ⟨_, rfl, Draft.nodup_keys_schemaFields p _ _ _ _, ?_⟩
    simp only [fields, List.forall_mem_cons, draft_parent, draft_values]
    exact ⟨rfl, rfl, rfl, rfl, rfl, rfl, by simp⟩
  | value v owner location =>
    refine ⟨_, rfl, nodup_keys_locatedFields v owner location, ?_⟩
    simp [fields]

/-! ### One step -/

/-- A key under which no node stands leads to a name or to what is fixed, and so does every path
from there. -/
def Kind.isLeaf (k : Kind) : Bool := k.isName || k = .fixed

namespace Kind
variable {k : Kind}

theorem isLeaf_below (h : k.isLeaf) (s : Step) : (k.below s).isLeaf := by
  cases s with
  | index i => exact h
  | key name => cases k <;> first | rfl | cases h

theorem isLeaf_along (h : k.isLeaf) (path : List Step) : (k.along path).isLeaf := by
  induction path generalizing k with
  | nil => exact h
  | cons s rest ih => exact ih (isLeaf_below h s)

end Kind

/-- Origins of one kind. -/
def Origins.Of (k : Kind) : Origins → Prop
  | absent => True
  | one o => o.kind = k
  | many os => ∀ o ∈ os, o.kind = k

theorem of_ofOption {α : Type} {k : Kind} {f : α → Origin} (h : ∀ a, (f a).kind = k)
    (o : Option α) : (Origins.ofOption (o.map f)).Of k := by
  cases o with
  | none => trivial
  | some a => exact h a

theorem of_many {α : Type} {k : Kind} {f : α → Origin} (h : ∀ a, (f a).kind = k) (l : List α) :
    (Origins.many (l.map f)).Of k := by
  intro o ho
  obtain ⟨a, _, rfl⟩ := List.mem_map.mp ho
  exact h a

theorem of_operations (os : List Operation) : (Origins.operations os).Of .operation :=
  of_many (f := .operation) (fun _ => rfl) os

theorem of_parameters (qs : List Parameter) : (Origins.parameters qs).Of .value :=
  of_many (f := .ofParameter) (fun _ => rfl) qs

theorem of_values (vs : List Value) : (Origins.values vs).Of .value :=
  of_many (f := .ofValue) (fun _ => rfl) vs

theorem of_parent (l : Lineage) : (Origins.parent l).Of .schema := by
  cases l with
  | nil => trivial
  | cons d ancestors => rfl

/-- What stands under a key is of the kind of the key. -/
theorem Origin.of_fields (o : Origin) :
    ∀ e ∈ o.fields, e.2.Of (o.kind.below (.key e.1)) := by
  cases o with
  | description spec =>
    simp only [fields, List.forall_mem_cons]
    exact ⟨of_operations _, of_many (f := .ofGroup spec) (fun _ => rfl) _,
      of_many (f := .ofDefinition spec) (fun _ => rfl) _, of_values _, by simp⟩
  | tag spec name os =>
    simp only [fields, List.forall_mem_cons]
    exact ⟨of_operations _, by simp⟩
  | operation o =>
    simp only [fields, List.forall_mem_cons]
    exact ⟨of_parameters _, of_parameters _, of_ofOption (f := .ofParameter) (fun _ => rfl) _,
      of_parameters _, of_parameters _, of_parameters _, of_parameters _, of_parameters _,
      of_many (f := .response o) (fun _ => rfl) _, of_ofOption (f := .response o) (fun _ => rfl) _,
      by simp⟩
  | response o r =>
    simp only [fields, List.forall_mem_cons]
    exact ⟨of_ofOption (f := .ofBody o) (fun _ => rfl) _, by simp⟩
  | schema d ancestors =>
    simp only [fields, List.forall_mem_cons]
    exact ⟨of_parent _, of_values _, of_values _, of_values _, of_values _, of_values _, by simp⟩
  | value v owner location => simp [fields]

/-- Nodes stand under all the keys that lead to kinds of nodes. -/
theorem Origin.keys_fields (o : Origin) :
    Entries.keys o.fields = Entries.keys (o.kind.fields.filter fun e => !e.2.isLeaf) := by
  cases o <;> rfl

theorem Origin.isLeaf_of_lookup {o : Origin} {name : String} (h : o.fields.lookup name = none) :
    (o.kind.below (.key name)).isLeaf := by
  have hbelow : o.kind.below (.key name) = (o.kind.fields.lookup name).getD .fixed := rfl
  rw [hbelow]
  cases hk : o.kind.fields.lookup name with
  | none => rfl
  | some k =>
    rw [Option.getD_some]
    by_contra hleaf
    have hmem : name ∈ Entries.keys o.fields := by
      rw [Origin.keys_fields]
      refine List.mem_map.mpr ⟨(name, k), List.mem_filter.mpr ⟨Entries.mem_of_lookup hk, ?_⟩, rfl⟩
      simpa using hleaf
    obtain ⟨e, he, rfl⟩ := List.mem_map.mp hmem
    simpa using List.lookup_eq_none_iff.mp h e he

/-! ### Paths -/

theorem follow?_one {o : Origin} {name : String} {x : Origins} (h : o.fields.lookup name = some x)
    (p : Profile) (rest : List Step) :
    (o.draft p).follow? (.key name :: rest) = (x.draft p).follow? rest := by
  obtain ⟨es, hes, hn, hfields⟩ := o.exists_entries p
  rw [hes, Draft.follow?_mapping hn, hfields (name, x) (Entries.mem_of_lookup h), Option.bind_some]

theorem isSome_prune_draft (p : Profile) (o : Origin) : ((o.draft p).prune).isSome := by
  obtain ⟨es, hes, _⟩ := o.exists_entries p
  rw [hes]
  rfl

theorem follow?_many (p : Profile) (os : List Origin) (i : Nat) (rest : List Step) :
    ((Origins.many os).draft p).follow? (.index i :: rest) =
      os[i]?.bind fun o => (o.draft p).follow? rest :=
  Draft.follow?_items fun o _ => isSome_prune_draft p o

/-- A step in the origins is a step in the drafts. -/
theorem follow?_step {x y : Origins} {s : Step} (h : x.step? s = some y) (p : Profile)
    (rest : List Step) : (x.draft p).follow? (s :: rest) = (y.draft p).follow? rest := by
  cases x with
  | absent => cases h
  | one o =>
    cases s with
    | key name => exact follow?_one h p rest
    | index i => cases h
  | many os =>
    cases s with
    | key name => cases h
    | index i =>
      obtain ⟨o, ho, rfl⟩ := Option.map_eq_some_iff.mp h
      rw [follow?_many, ho]
      rfl

/-- What a path leads to is made from what it leads to among the origins. -/
theorem follow?_draft {x y : Origins} {path : List Step} (h : x.follow? path = some y)
    (p : Profile) : (x.draft p).follow? path = (y.draft p).prune := by
  induction path generalizing x with
  | nil =>
    obtain rfl := Option.some.inj h
    exact Draft.follow?_nil _
  | cons s rest ih =>
    obtain ⟨z, hz, h⟩ := Option.bind_eq_some_iff.mp h
    rw [follow?_step hz, ih h]

/-- No node of a kind stands where no path through the origins leads. -/
theorem exists_follow? {x : Origins} {k : Kind} {path : List Step} {es : Entries Context}
    (hx : x.Of k) (hk : (k.along path).isLeaf = false)
    (h : (x.draft p).follow? path = some (.mapping es)) :
    ∃ o, x.follow? path = some (.one o) ∧ o.kind = k.along path := by
  induction path generalizing x k with
  | nil =>
    rw [Draft.follow?_nil] at h
    cases x with
    | absent => cases h
    | one o => exact ⟨o, rfl, hx⟩
    | many os => cases h
  | cons s rest ih =>
    cases x with
    | absent => cases h
    | one o =>
      obtain ⟨entries, hes, hn, _⟩ := o.exists_entries p
      cases s with
      | index i =>
        rw [Origins.draft, hes] at h
        cases h
      | key name =>
        cases hname : o.fields.lookup name with
        | none =>
          -- Behind a leaf all is leaf, so the path would not end at a node.
          have hleaf := Kind.isLeaf_along (Origin.isLeaf_of_lookup hname) rest
          obtain rfl : o.kind = k := hx
          exact absurd hleaf (Bool.eq_false_iff.mp hk)
        | some y =>
          rw [Origins.draft, follow?_one hname] at h
          have hy := o.of_fields _ (Entries.mem_of_lookup hname)
          obtain rfl : o.kind = k := hx
          obtain ⟨o', hfollow, hkind⟩ := ih hy hk h
          exact ⟨o', Option.bind_eq_some_iff.mpr ⟨y, hname, hfollow⟩, hkind⟩
    | many os =>
      cases s with
      | key name => cases h
      | index i =>
        rw [follow?_many] at h
        obtain ⟨o, ho, h⟩ := Option.bind_eq_some_iff.mp h
        have hone : (Origins.one o).Of k := hx o (List.mem_of_getElem? ho)
        obtain ⟨o', hfollow, hkind⟩ := ih hone hk h
        refine ⟨o', Option.bind_eq_some_iff.mpr ⟨.one o, ?_, hfollow⟩, hkind⟩
        exact Option.map_eq_some_iff.mpr ⟨o, ho, rfl⟩

/-! ### A compiled context -/

section compiled
variable {spec : Spec} {j : Journal} {c : Compilation} {path : List Step} {o : Origin}
variable {es : Entries Context}

theorem cons_tail_lineageOf (h : ((compile spec p).run j).1 = .ok c) {d : String × Schema}
    (hd : d ∈ spec.definitions.entries) : d :: (spec.lineageOf d).tail = spec.lineageOf d := by
  obtain ⟨l, hl⟩ := exists_compile_ok_iff.mp ⟨c, h⟩ d hd
  rw [lineageOf_eq hd hl]
  obtain ⟨last, ha, _⟩ := hl
  obtain ⟨rest, rfl⟩ := ha.exists_cons
  rfl

theorem map_cons_tail_lineageOf (h : ((compile spec p).run j).1 = .ok c) :
    spec.definitions.entries.map (fun d => d :: (spec.lineageOf d).tail) =
      spec.definitions.entries.map spec.lineageOf :=
  List.map_congr_left fun _ hd => cons_tail_lineageOf h hd

theorem follow?_eq_draft (h : ((compile spec p).run j).1 = .ok c) (path : List Step) :
    c.context.follow? path = ((Origin.description spec).draft p).follow? path := by
  rw [follow?_context h, Origin.draft, map_cons_tail_lineageOf h]

theorem originAt?_eq_some_iff : spec.originAt? path = some o ↔
    (Origins.one (.description spec)).follow? path = some (.one o) := by
  unfold Model.Spec.originAt?
  cases (Origins.one (.description spec)).follow? path with
  | none => simp
  | some x => cases x <;> simp

/-- Where a path leads to an origin, the context holds what is made from it. -/
theorem follow?_originAt (h : ((compile spec p).run j).1 = .ok c)
    (ho : spec.originAt? path = some o) : c.context.follow? path = (o.draft p).prune := by
  rw [follow?_eq_draft h]
  exact follow?_draft (originAt?_eq_some_iff.mp ho) p

/-- Every node of a context has an origin of its kind. -/
theorem exists_originAt (h : ((compile spec p).run j).1 = .ok c)
    (hk : (Kind.description.along path).isLeaf = false)
    (ht : c.context.follow? path = some (.mapping es)) :
    ∃ o, spec.originAt? path = some o ∧ o.kind = Kind.description.along path := by
  rw [follow?_eq_draft h] at ht
  obtain ⟨o, ho, hkind⟩ := exists_follow? (x := .one (.description spec)) rfl hk ht
  exact ⟨o, originAt?_eq_some_iff.mpr ho, hkind⟩

end compiled

end ApiContext
