import ApiContext.Proofs.Sessions
import ApiContext.Proofs.ValueMappings

/-! The lists of properties of a schema. Each list is resolved by itself, yet all of them are parts
of one, with the same trees in the same order, in the schema as in each of its ancestors. -/
namespace ApiContext
open Model Resolve

/-- The mapping of a property is what a fresh compiler answers in the scope of its schema. -/
structure PropertyMapping (env : Environment) (scope : String) (v : Value) (w : Context) :
    Prop where
  answer : Request.Answer env (.value v scope) w
  shown : ValueMapping v none w

/-- What the tree of a schema lists, given the mappings of its properties. -/
structure PropertyLists (env : Environment) (e : String × Schema) (t : Context)
    (ws : List Context) : Prop where
  properties : t.get? "properties" = some (.sequence ws)
  mappings : List.Forall₂ (PropertyMapping env e.1) e.2.properties ws
  required : t.get? "requiredProperties" =
    some (.sequence (ws.filter (·.get? "required" = some (.boolean true))))
  optional : t.get? "optionalProperties" =
    some (.sequence (ws.filter (·.get? "optional" = some (.boolean true))))
  either : ∀ w ∈ ws, Xor (w.get? "required" = some (.boolean true))
    (w.get? "optional" = some (.boolean true))
  both : (ws.filter (·.get? "required" = some (.boolean true)) ++
    ws.filter (·.get? "optional" = some (.boolean true))).Perm ws
  enums : t.get? "enums" = some (.sequence (ws.filter fun w => (w.get? "enums").isSome))

variable {env : Environment} {p : Profile} {e : String × Schema} {l ancestors : Lineage}

/-! ### One schema -/

theorem propertyMapping_valueTree (env : Environment) (scope : String) (v : Value) :
    PropertyMapping env scope v (valueTree env.profile v) where
  answer := ⟨_, Request.fresh_eq _, rfl⟩
  shown := Draft.valueMapping_locatedTree env.profile v v.name none

theorem valueTree_eq (p : Profile) (v : Value) :
    valueTree p v = Draft.locatedTree p v v.name none :=
  rfl

theorem get?_required (p : Profile) (v : Value) :
    (valueTree p v).get? "required" = some (.boolean v.required) :=
  (Draft.valueMapping_locatedTree p v v.name none).required

theorem get?_optional (p : Profile) (v : Value) :
    (valueTree p v).get? "optional" = some (.boolean !v.required) :=
  (Draft.valueMapping_locatedTree p v v.name none).optional

/-! Each flag of a property picks the same ones as the mappings do that show it. -/

theorem filter_required (p : Profile) (vs : List Value) :
    (vs.map (valueTree p)).filter (·.get? "required" = some (.boolean true)) =
      (vs.filter (·.required)).map (valueTree p) :=
  filter_map_of_eq (fun v => by simp [get?_required]) vs

theorem filter_optional (p : Profile) (vs : List Value) :
    (vs.map (valueTree p)).filter (·.get? "optional" = some (.boolean true)) =
      (vs.filter (!·.required)).map (valueTree p) :=
  filter_map_of_eq (fun v => by simp [get?_optional]) vs

/-- An enum without members is shown as well. -/
theorem filter_enums (p : Profile) (vs : List Value) :
    ((vs.map (valueTree p)).filter fun w => (w.get? "enums").isSome) =
      (vs.filter (·.enumMembers.isSome)).map (valueTree p) :=
  filter_map_of_eq (fun v => by rw [valueTree_eq, Draft.isSome_enums]) vs

theorem propertyLists_schemaTree (env : Environment) (e : String × Schema) (ancestors : Lineage) :
    PropertyLists env e (schemaTree env.profile e ancestors)
      (e.2.properties.map (valueTree env.profile)) where
  properties := get?_properties ..
  mappings := by
    rw [List.forall₂_map_right_iff]
    exact List.forall₂_same.mpr fun v _ => propertyMapping_valueTree env e.1 v
  required := by
    rw [filter_required]
    exact get?_values rfl
  optional := by
    rw [filter_optional]
    exact get?_values rfl
  either := by
    intro w hw
    obtain ⟨v, _, rfl⟩ := List.mem_map.mp hw
    rw [get?_required, get?_optional]
    cases v.required <;> simp [Xor]
  both := by
    rw [filter_required, filter_optional, ← List.map_append]
    exact (List.filter_append_perm (·.required) e.2.properties).map _
  enums := by
    rw [filter_enums]
    exact get?_values rfl

/-! ### Ancestors -/

theorem propertyLists_ancestors (h : Ancestry env.spec e l) (n : Nat) :
    Option.Rel (fun a u => ∃ ws, PropertyLists env a u ws) (env.spec.ancestor? n e)
      ((Draft.ofLineage env.profile l).prune.bind (·.ancestor? n)) := by
  -- One level up, the rest of the path is the ancestry of the parent.
  induction n generalizing e l with
  | zero =>
    obtain ⟨last, ha, _⟩ := h
    obtain ⟨ancestors, rfl⟩ := ha.exists_cons
    exact .some ⟨_, propertyLists_schemaTree env e ancestors⟩
  | succ n ih =>
    obtain ⟨hroot, rfl⟩ | ⟨a, ancestors, hup, rfl, ha⟩ := h.root_or_parent
    · have hup : env.spec.parentOf? e = none := by simp [Spec.parentOf?, hroot]
      simp only [Spec.ancestor?, hup, prune_ofLineage_cons, Option.bind_some, Context.ancestor?,
        get?_parent]
      exact .none
    · simp only [Spec.ancestor?, hup, prune_ofLineage_cons, Option.bind_some, Context.ancestor?,
        get?_parent]
      exact ih ha

/-- The tree that a schema is resolved into has an ancestor in it for each ancestor of the schema,
and the lists of properties of every one of them are parts of one. -/
theorem property_lists {name : String} {s : Schema} {j : Journal} {d : Draft}
    (h : ((Request.schema name s).ask env j).1 = .ok d) : ∃ t, d.prune = some t ∧
      ∀ n, Option.Rel (fun a u => ∃ ws, PropertyLists env a u ws)
        (env.spec.ancestor? n (name, s)) (t.ancestor? n) := by
  rw [Request.ask_eq] at h
  obtain ⟨t, ht⟩ := Request.exists_prune (r := .schema name s) h
  obtain ⟨l, hl, rfl⟩ := schemaDraft_eq_ok_iff.mp h
  refine ⟨t, ht, fun n => ?_⟩
  have hrel := propertyLists_ancestors (lineage_eq_ok_iff.mp hl).1 n
  rw [ht] at hrel
  exact hrel

theorem exists_of_rel_some {α β : Type} {R : α → β → Prop} {a : α} {o : Option β}
    (h : Option.Rel R (some a) o) : ∃ b, o = some b ∧ R a b := by
  cases h with
  | some h => exact ⟨_, rfl, h⟩

/-- An enum without members. -/
def size : Value := { Value.plain "size" (some "string") with members := some [] }

/-- A schema that is no definition. -/
def runt : Schema :=
  ⟨none, none, some "Dog", [size, { Value.plain "litter" (some "integer") with required := true }]⟩

theorem property_lists_runt : ∃ d t u w ws,
    ((Request.schema "Runt" runt).ask ⟨zoo, .plain⟩ .empty).1 = .ok d ∧ d.prune = some t ∧
    PropertyLists ⟨zoo, .plain⟩ ("Runt", runt) t (w :: ws) ∧
    w.get? "enums" = some (.sequence []) ∧
    t.ancestor? 2 = some u ∧ ∃ vs, PropertyLists ⟨zoo, .plain⟩ animal u vs := by
  have hparent : zoo.parentOf? ("Runt", runt) = some dog := rfl
  have hdog : zoo.parentOf? dog = some animal := rfl
  have hl : lineage zoo "Runt" runt = .ok [("Runt", runt), dog, animal] :=
    lineage_eq_ok_iff.mpr ⟨⟨animal, .up hparent (.up hdog (.here animal)), rfl⟩, by decide⟩
  obtain ⟨d, hd⟩ : ∃ d, ((Request.schema "Runt" runt).ask ⟨zoo, .plain⟩ .empty).1 = .ok d := by
    rw [Request.ask_eq]
    exact ⟨_, schemaDraft_eq_ok_iff.mpr ⟨_, hl, rfl⟩⟩
  obtain ⟨t, ht, hlists⟩ := property_lists hd
  obtain ⟨_, hself, ws, hws⟩ := exists_of_rel_some (a := ("Runt", runt)) (hlists 0)
  obtain rfl := Option.some.inj hself
  obtain ⟨u, hu, hanimal⟩ := exists_of_rel_some (a := animal) (hlists 2)
  obtain ⟨w, rest, hw, _, rfl⟩ := List.forall₂_cons_left_iff.mp hws.mappings
  obtain ⟨v, henums, cases, rfl, hcases⟩ := exists_of_rel_some (a := []) hw.shown.enums
  obtain rfl := List.forall₂_nil_left_iff.mp hcases
  exact ⟨d, t, u, w, rest, hd, ht, hws, henums, hu, hanimal⟩

end ApiContext
