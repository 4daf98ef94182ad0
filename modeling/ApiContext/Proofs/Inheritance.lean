import ApiContext.Proofs.Diagnostics

/-! Inheritance in a context. The tree of a definition holds the tree of its parent, the same as it
stands among the definitions, and takes over the properties that it does not declare again. -/
namespace ApiContext
open Model Resolve

/-- The entry so many steps above another. -/
def Model.Spec.ancestor? (spec : Spec) : Nat → String × Schema → Option (String × Schema)
  | 0, e => some e
  | n + 1, e => (spec.parentOf? e).bind (ancestor? spec n)

/-- The tree so many parents deep in another. -/
def Context.ancestor? : Nat → Context → Option Context
  | 0, t => some t
  | n + 1, t => (t.get? "parent").bind (ancestor? n)

/-- The tree of a definition; trees are in the order of the definitions. -/
def Compilation.definition? (spec : Spec) (c : Compilation) (name : String) : Option Context := do
  let trees ← (← c.context.get? "definitions").asSequence?
  (spec.definitions.keys.zip trees).lookup name

variable {spec : Spec} {profile : Profile} {c : Compilation} {lineages : List Lineage}
variable {d e : String × Schema} {l ancestors : Lineage}

/-! ### Trees of values and of schemas -/

def valueTree (p : Profile) (v : Value) : Context :=
  .mapping (Draft.pruneEntries (Draft.valueFields p v v.name))

theorem get?_value (p : Profile) (v : Value) : (valueTree p v).get? "value" = some (.text v.name) :=
  Draft.lookup_pruneEntries (Draft.nodup_keys_valueFields p v v.name) "value"

theorem pruneElems_values (p : Profile) (vs : List Value) :
    Draft.pruneElems (vs.map (Draft.ofValue p)) = vs.map (valueTree p) :=
  Draft.pruneElems_map fun _ _ => rfl

/-- The tree of a schema, given its ancestors. -/
def schemaTree (p : Profile) (d : String × Schema) (ancestors : Lineage) : Context :=
  .mapping <| Draft.pruneEntries <| Draft.schemaFields p d.1 d.2 (Draft.ofLineage p ancestors)
    ((allProperties (d :: ancestors)).map (·.2))

theorem prune_ofLineage_cons (p : Profile) (d : String × Schema) (ancestors : Lineage) :
    (Draft.ofLineage p (d :: ancestors)).prune = some (schemaTree p d ancestors) := rfl

theorem get?_schemaTree (p : Profile) (d : String × Schema) (ancestors : Lineage) (key : String) :
    (schemaTree p d ancestors).get? key =
      ((Draft.schemaFields p d.1 d.2 (Draft.ofLineage p ancestors)
        ((allProperties (d :: ancestors)).map (·.2))).lookup key).bind Draft.prune :=
  Draft.lookup_pruneEntries (Draft.nodup_keys_schemaFields p _ _ _ _) key

theorem get?_parent (p : Profile) (d : String × Schema) (ancestors : Lineage) :
    (schemaTree p d ancestors).get? "parent" = (Draft.ofLineage p ancestors).prune :=
  get?_schemaTree p d ancestors "parent"

/-- A list of values of a schema. -/
theorem get?_values {p : Profile} {key : String} {vs : List Value}
    (hkey : (Draft.schemaFields p d.1 d.2 (Draft.ofLineage p ancestors)
      ((allProperties (d :: ancestors)).map (·.2))).lookup key = some (Draft.ofValues p vs)) :
    (schemaTree p d ancestors).get? key = some (.sequence (vs.map (valueTree p))) := by
  rw [get?_schemaTree, hkey, ← pruneElems_values]
  rfl

theorem get?_properties (p : Profile) (d : String × Schema) (ancestors : Lineage) :
    (schemaTree p d ancestors).get? "properties" =
      some (.sequence (d.2.properties.map (valueTree p))) :=
  get?_values rfl

theorem get?_allProperties (p : Profile) (d : String × Schema) (ancestors : Lineage) :
    (schemaTree p d ancestors).get? "allProperties" =
      some (.sequence (((allProperties (d :: ancestors)).map (·.2)).map (valueTree p))) :=
  get?_values rfl

/-- In trees as in lineages, own properties come behind the inherited ones that they do not
replace. -/
theorem allProperties_trees (p : Profile) (d : String × Schema) (ancestors : Lineage) :
    ((allProperties (d :: ancestors)).map (·.2)).map (valueTree p) =
      (((allProperties ancestors).map (·.2)).map (valueTree p)).filter
        (fun t => ∀ v ∈ d.2.properties, t.get? "value" ≠ some (.text v.name))
        ++ d.2.properties.map (valueTree p) := by
  have hkeep (q : String × Value) : (!d.2.properties.any (·.name == q.2.name)) =
      decide (∀ v ∈ d.2.properties, (valueTree p q.2).get? "value" ≠ some (.text v.name)) := by
    rw [Bool.eq_iff_iff, decide_eq_true_iff]
    simp only [get?_value, Bool.not_eq_true', List.any_eq_false, beq_iff_eq, ne_eq,
      Option.some.injEq, Context.text.injEq]
    exact forall₂_congr fun v _ => not_congr eq_comm
  obtain ⟨name, s⟩ := d
  have hinherited : ((allProperties ancestors).filter
      fun q => !s.properties.any (·.name == q.2.name)) = (allProperties ancestors).filter
        fun q => ∀ v ∈ s.properties, (valueTree p q.2).get? "value" ≠ some (.text v.name) :=
    List.filter_congr fun q _ => hkeep q
  rw [allProperties, hinherited]
  simp only [List.map_append, List.map_map, List.filter_map, Function.comp_def]

/-! ### Trees of definitions -/

/-- In lists related item by item a key leads to what the item under it becomes. -/
theorem lookup_zip_filterMap {R : String × Schema → Lineage → Prop} {f : Lineage → Option Context}
    {entries : List (String × Schema)} (h : List.Forall₂ R entries lineages)
    (hf : ∀ e l, R e l → (f l).isSome) (hn : (Entries.keys entries).Nodup) (hd : d ∈ entries) :
    ∃ l, R d l ∧ ((Entries.keys entries).zip (lineages.filterMap f)).lookup d.1 = f l := by
  induction h with
  | nil => cases hd
  | @cons e l rest lineages hr _ ih =>
    obtain ⟨hk, hrest⟩ := List.nodup_cons.mp hn
    obtain ⟨t, ht⟩ := Option.isSome_iff_exists.mp (hf e l hr)
    have hzip : (Entries.keys (e :: rest)).zip ((l :: lineages).filterMap f) =
        (e.1, t) :: (Entries.keys rest).zip (lineages.filterMap f) := by
      rw [List.filterMap_cons_some ht]
      rfl
    rw [hzip, List.lookup_cons]
    obtain rfl | hd := List.mem_cons.mp hd
    · exact ⟨l, hr, by simp [ht]⟩
    · have hne : d.1 ≠ e.1 := fun h => hk (List.mem_map.mpr ⟨d, hd, h⟩)
      obtain ⟨l', hr', hlookup⟩ := ih hrest hd
      refine ⟨l', hr', ?_⟩
      simpa [beq_eq_false_iff_ne.mpr hne] using hlookup

/-- The tree of a definition is what its own ancestry becomes. -/
theorem definition?_eq_prune {j : Journal} (h : ((compile spec profile).run j).1 = .ok c)
    (hd : d ∈ spec.definitions.entries) : ∃ l, Ancestry spec d l ∧
      c.definition? spec d.1 = (Draft.ofLineage profile l).prune := by
  obtain ⟨lineages, hl, rfl⟩ := compile_eq_ok_iff.mp h
  have hsome (e : String × Schema) (l : Lineage) (ha : Ancestry spec e l) :
      (Draft.ofLineage profile l).prune.isSome := by
    obtain ⟨last, ha, _⟩ := ha
    obtain ⟨rest, rfl⟩ := ha.exists_cons
    rfl
  obtain ⟨l, ha, hlookup⟩ := lookup_zip_filterMap hl hsome spec.definitions.nodup hd
  refine ⟨l, ha, ?_⟩
  have hget : (Context.mapping (Draft.pruneEntries (Draft.specFields profile spec lineages))).get?
      "definitions" =
        some (.sequence (lineages.filterMap fun l => (Draft.ofLineage profile l).prune)) := by
    have hfields := Draft.lookup_pruneEntries (Draft.nodup_keys_specFields profile spec lineages)
      "definitions"
    have hprune : Draft.pruneElems (lineages.map (Draft.ofLineage profile)) =
        lineages.filterMap fun l => (Draft.ofLineage profile l).prune := by
      rw [Draft.pruneElems_eq, List.filterMap_map]
      rfl
    rw [← hprune]
    exact hfields
  simp only [Compilation.definition?, hget, Context.asSequence?]
  exact hlookup

section compiled
variable {j : Journal}

/-- The tree of a definition without parent. -/
theorem definition?_of_root (h : ((compile spec profile).run j).1 = .ok c)
    (hd : d ∈ spec.definitions.entries) (hp : d.2.parentName = none) :
    c.definition? spec d.1 = some (schemaTree profile d []) := by
  obtain ⟨l, ha, htree⟩ := definition?_eq_prune h hd
  obtain ⟨_, rfl⟩ | ⟨p, rest, hparent, _, _⟩ := ha.root_or_parent
  · exact htree
  · simp [Spec.parentOf?, hp] at hparent

/-- The tree of a definition with a parent, which has a tree as well. -/
theorem definition?_of_parent (h : ((compile spec profile).run j).1 = .ok c)
    (hd : d ∈ spec.definitions.entries) {parent : String} (hp : d.2.parentName = some parent) :
    ∃ p ancestors, spec.parentOf? d = some p ∧ p ∈ spec.definitions.entries ∧
      c.definition? spec d.1 = some (schemaTree profile d (p :: ancestors)) ∧
      c.definition? spec p.1 = some (schemaTree profile p ancestors) := by
  obtain ⟨l, ha, htree⟩ := definition?_eq_prune h hd
  obtain ⟨hroot, _⟩ | ⟨p, rest, hparent, rfl, hup⟩ := ha.root_or_parent
  · simp [hp] at hroot
  · obtain ⟨_, _, hfind⟩ := Option.bind_eq_some_iff.mp hparent
    have hmem := Spec.mem_entries_of_definition? hfind
    obtain ⟨l', ha', htree'⟩ := definition?_eq_prune h hmem
    obtain rfl := hup.unique ha'
    obtain ⟨_, ha', _⟩ := ha'
    obtain ⟨ancestors, rfl⟩ := ha'.exists_cons
    exact ⟨p, ancestors, hparent, hmem, htree, htree'⟩

theorem ancestor?_eq (h : ((compile spec profile).run j).1 = .ok c) (n : Nat) {t : Context}
    (hd : d ∈ spec.definitions.entries) (ht : c.definition? spec d.1 = some t) :
    t.ancestor? n = (spec.ancestor? n d).bind fun a => c.definition? spec a.1 := by
  induction n generalizing d t with
  | zero => exact ht.symm
  | succ n ih =>
    rw [Context.ancestor?, Spec.ancestor?]
    cases hp : d.2.parentName with
    | none =>
      obtain rfl := Option.some.inj (ht.symm.trans (definition?_of_root h hd hp))
      have hup : spec.parentOf? d = none := by simp [Spec.parentOf?, hp]
      rw [get?_parent, hup]
      rfl
    | some parent =>
      obtain ⟨p, ancestors, hup, hmem, hd', hp'⟩ := definition?_of_parent h hd hp
      obtain rfl := Option.some.inj (ht.symm.trans hd')
      rw [get?_parent, prune_ofLineage_cons, hup]
      exact ih hmem hp'

/-- Every definition has a tree. The tree so many parents deep in it is the tree of the ancestor so
many steps above. Without a parent all properties are own ones; with one they are those of the
parent's tree but for the names that are declared again, and then own ones. -/
theorem definition_tree (h : ((compile spec profile).run j).1 = .ok c)
    (hd : d ∈ spec.definitions.entries) : ∃ t own, c.definition? spec d.1 = some t ∧
      t.get? "properties" = some (.sequence own) ∧
      (∀ n, t.ancestor? n = (spec.ancestor? n d).bind fun a => c.definition? spec a.1) ∧
      (d.2.parentName = none →
        t.get? "parent" = none ∧ t.get? "allProperties" = some (.sequence own)) ∧
      (∀ parent, d.2.parentName = some parent → ∃ p u inherited,
        spec.definition? parent = some p ∧ c.definition? spec p.1 = some u ∧
        t.get? "parent" = some u ∧ u.get? "allProperties" = some (.sequence inherited) ∧
        t.get? "allProperties" = some (.sequence (inherited.filter
          (fun e => ∀ v ∈ d.2.properties, e.get? "value" ≠ some (.text v.name)) ++ own))) := by
  cases hp : d.2.parentName with
  | none =>
    have ht := definition?_of_root h hd hp
    have hall := allProperties_trees profile d []
    refine ⟨_, _, ht, get?_properties .., fun n => ancestor?_eq h n hd ht, fun _ => ?_, nofun⟩
    refine ⟨get?_parent profile d [], ?_⟩
    rw [get?_allProperties, hall]
    rfl
  | some parent =>
    obtain ⟨p, ancestors, hup, _, ht, hu⟩ := definition?_of_parent h hd hp
    have hall := allProperties_trees profile d (p :: ancestors)
    refine ⟨_, _, ht, get?_properties .., fun n => ancestor?_eq h n hd ht, nofun, ?_⟩
    intro _ hparent
    obtain rfl := Option.some.inj hparent
    have hfind : spec.definition? parent = some p := by simpa [Spec.parentOf?, hp] using hup
    refine ⟨p, _, _, hfind, hu, get?_parent profile d (p :: ancestors),
      get?_allProperties profile p ancestors, ?_⟩
    rw [get?_allProperties, hall]

end compiled

theorem definition_tree_puppy : ∃ c t, ((compile zoo .plain).run .empty).1 = .ok c ∧
    c.definition? zoo puppy.1 = some t ∧ t.get? "parent" = c.definition? zoo dog.1 ∧
      t.ancestor? 2 = c.definition? zoo animal.1 ∧ t.ancestor? 3 = none := by
  obtain ⟨c, hc⟩ := exists_compile_zoo
  have hmem : puppy ∈ zoo.definitions.entries := by simp [zoo, Spec.plain]
  obtain ⟨t, own, ht, _, hup, _, hparent⟩ := definition_tree hc hmem
  obtain ⟨p, u, _, hp, hu, htu, _⟩ := hparent "Dog" rfl
  have hdog : zoo.definition? "Dog" = some dog := rfl
  obtain rfl := Option.some.inj (hp.symm.trans hdog)
  exact ⟨c, t, hc, ht, htu.trans hu.symm, hup 2, hup 3⟩

end ApiContext
