import ApiContext.Proofs.Climb
import ApiContext.Proofs.Resolution

/-! The walk along parents, with the names that it looks up. It stops where the ascent from its
start first comes to a root, an unknown parent or a name again, and it looks up one name more than
there are definitions at most. -/
namespace ApiContext
open Model Resolve
variable {spec : Spec} {start : String} {trail : List String} {path path' : Lineage}
variable {e f next last last' : String × Schema}

/-- The climb, and the names that it looks up in order. -/
def tracedClimb (spec : Spec) (start : String) (trail : List String) (name : String)
    (schema : Schema) : Except CompileError Lineage × List String :=
  match schema.parentName with
  | none => (.ok [(name, schema)], [])
  | some parent =>
    match _found : spec.definition? parent with
    | none => (.error (.unknownParent name parent), [parent])
    | some (key, next) =>
      if _seen : key ∈ trail then (.error (.cyclicInheritance start (trail ++ [key])), [parent])
      else
        let rest := tracedClimb spec start (trail ++ [key]) key next
        (rest.1.map ((name, schema) :: ·), parent :: rest.2)
termination_by (unseen spec trail).length
decreasing_by exact unseen_length_lt (mem_keys_of_definition? _found) _seen

/-- The walk from a schema; `lineage` is what it finds. -/
def walk (spec : Spec) (e : String × Schema) : Except CompileError Lineage × List String :=
  tracedClimb spec e.1 [e.1] e.1 e.2

/-! ### The trace -/

/-- The trace leaves the climb as it is. -/
theorem tracedClimb_fst (spec : Spec) (start : String) (trail : List String) (name : String)
    (schema : Schema) :
    (tracedClimb spec start trail name schema).1 = climb spec start trail name schema := by
  fun_induction tracedClimb spec start trail name schema with
  | case1 trail name schema hp => exact (climb_root (e := (name, schema)) hp).symm
  | case2 trail name schema parent hp hd =>
    exact (climb_unknown (e := (name, schema)) hp hd).symm
  | case3 trail name schema parent hp key next hd hk =>
    have hstep := Spec.parentOf?_of_definition? (e := (name, schema)) hp hd
    exact ((climb_parent hstep).trans (if_pos hk)).symm
  | case4 trail name schema parent hp key next hd hk rest ih =>
    have hstep := Spec.parentOf?_of_definition? (e := (name, schema)) hp hd
    have hclimb : climb spec start trail name schema =
        (climb spec start (trail ++ [key]) key next).map ((name, schema) :: ·) :=
      (climb_parent hstep).trans (if_neg hk)
    rw [hclimb, ← ih]

/-- Each lookup but the last passes a definition that was not seen before. -/
theorem length_lookups_le (spec : Spec) (start : String) (trail : List String) (name : String)
    (schema : Schema) : (tracedClimb spec start trail name schema).2.length ≤
      (unseen spec trail).length + 1 := by
  fun_induction tracedClimb spec start trail name schema with
  | case1 => exact Nat.zero_le _
  | case2 => exact Nat.succ_le_succ (Nat.zero_le _)
  | case3 => exact Nat.succ_le_succ (Nat.zero_le _)
  | case4 trail name schema parent hp key next hd hk rest ih =>
    have hrest : rest.2.length ≤ (unseen spec (trail ++ [key])).length + 1 := ih
    have hless := unseen_length_lt (mem_keys_of_definition? hd) hk
    rw [List.length_cons]
    omega

theorem lookups_of_halt (h : Halt spec trail e) :
    (tracedClimb spec start trail e.1 e.2).2 = e.2.parentName.toList := by
  rw [tracedClimb]
  split
  · next hp => simp [hp]
  · next parent hp =>
    split
    · simp [hp]
    · next key s hd =>
      cases h with
      | root hr => simp [hr] at hp
      | unknown hp' hd' =>
        obtain rfl := Option.some.inj (hp.symm.trans hp')
        simp [hd'] at hd
      | @cyclic next hnext hm =>
        obtain rfl : (key, s) = next :=
          Option.some.inj ((Spec.parentOf?_of_definition? hp hd).symm.trans hnext)
        simp [hm, hp]

theorem lookups_of_parent (hp : spec.parentOf? e = some next) (hn : next.1 ∉ trail) :
    (tracedClimb spec start trail e.1 e.2).2 = e.2.parentName.toList ++
      (tracedClimb spec start (trail ++ [next.1]) next.1 next.2).2 := by
  obtain ⟨parent, hname, hd⟩ := Option.bind_eq_some_iff.mp hp
  rw [tracedClimb]
  split
  · next h => simp [h] at hname
  · next p h =>
    obtain rfl : p = parent := by simpa [h] using hname
    split
    · next hf => simp [hd] at hf
    · next key s hf =>
      obtain rfl : (key, s) = next := by simpa [hf] using hd
      simp [hn, h]

/-- Up to where it halts the walk looks up the parents on its path. -/
theorem lookups_ascent (h : Ascent spec e path last) (hn : (trail ++ names path.tail).Nodup)
    (hh : Halt spec (trail ++ names path.tail) last) :
    (tracedClimb spec start trail e.1 e.2).2 = path.filterMap (·.2.parentName) := by
  induction h generalizing trail with
  | here e =>
    have hhere : Halt spec trail e := by simpa [names] using hh
    rw [lookups_of_halt hhere]
    cases hp : e.2.parentName <;> simp [hp]
  | @up e f path last hp ha ih =>
    have hf : f.1 ∉ trail := ha.not_mem_of_nodup hn
    rw [List.tail_cons, ha.append_names trail] at hn hh
    rw [lookups_of_parent hp hf, ih hn hh]
    cases hp : e.2.parentName <;> simp [hp]

/-! ### Where it stops -/

theorem parentName_of_parentOf? (h : spec.parentOf? e = some f) : e.2.parentName = some f.1 := by
  obtain ⟨parent, hname, hd⟩ := Option.bind_eq_some_iff.mp h
  rw [hname, Spec.name_of_definition? hd, Schema.refName_parentName hname]

/-- Each entry of an ascent but the first is the one that the link before it points to. -/
theorem Ascent.links (h : Ascent spec e path last) :
    path.map (·.2.parentName) = (names path.tail).map some ++ [last.2.parentName] := by
  induction h with
  | here e => rfl
  | @up e f path last hp ha ih =>
    rw [List.map_cons, ih, parentName_of_parentOf? hp, List.tail_cons, ha.names_eq]
    rfl

/-- Of two ascents from one entry the second extends the first, or the first goes on beyond it. -/
theorem Ascent.isPrefix_or_next (h : Ascent spec e path last) (h' : Ascent spec e path' last') :
    path <+: path' ∨ ∃ f, spec.parentOf? last' = some f ∧ path' ++ [f] <+: path := by
  induction h' generalizing path with
  | here e =>
    cases h with
    | here => exact .inl (List.prefix_refl _)
    | up hp ha =>
      obtain ⟨rest, rfl⟩ := ha.exists_cons
      exact .inr ⟨_, hp, rest, rfl⟩
  | @up e f path' last' hp' ha' ih =>
    cases h with
    | here => exact .inl ⟨path', rfl⟩
    | up hp ha =>
      obtain rfl := Option.some.inj (hp.symm.trans hp')
      obtain hle | ⟨g, hg, hle⟩ := ih ha
      · exact .inl (List.cons_prefix_cons.mpr ⟨rfl, hle⟩)
      · exact .inr ⟨g, hg, List.cons_prefix_cons.mpr ⟨rfl, hle⟩⟩

/-- Before the end of an ascent without repetition nothing can stop it. -/
theorem Ascent.isPrefix_of_halt (h : Ascent spec e path last) (hn : (names path).Nodup)
    (h' : Ascent spec e path' last') (hh : Halt spec (names path') last') : path <+: path' := by
  obtain hle | ⟨f, hf, hle⟩ := h.isPrefix_or_next h'
  · exact hle
  · cases hh with
    | root hr => simp [Spec.parentOf?, hr] at hf
    | unknown hp hd => simp [Spec.parentOf?, hp, hd] at hf
    | cyclic hnext hm =>
      obtain rfl := Option.some.inj (hf.symm.trans hnext)
      have hnodup : (names (path' ++ [f])).Nodup := hn.sublist (hle.sublist.map Prod.fst)
      rw [names, List.map_append, List.nodup_append] at hnodup
      exact absurd rfl (hnodup.2.2 _ hm _ (by simp))

theorem walk_fst (spec : Spec) (e : String × Schema) : (walk spec e).1 = lineage spec e.1 e.2 :=
  tracedClimb_fst spec e.1 [e.1] e.1 e.2

theorem length_walk_le (spec : Spec) (e : String × Schema) :
    (walk spec e).2.length ≤ spec.definitions.entries.length + 1 := by
  have hunseen : (unseen spec [e.1]).length ≤ spec.definitions.entries.length := by
    rw [unseen, OrderedMap.keys, Entries.keys, ← List.length_map Prod.fst]
    exact List.length_filter_le _ _
  have hle := length_lookups_le spec e.1 [e.1] e.1 e.2
  rw [walk]
  omega

/-- The walk from any schema, a definition or not, follows the ascent up to the first entry that is
a root, has an unknown parent, or has a parent whose name was passed. It succeeds in the first case
with the entries passed; in the others it fails, with the parent that is unknown or with the names
up to the one passed again, each followed by the name that its link points to. It looks up the
parents of the entries passed, so one more than there are definitions at most. -/
theorem schema_walk (spec : Spec) (profile : Profile) (j : Journal) (e : String × Schema) :
    (((schema e.1 e.2).run.run ⟨spec, profile⟩).run j).1 =
        (walk spec e).1.map (Draft.ofLineage profile) ∧
      (walk spec e).1 = lineage spec e.1 e.2 ∧
      (walk spec e).2.length ≤ spec.definitions.entries.length + 1 ∧
      ∃ path last, Ascent spec e path last ∧ (names path).Nodup ∧
        (walk spec e).2 = path.filterMap (·.2.parentName) ∧
        (∀ path' last', Ascent spec e path' last' → Halt spec (names path') last' →
          path <+: path') ∧
        ((last.2.parentName = none ∧ (walk spec e).1 = .ok path) ∨
          (∃ parent, last.2.parentName = some parent ∧ spec.definition? parent = none ∧
            (walk spec e).1 = .error (.unknownParent last.1 parent)) ∨
          (∃ next, spec.parentOf? last = some next ∧ next.1 ∈ names path ∧
            path.map (·.2.parentName) = (names path ++ [next.1]).tail.map some ∧
            (walk spec e).1 = .error (.cyclicInheritance e.1 (names path ++ [next.1])))) := by
  obtain ⟨path, last, ha, hn, hh⟩ := exists_ascent spec e
  have hnames : names path = [e.1] ++ names path.tail := ha.names_eq
  have hlookups : (walk spec e).2 = path.filterMap (·.2.parentName) :=
    lookups_ascent ha (hnames ▸ hn) (hnames ▸ hh)
  have hfst := walk_fst spec e
  refine ⟨?_, hfst, length_walk_le spec e, path, last, ha, hn, hlookups,
    fun path' last' h' hh' => ha.isPrefix_of_halt hn h' hh', ?_⟩
  · rw [yields_schema e j, hfst]
    rfl
  · rw [hfst]
    cases hh with
    | root hr => exact .inl ⟨hr, lineage_of_root ha hn hr⟩
    | unknown hp hd => exact .inr (.inl ⟨_, hp, hd, lineage_of_unknown ha hn hp hd⟩)
    | cyclic hp hm =>
      refine .inr (.inr ⟨_, hp, hm, ?_, lineage_of_cyclic ha hn hp hm⟩)
      rw [ha.links, parentName_of_parentOf? hp, hnames]
      simp

end ApiContext
