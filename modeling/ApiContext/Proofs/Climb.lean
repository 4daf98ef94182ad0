import ApiContext.Proofs.Ascent

/-! What the climb along parents finds: the lineage of a schema, or the failure that stops it. Both
are settled by the ascent alone. -/
namespace ApiContext
open Model
variable {spec : Spec} {start : String} {trail : List String} {e next last : String × Schema}
variable {path : Lineage} {parent : String} {err : CompileError}

/-! ### One step -/

theorem climb_root (h : e.2.parentName = none) : climb spec start trail e.1 e.2 = .ok [e] := by
  rw [climb]
  split
  · rfl
  · next hp => simp [h] at hp

theorem climb_unknown (hp : e.2.parentName = some parent) (hd : spec.definition? parent = none) :
    climb spec start trail e.1 e.2 = .error (.unknownParent e.1 parent) := by
  rw [climb]
  split
  · next h => simp [h] at hp
  · next p h =>
    obtain rfl : p = parent := by simpa [h] using hp
    split
    · rfl
    · next hf => simp [hd] at hf

/-- With a parent that is defined, the climb ends where its name was passed, and else goes on. -/
theorem climb_parent (hp : spec.parentOf? e = some next) :
    climb spec start trail e.1 e.2 =
      if next.1 ∈ trail then .error (.cyclicInheritance start (trail ++ [next.1]))
      else (climb spec start (trail ++ [next.1]) next.1 next.2).map (e :: ·) := by
  obtain ⟨parent, hname, hd⟩ := Option.bind_eq_some_iff.mp hp
  rw [climb]
  split
  · next h => simp [h] at hname
  · next p h =>
    obtain rfl : p = parent := by simpa [h] using hname
    split
    · next hf => simp [hd] at hf
    · next key s hf =>
      obtain rfl : (key, s) = next := by simpa [hf] using hd
      by_cases hk : key ∈ trail <;> simp [hk]

/-! ### A whole climb -/

/-- While no name repeats, the climb follows the ascent. -/
theorem climb_ascent (h : Ascent spec e path last)
    (hn : (trail ++ names path.tail).Nodup) :
    climb spec start trail e.1 e.2 =
      (climb spec start (trail ++ names path.tail) last.1 last.2).map (path.dropLast ++ ·) := by
  induction h generalizing trail with
  | here e =>
    simp only [names, List.tail_cons, List.map_nil, List.append_nil, List.dropLast_singleton,
      List.nil_append]
    cases climb spec start trail e.1 e.2 <;> rfl
  | @up e f path last hp ha ih =>
    have hsplit := ha.append_names trail
    have hf : f.1 ∉ trail := ha.not_mem_of_nodup hn
    have hne : path ≠ [] := by
      obtain ⟨rest, rfl⟩ := ha.exists_cons
      simp
    rw [List.tail_cons, hsplit] at hn
    rw [climb_parent hp, if_neg hf, ih hn, List.tail_cons, hsplit, List.dropLast_cons_of_ne_nil hne]
    cases climb spec start (trail ++ [f.1] ++ names path.tail) last.1 last.2 <;> rfl

/-- What ends an ascent at its last entry, once some names are passed. -/
inductive Halt (spec : Spec) (passed : List String) (last : String × Schema) : Prop
  | root : last.2.parentName = none → Halt spec passed last
  | unknown {parent : String} : last.2.parentName = some parent → spec.definition? parent = none →
      Halt spec passed last
  | cyclic {next : String × Schema} : spec.parentOf? last = some next → next.1 ∈ passed →
      Halt spec passed last

/-- Since each step passes a new definition, every ascent halts before a name repeats. -/
theorem exists_halt (spec : Spec) (trail : List String) (e : String × Schema) (hn : trail.Nodup) :
    ∃ path last, Ascent spec e path last ∧ (trail ++ names path.tail).Nodup ∧
      Halt spec (trail ++ names path.tail) last := by
  obtain ⟨name, schema⟩ := e
  have stay (h : Halt spec trail (name, schema)) : ∃ path last,
      Ascent spec (name, schema) path last ∧ (trail ++ names path.tail).Nodup ∧
        Halt spec (trail ++ names path.tail) last :=
    ⟨[(name, schema)], _, .here _, by simpa [names] using hn, by simpa [names] using h⟩
  induction trail, name, schema using climb.induct spec with
  | case1 trail name schema h => exact stay (.root h)
  | case2 trail name schema parent hp hd => exact stay (.unknown hp hd)
  | case3 trail name schema parent hp key next hd hk =>
    exact stay (.cyclic (Spec.parentOf?_of_definition? hp hd) hk)
  | case4 trail name schema parent hp key next hd hk ih =>
    have hstep := Spec.parentOf?_of_definition? (e := (name, schema)) hp hd
    have hn' : (trail ++ [key]).Nodup := by
      refine List.nodup_append.mpr ⟨hn, by simp, ?_⟩
      intro a ha b hb hab
      rw [List.mem_singleton] at hb
      exact hk (hb ▸ hab ▸ ha)
    obtain ⟨path, last, ha, hpath, hhalt⟩ := ih hn' fun h =>
      ⟨[(key, next)], _, .here _, by simpa [names] using hn', by simpa [names] using h⟩
    have hsplit : trail ++ names path = (trail ++ [key]) ++ names path.tail :=
      ha.append_names trail
    exact ⟨(name, schema) :: path, last, .up hstep ha, by rwa [List.tail_cons, hsplit],
      by rwa [List.tail_cons, hsplit]⟩

theorem exists_ascent (spec : Spec) (e : String × Schema) :
    ∃ path last, Ascent spec e path last ∧ (names path).Nodup ∧ Halt spec (names path) last := by
  obtain ⟨path, last, ha, hn, hhalt⟩ := exists_halt spec [e.1] e (by simp)
  have hnames : names path = [e.1] ++ names path.tail := ha.names_eq
  exact ⟨path, last, ha, hnames ▸ hn, hnames ▸ hhalt⟩

/-! ### The lineage -/

theorem lineage_of_root (h : Ascent spec e path last) (hn : (names path).Nodup)
    (hr : last.2.parentName = none) : lineage spec e.1 e.2 = .ok path := by
  rw [h.names_eq] at hn
  rw [lineage, climb_ascent h hn, climb_root hr]
  simp [Except.map, h.dropLast_append]

theorem lineage_of_unknown (h : Ascent spec e path last) (hn : (names path).Nodup)
    (hp : last.2.parentName = some parent) (hd : spec.definition? parent = none) :
    lineage spec e.1 e.2 = .error (.unknownParent last.1 parent) := by
  rw [h.names_eq] at hn
  rw [lineage, climb_ascent h hn, climb_unknown hp hd]
  rfl

theorem lineage_of_cyclic (h : Ascent spec e path last) (hn : (names path).Nodup)
    (hp : spec.parentOf? last = some next) (hm : next.1 ∈ names path) :
    lineage spec e.1 e.2 = .error (.cyclicInheritance e.1 (names path ++ [next.1])) := by
  have hnames : names path = [e.1] ++ names path.tail := h.names_eq
  rw [hnames] at hn hm ⊢
  rw [lineage, climb_ascent h hn, climb_parent hp, if_pos hm]
  rfl

/-- The walk from a schema succeeds with its ancestry, provided that no name repeats in it. -/
theorem lineage_eq_ok_iff :
    lineage spec e.1 e.2 = .ok path ↔ Ancestry spec e path ∧ (names path).Nodup := by
  constructor
  · intro h
    obtain ⟨path', last, ha, hn, hhalt⟩ := exists_ascent spec e
    cases hhalt with
    | root hr =>
      rw [lineage_of_root ha hn hr] at h
      obtain rfl := Except.ok.inj h
      exact ⟨⟨last, ha, hr⟩, hn⟩
    | unknown hp hd => simp [lineage_of_unknown ha hn hp hd] at h
    | cyclic hp hm => simp [lineage_of_cyclic ha hn hp hm] at h
  · intro h
    obtain ⟨⟨last, ha, hr⟩, hn⟩ := h
    exact lineage_of_root ha hn hr

theorem lineage_eq_error_iff : lineage spec e.1 e.2 = .error err ↔ Failure spec e err := by
  constructor
  · intro h
    obtain ⟨path, last, ha, hn, hhalt⟩ := exists_ascent spec e
    cases hhalt with
    | root hr => simp [lineage_of_root ha hn hr] at h
    | unknown hp hd =>
      rw [lineage_of_unknown ha hn hp hd] at h
      obtain rfl := Except.error.inj h
      exact .unknown ha hn hp hd
    | cyclic hp hm =>
      rw [lineage_of_cyclic ha hn hp hm] at h
      obtain rfl := Except.error.inj h
      exact .cyclic ha hn hp hm
  · intro h
    cases h with
    | unknown ha hn hp hd => exact lineage_of_unknown ha hn hp hd
    | cyclic ha hn hp hm => exact lineage_of_cyclic ha hn hp hm

/-- Among the definitions no name can repeat on the way to a root. -/
theorem lineage_eq_ok_iff_of_mem (he : e ∈ spec.definitions.entries) :
    lineage spec e.1 e.2 = .ok path ↔ Ancestry spec e path := by
  rw [lineage_eq_ok_iff]
  constructor
  · exact fun h => h.1
  · intro h
    obtain ⟨last, ha, hr⟩ := h
    exact ⟨⟨last, ha, hr⟩, ha.nodup_of_stop he (by simp [Spec.parentOf?, hr])⟩

end ApiContext
