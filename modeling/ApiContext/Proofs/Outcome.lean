import ApiContext.Proofs.Climb
import ApiContext.Proofs.Run

/-! Whether a description compiles. Only the parents of its definitions decide, and the first
definition whose ascent fails is the one whose failure is told. -/
namespace ApiContext
open Model Resolve

/-- The keys of the definitions with the names of their parents. -/
def link (d : String × Schema) : String × Option String := (d.1, d.2.parentName)

def Model.Spec.links (spec : Spec) : List (String × Option String) :=
  spec.definitions.entries.map link

variable {spec spec' : Spec} {d d' e e' last : String × Schema} {path : Lineage}

/-- The lineages of all definitions are their ancestries. -/
theorem lineages_eq_ok_iff {lineages : List Lineage} : spec.lineages = .ok lineages ↔
    List.Forall₂ (Ancestry spec) spec.definitions.entries lineages := by
  have hmem : ∀ d ∈ spec.definitions.entries, d ∈ spec.definitions.entries := fun _ hd => hd
  rw [Spec.lineages, mapM_eq_ok_iff]
  constructor
  · intro h
    have h := (List.forall₂_and_left _ _).mpr ⟨hmem, h⟩
    exact h.imp fun d path hd => (lineage_eq_ok_iff_of_mem hd.1).mp hd.2
  · intro h
    have h := (List.forall₂_and_left _ _).mpr ⟨hmem, h⟩
    exact h.imp fun d path hd => (lineage_eq_ok_iff_of_mem hd.1).mpr hd.2

theorem ancestries_unique {entries : List (String × Schema)} {lineages lineages' : List Lineage}
    (h : List.Forall₂ (Ancestry spec) entries lineages)
    (h' : List.Forall₂ (Ancestry spec) entries lineages') : lineages = lineages' :=
  List.right_unique_forall₂' (fun _ _ _ hp hp' => hp.unique hp') h h'

theorem exists_lineages_iff : (∃ lineages, spec.lineages = .ok lineages) ↔
    ∀ d ∈ spec.definitions.entries, ∃ path, Ancestry spec d path := by
  rw [Spec.lineages, exists_mapM_eq_ok_iff]
  constructor
  · intro h d hd
    obtain ⟨path, hp⟩ := h d hd
    exact ⟨path, (lineage_eq_ok_iff_of_mem hd).mp hp⟩
  · intro h d hd
    obtain ⟨path, hp⟩ := h d hd
    exact ⟨path, (lineage_eq_ok_iff_of_mem hd).mpr hp⟩

theorem lineages_eq_error_iff {err : CompileError} : spec.lineages = .error err ↔
    ∃ before d after, spec.definitions.entries = before ++ d :: after ∧
      (∀ b ∈ before, ∃ path, Ancestry spec b path) ∧ Failure spec d err := by
  rw [Spec.lineages, mapM_eq_error_iff]
  constructor
  · intro h
    obtain ⟨before, d, after, hsplit, hbefore, hd⟩ := h
    refine ⟨before, d, after, hsplit, ?_, lineage_eq_error_iff.mp hd⟩
    intro b hb
    obtain ⟨path, hp⟩ := hbefore b hb
    exact ⟨path, (lineage_eq_ok_iff.mp hp).1⟩
  · intro h
    obtain ⟨before, d, after, hsplit, hbefore, hd⟩ := h
    refine ⟨before, d, after, hsplit, ?_, lineage_eq_error_iff.mpr hd⟩
    intro b hb
    obtain ⟨path, hp⟩ := hbefore b hb
    have hmem : b ∈ spec.definitions.entries := by simp [hsplit, hb]
    exact ⟨path, (lineage_eq_ok_iff_of_mem hmem).mpr hp⟩

/-- All ascents end at a root exactly when none meets an unknown parent or a name again. -/
theorem ancestry_iff_no_obstacle : (∀ d ∈ spec.definitions.entries, ∃ path, Ancestry spec d path) ↔
    ∀ d ∈ spec.definitions.entries, ∀ path last, Ascent spec d path last →
      (names path).Nodup ∧ ∀ parent, last.2.parentName = some parent →
        parent ∈ spec.definitions.keys := by
  constructor
  · intro h d hd path last ha
    obtain ⟨full, root, hroot, hr⟩ := h d hd
    have hstop : spec.parentOf? root = none := by simp [Spec.parentOf?, hr]
    have hpath := ha.isPrefix_of_stop hroot hstop
    have hnodup : (names path).Nodup :=
      (hroot.nodup_of_stop hd hstop).sublist (hpath.sublist.map Prod.fst)
    refine ⟨hnodup, fun parent hp => ?_⟩
    by_contra hk
    -- Both ascents have come to their ends, which therefore are one.
    have hlast : spec.parentOf? last = none := by
      rw [Spec.parentOf?, hp, Option.bind_some, Spec.definition?_eq_none_iff,
        Schema.refName_parentName hp]
      exact hk
    have hle := (hroot.isPrefix_of_stop ha hlast).length_le
    obtain rfl := hpath.eq_of_length_le hle
    rw [ha.last_eq hroot, hr] at hp
    cases hp
  · intro h d hd
    cases hl : lineage spec d.1 d.2 with
    | ok path => exact ⟨path, (lineage_eq_ok_iff.mp hl).1⟩
    | error err =>
      obtain ⟨ha, _, hp, hn⟩ | ⟨ha, _, hp, hm⟩ := lineage_eq_error_iff.mp hl
      · have hk := (h d hd _ _ ha).2 _ hp
        rw [Spec.definition?_eq_none_iff, Schema.refName_parentName hp] at hn
        exact absurd hk hn
      · have hagain := (h d hd _ _ (ha.snoc hp)).1
        rw [names, List.map_append, List.nodup_append] at hagain
        exact absurd rfl (hagain.2.2 _ hm _ (by simp))

/-! ### What decides -/

theorem name_of_link (h : link e' = link e) : e'.1 = e.1 := (Prod.mk.inj h).1

theorem parentName_of_link (h : link e' = link e) : e'.2.parentName = e.2.parentName :=
  (Prod.mk.inj h).2

theorem parentOf?_link (hlinks : spec'.links = spec.links) (he : link e' = link e) :
    (spec'.parentOf? e').map link = (spec.parentOf? e).map link := by
  have hfind (s : Spec) (name : String) :
      (s.definition? name).map link = s.links.find? (·.1 == refName name) := by
    rw [Spec.links, List.find?_map]
    rfl
  rw [Spec.parentOf?, Spec.parentOf?, parentName_of_link he]
  cases e.2.parentName with
  | none => rfl
  | some parent => exact (hfind spec' parent).trans (hlinks ▸ (hfind spec parent).symm)

theorem names_eq_of_map_link {path path' : Lineage} (h : path'.map link = path.map link) :
    names path' = names path := by
  have h1 := congrArg (List.map Prod.fst) h
  simpa [names, link, List.map_map, Function.comp_def] using h1

/-- Descriptions with the same links have the same ascents, entry by entry. -/
theorem Ascent.transport (hlinks : spec'.links = spec.links) (h : Ascent spec e path last)
    (he : link e' = link e) : ∃ path' last', Ascent spec' e' path' last' ∧
      path'.map link = path.map link ∧ link last' = link last := by
  induction h generalizing e' with
  | here e => exact ⟨[e'], e', .here e', by simp [he], he⟩
  | @up e f path last hp ha ih =>
    have hstep := parentOf?_link hlinks he
    rw [hp, Option.map_some, Option.map_eq_some_iff] at hstep
    obtain ⟨f', hf', hlink⟩ := hstep
    obtain ⟨path', last', ha', hpath, hlast⟩ := ih hlink
    exact ⟨e' :: path', last', .up hf' ha', by simp [he, hpath], hlast⟩

theorem Ancestry.transport (hlinks : spec'.links = spec.links) (h : Ancestry spec e path)
    (he : link e' = link e) : ∃ path', Ancestry spec' e' path' := by
  obtain ⟨last, ha, hr⟩ := h
  obtain ⟨path', last', ha', _, hlast⟩ := ha.transport hlinks he
  exact ⟨path', last', ha', (parentName_of_link hlast).trans hr⟩

theorem Failure.transport (hlinks : spec'.links = spec.links) {err : CompileError}
    (h : Failure spec e err) (he : link e' = link e) : Failure spec' e' err := by
  cases h with
  | @unknown path last parent ha hn hp hd =>
    obtain ⟨path', last', ha', hpath, hlast⟩ := ha.transport hlinks he
    have hparent : last'.2.parentName = some parent := (parentName_of_link hlast).trans hp
    have hstep := parentOf?_link hlinks hlast
    rw [Spec.parentOf?, Spec.parentOf?, hp, hparent, Option.bind_some, Option.bind_some,
      hd] at hstep
    rw [← name_of_link hlast]
    exact .unknown ha' (names_eq_of_map_link hpath ▸ hn) hparent (Option.map_eq_none_iff.mp hstep)
  | @cyclic path last next ha hn hp hm =>
    obtain ⟨path', last', ha', hpath, hlast⟩ := ha.transport hlinks he
    have hstep := parentOf?_link hlinks hlast
    rw [hp, Option.map_some, Option.map_eq_some_iff] at hstep
    obtain ⟨next', hnext', hlink⟩ := hstep
    have hnames := names_eq_of_map_link hpath
    rw [← name_of_link he, ← hnames, ← name_of_link hlink]
    refine .cyclic ha' (hnames ▸ hn) hnext' ?_
    rw [hnames, name_of_link hlink]
    exact hm

theorem lineages_error_transport (hlinks : spec'.links = spec.links) {err : CompileError}
    (h : spec.lineages = .error err) : spec'.lineages = .error err := by
  obtain ⟨before, d, after, hsplit, hbefore, hd⟩ := lineages_eq_error_iff.mp h
  have hmap : spec'.definitions.entries.map link = before.map link ++ link d :: after.map link := by
    rw [← List.map_cons, ← List.map_append, ← hsplit]
    exact hlinks
  obtain ⟨before', rest, hsplit', hb, hrest⟩ := List.map_eq_append_iff.mp hmap
  obtain ⟨d', after', rfl, hd', _⟩ := List.map_eq_cons_iff.mp hrest
  refine lineages_eq_error_iff.mpr ⟨before', d', after', hsplit', ?_, hd.transport hlinks hd'⟩
  intro b' hb'
  have hmem : link b' ∈ before.map link := hb ▸ List.mem_map_of_mem hb'
  obtain ⟨b, hbm, hlink⟩ := List.mem_map.mp hmem
  obtain ⟨path, hp⟩ := hbefore b hbm
  exact hp.transport hlinks hlink.symm

/-! ### The outcome of a compilation -/

theorem compile_eq_error_iff {profile : Profile} {j : Journal} {err : CompileError} :
    ((compile spec profile).run j).1 = .error err ↔ spec.lineages = .error err := by
  rw [compile_result]
  cases spec.lineages with
  | error e => simp [Except.map]
  | ok lineages => simp [Except.map]

/-- A compilation holds what the ancestries of the definitions determine. -/
theorem compile_eq_ok_iff {profile : Profile} {j : Journal} {c : Compilation} :
    ((compile spec profile).run j).1 = .ok c ↔ ∃ lineages,
      List.Forall₂ (Ancestry spec) spec.definitions.entries lineages ∧
        c = ⟨.mapping (Draft.pruneEntries (Draft.specFields profile spec lineages)),
          (journalOf spec profile j).diagnostics⟩ := by
  simp only [← lineages_eq_ok_iff]
  rw [compile_result]
  cases spec.lineages with
  | error e => simp [Except.map]
  | ok lineages => simp [Except.map, eq_comm]

theorem exists_compile_ok_iff {profile : Profile} {j : Journal} :
    (∃ c, ((compile spec profile).run j).1 = .ok c) ↔
      ∀ d ∈ spec.definitions.entries, ∃ path, Ancestry spec d path := by
  rw [← exists_lineages_iff, compile_result]
  cases spec.lineages with
  | error e => simp [Except.map]
  | ok lineages => simp [Except.map]

/-- A description compiles exactly when every definition has an ancestry, that is, when no ascent
meets an unknown parent or a name again. Otherwise the first definition without one tells its
failure, and nothing but the keys of the definitions and their parents has a part in it. -/
theorem compile_outcome (spec : Spec) (profile : Profile) (j : Journal) :
    ((∃ c, ((compile spec profile).run j).1 = .ok c) ↔
        ∀ d ∈ spec.definitions.entries, ∃ path, Ancestry spec d path) ∧
      ((∀ d ∈ spec.definitions.entries, ∃ path, Ancestry spec d path) ↔
        ∀ d ∈ spec.definitions.entries, ∀ path last, Ascent spec d path last →
          (names path).Nodup ∧ ∀ parent, last.2.parentName = some parent →
            parent ∈ spec.definitions.keys) ∧
      (∀ err, ((compile spec profile).run j).1 = .error err ↔
        ∃ before d after, spec.definitions.entries = before ++ d :: after ∧
          (∀ b ∈ before, ∃ path, Ancestry spec b path) ∧ Failure spec d err) ∧
      (∀ spec' profile' j', spec'.links = spec.links → ∀ err,
        ((compile spec' profile').run j').1 = .error err ↔
          ((compile spec profile).run j).1 = .error err) := by
  refine ⟨exists_compile_ok_iff, ancestry_iff_no_obstacle, ?_, ?_⟩
  · intro err
    rw [compile_eq_error_iff, lineages_eq_error_iff]
  · intro spec' profile' j' hlinks err
    rw [compile_eq_error_iff, compile_eq_error_iff]
    exact ⟨lineages_error_transport hlinks.symm, lineages_error_transport hlinks⟩

end ApiContext
