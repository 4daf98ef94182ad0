import ApiContext.Proofs.Outcome

/-! The diagnostics of a compilation. A property is resolved again for every list and every
descendant that it is in, but each time it is due the same report; so the first visits tell all. -/
namespace ApiContext
open Model Resolve
variable {spec : Spec}

/-! ### Diagnostics that say the same -/

theorem Problem.message_injective {p q : Problem} (h : p.message = q.message) : p = q := by
  have hl := congrArg String.toList h
  unfold message at hl
  cases p with
  | unknownReference path =>
    cases q with
    | unknownReference path' => simpa [String.toList_inj] using hl
    | unusableTag tag => simp at hl
    | untyped => simp at hl
  | unusableTag tag =>
    cases q with
    | unknownReference path => simp at hl
    | unusableTag tag' => simpa [String.toList_inj] using hl
    | untyped => simp at hl
  | untyped =>
    cases q with
    | unknownReference path => simp at hl
    | unusableTag tag => simp at hl
    | untyped => rfl

namespace Diagnostic

/-- Of one kind, on one subject, with one message. -/
def alike (d e : Diagnostic) : Bool :=
  d.kind == e.kind && d.subject == e.subject && d.problem.message == e.problem.message

theorem alike_iff {d e : Diagnostic} : d.alike e = true ↔ d = e := by
  constructor
  · intro h
    simp only [alike, Bool.and_eq_true, beq_iff_eq] at h
    obtain ⟨⟨_, hsubject⟩, hmessage⟩ := h
    obtain ⟨subject, problem⟩ := d
    obtain rfl : subject = e.subject := hsubject
    obtain rfl := Problem.message_injective hmessage
    rfl
  · intro h
    subst h
    simp [alike]

/-- Messages tell problems apart, so nothing else is dropped than repetitions. -/
theorem eraseDupsBy_alike (ds : List Diagnostic) : ds.eraseDupsBy alike = ds.eraseDups := by
  have h : alike = fun d e => d == e := by
    funext d e
    rw [Bool.eq_iff_iff, alike_iff, beq_iff_eq]
  rw [h]
  rfl

end Diagnostic

/-! ### Visits that add nothing -/

/-- Each property of a lineage is declared by a schema in it, under whose name it stands. -/
theorem exists_declaring {l : Lineage} {p : String × Value} (hp : p ∈ allProperties l) :
    ∃ d ∈ l, p.2 ∈ d.2.properties ∧ p.1 = d.1 := by
  induction l with
  | nil => cases hp
  | cons d ancestors ih =>
    cases List.mem_append.mp hp with
    | inl hp =>
      obtain ⟨e, he, hprop⟩ := ih (List.mem_filter.mp hp).1
      exact ⟨e, List.mem_cons_of_mem d he, hprop⟩
    | inr hp =>
      obtain ⟨v, hv, rfl⟩ := List.mem_map.mp hp
      exact ⟨d, by simp, hv, rfl⟩

namespace Visit

/-- The visits that follow those of a schema's required and optional properties: once more as its
own, as all of its lineage, and as its enums. -/
def again (name : String) (s : Schema) (ancestors : Lineage) : List Visit :=
  s.properties.map (inScope name)
    ++ (allProperties ((name, s) :: ancestors)).map (fun p => inScope p.1 p.2)
    ++ s.enums.map (inScope name)

theorem again_subset (name : String) (s : Schema) (ancestors : Lineage) :
    ∀ x ∈ again name s ancestors, x ∈ ofLineage ((name, s) :: ancestors) := by
  have hown {v : Value} (hv : v ∈ s.properties) :
      inScope name v ∈ ofLineage ((name, s) :: ancestors) :=
    mem_ofLineage_iff.mpr ⟨(name, s), by simp, v, hv, rfl⟩
  intro x hx
  rw [again, List.mem_append, List.mem_append, or_assoc] at hx
  obtain hx | hx | hx := hx
  · obtain ⟨v, hv, rfl⟩ := List.mem_map.mp hx
    exact hown hv
  · obtain ⟨p, hp, rfl⟩ := List.mem_map.mp hx
    obtain ⟨d, hd, hv, hname⟩ := exists_declaring hp
    exact mem_ofLineage_iff.mpr ⟨d, hd, p.2, hv, hname ▸ rfl⟩
  · obtain ⟨v, hv, rfl⟩ := List.mem_map.mp hx
    exact hown (List.mem_filter.mp hv).1

end Visit

theorem reported_propertyNotes (ps : List (String × Value)) :
    reported (propertyNotes spec ps) =
      Visit.reports spec (ps.map fun p => Visit.inScope p.1 p.2) :=
  reported_reporting _

theorem reported_lineageNotes_cons (name : String) (s : Schema) (ancestors : Lineage) :
    reported (lineageNotes spec ((name, s) :: ancestors)) =
      reported (lineageNotes spec ancestors) ++
        (Visit.reports spec (Visit.ofSchema (name, s)) ++
          Visit.reports spec (Visit.again name s ancestors)) := by
  have hscope (vs : List Value) : (declaredBy name vs).map (fun p => Visit.inScope p.1 p.2) =
      vs.map (Visit.inScope name) := by
    rw [declaredBy, List.map_map]
    rfl
  have hlog (ns : List Note) : reported (.log (.resolvingSchema name) :: ns) =
      reported ns := rfl
  simp only [lineageNotes, hlog, reported_append, reported_propertyNotes, hscope,
    Visit.ofSchema, Visit.again, List.map_append, Visit.reports_append, List.append_assoc]

/-- A lineage is collected as if its properties were visited once, from the root down. -/
theorem collect_lineageNotes (l : Lineage) (known : List Diagnostic) :
    collect known (reported (lineageNotes spec l)) =
      collect known (Visit.reports spec (Visit.ofLineage l)) := by
  induction l with
  | nil => rfl
  | cons d ancestors ih =>
    obtain ⟨name, s⟩ := d
    have hall : Visit.reports spec (Visit.ofLineage ((name, s) :: ancestors)) =
        Visit.reports spec (Visit.ofLineage ancestors) ++
          Visit.reports spec (Visit.ofSchema (name, s)) := by
      rw [Visit.ofLineage_cons, Visit.reports_append]
    rw [reported_lineageNotes_cons, collect_append, ih, ← collect_append, ← List.append_assoc,
      ← hall]
    exact collect_append_of_subset (Visit.reports_subset (Visit.again_subset name s ancestors))

/-! ### The diagnostics of a compilation -/

theorem flatMap_schemaNotes {entries : List (String × Schema)} {lineages : List Lineage}
    (h : List.Forall₂ (fun d l => lineage spec d.1 d.2 = .ok l) entries lineages) :
    entries.flatMap (schemaNotes spec) = lineages.flatMap (lineageNotes spec) := by
  induction h with
  | nil => rfl
  | cons hd _ ih => rw [List.flatMap_cons, List.flatMap_cons, schemaNotes, hd, ih]

theorem reported_specNotes {lineages : List Lineage} (h : spec.lineages = .ok lineages) :
    reported (specNotes spec) =
      Visit.reports spec (spec.operations.flatMap Visit.ofOperation) ++
        lineages.flatMap (fun l => reported (lineageNotes spec l)) ++
          Visit.reports spec (spec.enums.map (Visit.inScope "")) := by
  have hop (o : Operation) : reported (.log (.resolvingOperation (operationId o)) ::
      reporting (Visit.reports spec (Visit.ofOperation o))) =
        Visit.reports spec (Visit.ofOperation o) :=
    reported_reporting _
  rw [specNotes, untilFailure_of_ok h, flatMap_schemaNotes (mapM_eq_ok_iff.mp h), h]
  simp only [reported_append, reported_flatMap, hop, reported_reporting,
    Visit.reports_flatMap]

theorem diagnostics_journalOf (profile : Profile) (j : Journal) :
    (journalOf spec profile j).diagnostics =
      collect j.diagnostics (reported (specNotes spec)) :=
  Journal.diagnostics_write _ _

/-- The journal keeps what the visits are due, each report where it first comes. -/
theorem diagnostics_journalOf_of_ok (profile : Profile) (events : List Event)
    {lineages : List Lineage} (h : spec.lineages = .ok lineages) :
    (journalOf spec profile ⟨[], events⟩).diagnostics =
      (Visit.reports spec (Visit.all spec lineages)).eraseDups := by
  have hdefs (known : List Diagnostic) :
      collect known (lineages.flatMap fun l => reported (lineageNotes spec l)) =
        collect known (Visit.reports spec (lineages.flatMap Visit.ofLineage)) := by
    rw [Visit.reports_flatMap]
    exact collect_flatMap_congr (fun l _ => collect_lineageNotes l) known
  have hspec := reported_specNotes h
  calc (journalOf spec profile ⟨[], events⟩).diagnostics
      = collect [] (reported (specNotes spec)) := diagnostics_journalOf _ _
    _ = collect [] (Visit.reports spec (Visit.all spec lineages)) := by
        simp only [hspec, Visit.all, Visit.reports_append, collect_append, hdefs]
    _ = (Visit.reports spec (Visit.all spec lineages)).eraseDups := collect_nil _

theorem diagnostics_eq_eraseDups {profile : Profile} {events : List Event} {c : Compilation}
    (h : ((compile spec profile).run ⟨[], events⟩).1 = .ok c) :
    ∃ lineages, List.Forall₂ (Ancestry spec) spec.definitions.entries lineages ∧
      c.diagnostics = (Visit.reports spec (Visit.all spec lineages)).eraseDups := by
  obtain ⟨lineages, hl, rfl⟩ := compile_eq_ok_iff.mp h
  exact ⟨lineages, hl, diagnostics_journalOf_of_ok profile events (lineages_eq_ok_iff.mpr hl)⟩

theorem nodup_diagnostics {profile : Profile} {events : List Event} {c : Compilation}
    (h : ((compile spec profile).run ⟨[], events⟩).1 = .ok c) :
    c.diagnostics.Nodup := by
  obtain ⟨lineages, _, hd⟩ := diagnostics_eq_eraseDups h
  rw [hd]
  exact nodup_eraseDups _

/-- The diagnostics of a description that compiles are the reports that its values are due, in the
order of the visits, without those that say the same as an earlier one. -/
theorem compile_diagnostics {profile : Profile} {events : List Event} {c : Compilation}
    (h : ((compile spec profile).run ⟨[], events⟩).1 = .ok c) :
    ∃ lineages, List.Forall₂ (Ancestry spec) spec.definitions.entries lineages ∧
      c.diagnostics =
        (Visit.reports spec (Visit.all spec lineages)).eraseDupsBy Diagnostic.alike := by
  obtain ⟨lineages, hl, hd⟩ := diagnostics_eq_eraseDups h
  exact ⟨lineages, hl, hd.trans (Diagnostic.eraseDupsBy_alike _).symm⟩

/-! ### A description with all kinds of values -/

/-- A value with a name and a tag only. -/
def Model.Value.plain (name : String) (tag : Option String) : Value :=
  ⟨name, none, tag, none, false, none, none, none, none, false, none, none⟩

/-- A description with operations, definitions and enums only. -/
def Model.Spec.plain (operations : List Operation) (definitions : OrderedMap Schema)
    (enums : List Value) : Spec :=
  ⟨⟨"", none, ""⟩, none, none, [], operations, definitions, [], enums, []⟩

def animal : String × Schema := ("Animal", ⟨none, none, none, [.plain "kind" none]⟩)

def dog : String × Schema :=
  ("Dog", ⟨none, none, some "#/definitions/Animal",
    [{ Value.plain "toys" (some "array") with items := some (.plain "" (some "object")) }]⟩)

def puppy : String × Schema :=
  ("Puppy", ⟨none, none, some "Dog", [.plain "kind" (some "string")]⟩)

def zoo : Spec := .plain
  [⟨.get, "/pets", some "getPets", none, none, [], [⟨.query, .plain "filter" (some "object")⟩],
    [⟨some 200, none, some { Value.plain "" none with schema := some (.ref "Cat") }⟩], [], false⟩]
  ⟨[dog, animal, puppy], by decide⟩ [.plain "mood" none]

def zooLineages : List Lineage := [[dog, animal], [animal], [puppy, dog, animal]]

theorem zoo_ancestries : List.Forall₂ (Ancestry zoo) zoo.definitions.entries zooLineages := by
  have hdog : zoo.parentOf? dog = some animal := rfl
  have hpuppy : zoo.parentOf? puppy = some dog := rfl
  refine .cons ⟨animal, .up hdog (.here animal), rfl⟩ (.cons ⟨animal, .here animal, rfl⟩ ?_)
  exact .cons ⟨animal, .up hpuppy (.up hdog (.here animal)), rfl⟩ .nil

theorem exists_compile_zoo : ∃ c, ((compile zoo .plain).run .empty).1 = .ok c :=
  ⟨_, compile_eq_ok_iff.mpr ⟨zooLineages, zoo_ancestries, rfl⟩⟩

theorem compile_diagnostics_zoo : ∃ c, ((compile zoo .plain).run .empty).1 = .ok c ∧
    c.diagnostics = [⟨"getPets.filter", .unusableTag "object"⟩,
      ⟨"getPets.responses.200", .unknownReference "Cat"⟩, ⟨"Animal.kind", .untyped⟩,
      ⟨"Dog.toys.items", .unusableTag "object"⟩, ⟨"mood", .untyped⟩] := by
  obtain ⟨c, hc⟩ := exists_compile_zoo
  obtain ⟨lineages, hl, hd⟩ := compile_diagnostics hc
  obtain rfl := ancestries_unique hl zoo_ancestries
  refine ⟨c, hc, hd.trans ?_⟩
  decide

end ApiContext
