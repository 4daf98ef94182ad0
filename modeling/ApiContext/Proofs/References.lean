import ApiContext.Proofs.Sessions

/-! What definitions decide. Of all answers only those on schemas depend on them, since a reference
is typed by its last segment, found or not. Of the reports they decide those on references, by their
keys alone. -/
namespace ApiContext
open Model Resolve

/-- A reference whose last segment is a key. Nothing else is settled by definitions. -/
def Problem.settledBy (spec : Spec) : Problem → Bool
  | .unknownReference reference => spec.definitions.keys.contains (refName reference)
  | .unusableTag _ => false
  | .untyped => false

/-- The reports that definitions leave. -/
def remaining (spec : Spec) (ds : List Diagnostic) : List Diagnostic :=
  ds.filter fun d => !d.problem.settledBy spec

def Request.isSchema : Request → Bool
  | .schema _ _ => true
  | _ => false

variable {spec spec' : Spec} {p : Profile} {r : Request} {rs : List Request}

/-! ### Trees -/

theorem exists_draft (h : r.isSchema = false) (p : Profile) :
    ∃ d, ∀ spec, r.draft ⟨spec, p⟩ = .ok d := by
  cases r with
  | globalValue v => exact ⟨Draft.ofValue p v, fun _ => rfl⟩
  | value v scope => exact ⟨Draft.ofValue p v, fun _ => rfl⟩
  | parameter q scope => exact ⟨Draft.ofParameter p q, fun _ => rfl⟩
  | operation o => exact ⟨Draft.ofOperation p o, fun _ => rfl⟩
  | schema name s => cases h

theorem exists_drafts (h : ∀ r ∈ rs, r.isSchema = false) (p : Profile) :
    ∃ ds : List Draft, ∀ spec, rs.map (·.draft ⟨spec, p⟩) = ds.map .ok := by
  induction rs with
  | nil => exact ⟨[], fun _ => rfl⟩
  | cons r rest ih =>
    obtain ⟨d, hd⟩ := exists_draft (h r (by simp)) p
    obtain ⟨ds, hds⟩ := ih fun r hr => h r (List.mem_cons_of_mem _ hr)
    exact ⟨d :: ds, fun spec => by rw [List.map_cons, List.map_cons, hd, hds]⟩

/-- A value that is a reference has the name of the last segment as its type, found or not. -/
theorem type_reference {v : Value} {reference : String} (h : v.schema = some (.ref reference))
    (owner path : String) (j : Journal) : (((Resolve.type v owner path).run ⟨spec, p⟩).run j).1 =
      p.typeName (refName reference) := by
  have htype : Draft.typeText p v owner = p.typeName (refName reference) := by
    rw [Draft.typeText, h]
  rw [yields_type v owner path j]
  exact htype

/-! ### Reports -/

/-- More keys leave those problems that they do not settle. -/
theorem problem?_of_subset (h : spec.definitions.keys ⊆ spec'.definitions.keys)
    (v : Value) : problem? spec' v = (problem? spec v).filter fun q => !q.settledBy spec' := by
  unfold problem?
  cases v.schema with
  | some schema =>
    cases schema with
    | inline s => rfl
    | ref reference =>
      dsimp only
      by_cases hk : refName reference ∈ spec.definitions.keys
      · simp [hk, h hk]
      · by_cases hk' : refName reference ∈ spec'.definitions.keys
        · simp [hk, hk', Option.filter_some, Problem.settledBy]
        · simp [hk, hk', Option.filter_some, Problem.settledBy]
  | none =>
    cases v.tag with
    | none => rfl
    | some tag =>
      by_cases ht : tag ∈ primitiveTags ∨ v.isDictionary
      · simp [ht]
      · simp [ht, Option.filter_some, Problem.settledBy]

theorem Visit.reports_of_subset (h : spec.definitions.keys ⊆ spec'.definitions.keys)
    (visits : List Visit) :
    Visit.reports spec' visits = remaining spec' (Visit.reports spec visits) := by
  have hreport (x : Visit) : Visit.report? spec' x =
      (Visit.report? spec x).filter fun d => !d.problem.settledBy spec' := by
    rw [Visit.report?, Visit.report?, problem?_of_subset h, Option.filter_map]
    rfl
  rw [Visit.reports, Visit.reports, remaining, List.filter_filterMap]
  exact List.filterMap_congr fun x _ => hreport x

/-- Which values a request comes to does not depend on the definitions. -/
theorem exists_visits (h : r.isSchema = false) :
    ∃ visits, ∀ spec, r.reports spec = Visit.reports spec visits := by
  cases r with
  | globalValue v => exact ⟨[.inScope "" v], fun _ => reported_reporting _⟩
  | value v scope => exact ⟨[.inScope scope v], fun _ => reported_reporting _⟩
  | parameter q scope => exact ⟨[.inScope scope q.value], fun _ => reported_reporting _⟩
  | operation o => exact ⟨Visit.ofOperation o, fun _ => reported_reporting _⟩
  | schema name s => cases h

theorem Request.reports_of_subset (h : spec.definitions.keys ⊆ spec'.definitions.keys)
    (hr : r.isSchema = false) : r.reports spec' = remaining spec' (r.reports spec) := by
  obtain ⟨visits, hv⟩ := exists_visits hr
  rw [hv, hv, Visit.reports_of_subset h]

theorem diagnostics_of_subset (h : spec.definitions.keys ⊆ spec'.definitions.keys)
    (hrs : ∀ r ∈ rs, r.isSchema = false) :
    (journalAfter ⟨spec', p⟩ rs).diagnostics =
      remaining spec' (journalAfter ⟨spec, p⟩ rs).diagnostics := by
  have hreports : rs.flatMap (·.reports spec') = remaining spec' (rs.flatMap (·.reports spec)) := by
    rw [remaining, List.filter_flatMap]
    exact List.flatMap_congr fun r hr => Request.reports_of_subset h (hrs r hr)
  rw [diagnostics_journalAfter, diagnostics_journalAfter, remaining, filter_collect, hreports]
  rfl

/-- As long as no schema is asked for, the answers are the same trees whatever the description
defines, and a reference is always typed by its last segment. Where the keys of one description are
among those of another, the latter's diagnostics are the former's without the references that are
found there; so the diagnostics are the same where the keys are. -/
theorem session_definitions (p : Profile) {rs : List Request}
    (h : ∀ r ∈ rs, r.isSchema = false) :
    (∃ ds : List Draft, ∀ spec j, (((session rs).run ⟨spec, p⟩).run j).1 = ds.map .ok) ∧
      (∀ spec j v reference owner path, v.schema = some (.ref reference) →
        (((Resolve.type v owner path).run ⟨spec, p⟩).run j).1 = p.typeName (refName reference)) ∧
      (∀ spec spec' : Spec, spec.definitions.keys ⊆ spec'.definitions.keys →
        (journalAfter ⟨spec', p⟩ rs).diagnostics =
          (journalAfter ⟨spec, p⟩ rs).diagnostics.filter fun d => !d.problem.settledBy spec') ∧
      (∀ spec spec' : Spec, (∀ k, k ∈ spec.definitions.keys ↔ k ∈ spec'.definitions.keys) →
        (journalAfter ⟨spec', p⟩ rs).diagnostics = (journalAfter ⟨spec, p⟩ rs).diagnostics) := by
  refine ⟨?_, ?_, ?_, ?_⟩
  · obtain ⟨ds, hds⟩ := exists_drafts h p
    refine ⟨ds, fun spec j => ?_⟩
    rw [yields_session rs j]
    exact hds spec
  · intro spec j v reference owner path hv
    exact type_reference hv owner path j
  · intro spec spec' hk
    exact diagnostics_of_subset hk h
  · intro spec spec' hk
    have hle := diagnostics_of_subset (p := p) (fun k => (hk k).mp) h
    have hge := diagnostics_of_subset (p := p) (fun k => (hk k).mpr) h
    refine List.Sublist.antisymm ?_ ?_
    · rw [hle]
      exact List.filter_sublist
    · rw [hge]
      exact List.filter_sublist

/-- The same animals, and cats. -/
def cattery : Spec :=
  .plain zoo.operations ⟨[("Cat", ⟨none, none, none, []⟩), dog, animal, puppy], by decide⟩ zoo.enums

theorem session_definitions_cattery :
    (∀ r ∈ zooRequests, r.isSchema = false) ∧
      zoo.definitions.keys ⊆ cattery.definitions.keys ∧
      (journalAfter ⟨zoo, .swift⟩ zooRequests).diagnostics =
        [⟨"getPets.filter", .unusableTag "object"⟩,
          ⟨"getPets.responses.200", .unknownReference "Cat"⟩, ⟨"mood", .untyped⟩] ∧
      (journalAfter ⟨cattery, .swift⟩ zooRequests).diagnostics =
        [⟨"getPets.filter", .unusableTag "object"⟩, ⟨"mood", .untyped⟩] := by
  have hrs : ∀ r ∈ zooRequests, r.isSchema = false := by
    simp [zooRequests, zoo, Spec.plain, Request.isSchema]
  have hkeys : zoo.definitions.keys ⊆ cattery.definitions.keys := by decide
  have hzoo : (journalAfter ⟨zoo, .swift⟩ zooRequests).diagnostics =
      [⟨"getPets.filter", .unusableTag "object"⟩,
        ⟨"getPets.responses.200", .unknownReference "Cat"⟩, ⟨"mood", .untyped⟩] := by
    rw [diagnostics_journalAfter]
    decide
  refine ⟨hrs, hkeys, hzoo, ?_⟩
  rw [(session_definitions .swift hrs).2.2.1 zoo cattery hkeys, hzoo]
  decide

end ApiContext
