import ApiContext.Proofs.Resolution

/-! The run of a compilation in closed form: the lineages of all definitions decide whether there is
a context, and which. -/
namespace ApiContext
open Model Resolve

/-- The lineages of all definitions in order, or the first failure to find one. -/
def Model.Spec.lineages (spec : Spec) : Except CompileError (List Lineage) :=
  spec.definitions.entries.mapM fun d => lineage spec d.1 d.2

/-- Operations, definitions up to the first that fails, then enums. -/
def specNotes (spec : Spec) : List Note :=
  (spec.operations.flatMap fun o => Note.log (.resolvingOperation (operationId o)) ::
      reporting (Visit.reports spec (Visit.ofOperation o)))
    ++ untilFailure (fun d => lineage spec d.1 d.2) (schemaNotes spec) spec.definitions.entries
    ++ match spec.lineages with
      | .ok _ => reporting (Visit.reports spec (spec.enums.map (Visit.inScope "")))
      | .error _ => []

namespace Resolve
variable {env : Environment}

theorem yields_operations (os : List Operation) :
    Yields env (os.mapM fun o => return (o, ← operation o))
      (os.map fun o => (o, Draft.ofOperation env.profile o))
      (os.flatMap fun o => Note.log (.resolvingOperation (operationId o)) ::
        reporting (Visit.reports env.spec (Visit.ofOperation o))) := by
  refine yields_mapM _ _ fun o _ => ?_
  have h : Yields env _ _ _ := (yields_operation o).map fun d => (o, d)
  rwa [map_eq_pure_bind] at h

theorem yields_enums (vs : List Value) :
    Yields env (vs.mapM (value · "")) (vs.map (Draft.ofValue env.profile))
      (reporting (Visit.reports env.spec (vs.map (Visit.inScope "")))) := by
  rw [Visit.reports_map, reporting_flatMap]
  exact yields_mapM _ _ fun v _ => yields_value v ""

theorem yields_definitions :
    Yields env (env.spec.definitions.entries.mapM fun (name, s) => schema name s).run
      (env.spec.lineages.map (List.map (Draft.ofLineage env.profile)))
      (untilFailure (fun d => lineage env.spec d.1 d.2) (schemaNotes env.spec)
        env.spec.definitions.entries) := by
  have h : Yields env _ _ _ := yields_mapM_except (l := env.spec.definitions.entries) _ _
    fun d _ => yields_schema d
  have hnotes := untilFailure_map (fun d : String × Schema => lineage env.spec d.1 d.2)
    (Draft.ofLineage env.profile) (schemaNotes env.spec) env.spec.definitions.entries
  have hdrafts := mapM_map (fun d : String × Schema => lineage env.spec d.1 d.2)
    (Draft.ofLineage env.profile) env.spec.definitions.entries
  unfold schemaDraft at h
  rwa [hnotes, hdrafts] at h

theorem yields_specEntries :
    Yields env specEntries.run (env.spec.lineages.map (Draft.specFields env.profile env.spec))
      (specNotes env.spec) := by
  have hread : Yields env (read : ExceptT CompileError Resolve Environment).run (.ok env) [] :=
    fun _ => rfl
  have hdefs : Yields env _ _ _ := yields_definitions
  unfold specEntries specNotes
  rw [List.append_assoc]
  refine (hread.bind_ok ?_ : Yields env _ _ ([] ++ _))
  refine (yields_operations _).lift.bind_ok ?_
  cases hl : env.spec.lineages with
  | error e =>
    rw [hl] at hdefs
    rw [List.append_nil]
    exact hdefs.bind_error
  | ok lineages =>
    rw [hl] at hdefs
    refine hdefs.bind_ok ?_
    rw [← List.append_nil (reporting _)]
    refine (yields_enums _).lift.bind_ok ?_
    rw [List.map_map]
    exact yields_pure _

theorem yields_warnings (ds : List Diagnostic) :
    Yields env (ds.forM fun d => liftM (log (.unresolved d)) : ExceptT CompileError Resolve _).run
      (.ok ()) (ds.map fun d => .log (.unresolved d)) := by
  induction ds with
  | nil => exact yields_pure _
  | cons d rest ih => exact (yields_log (.unresolved d)).lift.bind_ok ih

/-- The journal of a compilation before its diagnostics are logged. -/
def journalOf (spec : Spec) (profile : Profile) (j : Journal) : Journal :=
  (j.log (summary ⟨spec, profile⟩)).write (specNotes spec)

/-- The rest of a compilation once the entries of its context are known. -/
theorem run_conclusion (entries : Entries Draft) (j : Journal) :
    (((do
        let diagnostics := (← get).diagnostics
        diagnostics.forM fun d => log (.unresolved d)
        return ⟨.mapping (Draft.pruneEntries entries), diagnostics⟩ :
          ExceptT CompileError Resolve Compilation).run.run env).run j) =
      (.ok ⟨.mapping (Draft.pruneEntries entries), j.diagnostics⟩,
        j.write (j.diagnostics.map fun d => .log (.unresolved d))) := by
  have hw : Yields env _ _ _ := yields_warnings j.diagnostics
  have h := (hw.bind_ok
    (k := fun _ => pure (⟨.mapping (Draft.pruneEntries entries), j.diagnostics⟩ : Compilation))
    (yields_pure _)) j
  rw [List.append_nil] at h
  exact h

end Resolve

/-- A compilation fails as the lineages do; otherwise its context is pruned from the drafts, and its
diagnostics are those of the journal, which are logged. -/
theorem compile_run (spec : Spec) (profile : Profile) (j : Journal) :
    (compile spec profile).run j = match spec.lineages with
      | .error e => (.error e, journalOf spec profile j)
      | .ok lineages =>
        (.ok ⟨.mapping (Draft.pruneEntries (Draft.specFields profile spec lineages)),
            (journalOf spec profile j).diagnostics⟩,
          (journalOf spec profile j).write
            ((journalOf spec profile j).diagnostics.map fun d => .log (.unresolved d))) := by
  have hread : Yields ⟨spec, profile⟩ (read : ExceptT CompileError Resolve Environment).run
      (.ok ⟨spec, profile⟩) [] := fun _ => rfl
  have hlog : Yields ⟨spec, profile⟩ _ _ _ := (yields_log (summary ⟨spec, profile⟩)).lift
  have hentries : Yields ⟨spec, profile⟩ _ _ _ := yields_specEntries
  refine (hread.run_bind_ok j).trans ?_
  refine (hlog.run_bind_ok _).trans ?_
  cases hl : spec.lineages with
  | error e =>
    rw [hl] at hentries
    exact hentries.bind_error _
  | ok lineages =>
    rw [hl] at hentries
    refine (hentries.run_bind_ok _).trans ?_
    exact run_conclusion _ _

/-- What a compilation returns, without its journal. -/
theorem compile_result (spec : Spec) (profile : Profile) (j : Journal) :
    ((compile spec profile).run j).1 = spec.lineages.map fun lineages =>
      ⟨.mapping (Draft.pruneEntries (Draft.specFields profile spec lineages)),
        (journalOf spec profile j).diagnostics⟩ := by
  rw [compile_run]
  cases spec.lineages <;> rfl

end ApiContext
