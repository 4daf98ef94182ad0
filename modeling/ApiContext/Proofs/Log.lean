import ApiContext.Proofs.Diagnostics
import ApiContext.Proofs.Escaping

/-! The log of a run that starts from settings: which lines it holds, in which order, and where it
ends when a definition fails. Resolving a property is not logged, so definitions leave the names in
their ancestries only. -/
namespace ApiContext
open Model Resolve

/-! ### The lines of a log -/

structure Line where
  level : String
  text : String
deriving DecidableEq

def Event.line (e : Event) : Line := ⟨e.level.label, e.message⟩

def Journal.lines (j : Journal) : List Line := j.events.map Event.line

/-- An unknown profile is told of. -/
def profileLines (s : Settings) : List Line :=
  if s.profile = "default" ∨ s.profile = "swift" then []
  else [⟨"WARN", "unrecognized profile " ++ s.profile ++ ", using default"⟩]

def summaryLine (spec : Spec) (s : Settings) : Line :=
  ⟨"INFO", "compiling spec \"" ++ spec.info.title ++ "\" - " ++ ", ".intercalate [
      countText "operation" spec.operations.length,
      countText "definition" spec.definitions.entries.length,
      countText "tag" spec.tags.length,
      countText "enum" spec.enums.length,
      countText "security definition" spec.securitySchemes.length]
    ++ " (profile: " ++ (if s.profile = "swift" then "swift" else "default") ++ ")"⟩

def operationLine (o : Operation) : Line := ⟨"DEBUG", "resolving operation " ++ operationId o⟩

/-- One line for each schema, the nearest first. -/
def lineageLines (l : Lineage) : List Line :=
  (names l).map fun name => ⟨"DEBUG", "resolving schema " ++ name⟩

def diagnosticLine (d : Diagnostic) : Line := ⟨"WARN", d.text⟩

/-- The lines before those of the definitions. -/
def openingLines (spec : Spec) (s : Settings) : List Line :=
  profileLines s ++ [summaryLine spec s] ++ spec.operations.map operationLine

/-! ### What a run logs -/

/-- A compilation under the profile that settings select, from an empty journal. -/
def compileUnder (spec : Spec) (s : Settings) : Except CompileError Compilation × Journal :=
  (Profile.ofSettings s >>= compile spec).run .empty

variable {spec : Spec} {lineages : List Lineage}

/-- A schema is logged before its ancestors, and properties are not logged. -/
theorem logged_lineageNotes (l : Lineage) :
    logged (lineageNotes spec l) = (names l).map .resolvingSchema := by
  induction l with
  | nil => rfl
  | cons d ancestors ih =>
    have hlog (ns : List Note) : logged (.log (.resolvingSchema d.1) :: ns) =
        .resolvingSchema d.1 :: logged ns := rfl
    have hproperties (ps : List (String × Value)) : logged (propertyNotes spec ps) = [] :=
      logged_reporting _
    simp only [lineageNotes, hlog, logged_append, hproperties, List.append_nil, ih]
    rfl

theorem logged_operations (os : List Operation) :
    logged (os.flatMap fun o => .log (.resolvingOperation (operationId o)) ::
      reporting (Visit.reports spec (Visit.ofOperation o))) =
        os.map fun o => .resolvingOperation (operationId o) := by
  have hop (o : Operation) : logged (.log (.resolvingOperation (operationId o)) ::
      reporting (Visit.reports spec (Visit.ofOperation o))) =
        [.resolvingOperation (operationId o)] :=
    congrArg (_ :: ·) (logged_reporting _)
  simp only [logged_flatMap, hop, ← List.map_eq_flatMap]

theorem lines_lineages (lineages : List Lineage) :
    (lineages.flatMap fun l => (names l).map Event.resolvingSchema).map Event.line =
      lineages.flatMap lineageLines := by
  rw [List.map_flatMap]
  refine List.flatMap_congr fun l _ => ?_
  rw [List.map_map]
  rfl

/-- The notes on the definitions whose lineages are found before one fails, or on all of them. -/
def definitionNotes (spec : Spec) : List Note :=
  untilFailure (fun d => lineage spec d.1 d.2) (schemaNotes spec) spec.definitions.entries

theorem definitionNotes_of_ok (h : spec.lineages = .ok lineages) :
    definitionNotes spec = lineages.flatMap (lineageNotes spec) :=
  (untilFailure_of_ok h _).trans (flatMap_schemaNotes (mapM_eq_ok_iff.mp h))

theorem definitionNotes_of_error {before after : List (String × Schema)} {d : String × Schema}
    {err : CompileError} (hsplit : spec.definitions.entries = before ++ d :: after)
    (hbefore : before.mapM (fun d => lineage spec d.1 d.2) = .ok lineages)
    (hd : lineage spec d.1 d.2 = .error err) :
    definitionNotes spec = lineages.flatMap (lineageNotes spec) := by
  have hnone : schemaNotes spec d = [] := by rw [schemaNotes, hd]
  rw [definitionNotes, hsplit, untilFailure_of_error hbefore hd, hnone, List.append_nil]
  exact flatMap_schemaNotes (mapM_eq_ok_iff.mp hbefore)

/-- Besides operations and definitions nothing is logged before the diagnostics. -/
theorem exists_specNotes (spec : Spec) : ∃ ds, specNotes spec =
    (spec.operations.flatMap fun o => Note.log (.resolvingOperation (operationId o)) ::
        reporting (Visit.reports spec (Visit.ofOperation o)))
      ++ definitionNotes spec ++ reporting ds := by
  unfold specNotes
  cases spec.lineages with
  | ok _ => exact ⟨_, rfl⟩
  | error _ => exact ⟨[], rfl⟩

theorem lines_specNotes (h : definitionNotes spec = lineages.flatMap (lineageNotes spec)) :
    (logged (specNotes spec)).map Event.line =
      spec.operations.map operationLine ++ lineages.flatMap lineageLines := by
  obtain ⟨ds, hnotes⟩ := exists_specNotes spec
  have hoperations : (spec.operations.map fun o =>
      Event.resolvingOperation (operationId o)).map Event.line =
        spec.operations.map operationLine := List.map_map
  rw [hnotes, h, logged_append, logged_append, logged_reporting, List.append_nil, List.map_append,
    logged_operations, hoperations, logged_flatMap]
  simp only [logged_lineageNotes, lines_lineages]

theorem lines_warnings (ds : List Diagnostic) :
    (logged (ds.map fun d => .log (.unresolved d))).map Event.line = ds.map diagnosticLine := by
  induction ds with
  | nil => rfl
  | cons d rest ih => exact congrArg (diagnosticLine d :: ·) ih

theorem name_ofSettings (s : Settings) (j : Journal) :
    ((Profile.ofSettings s).run j).1.name = if s.profile = "swift" then "swift" else "default" := by
  rw [Profile.profile_ofSettings]

theorem lines_ofSettings (s : Settings) :
    ((Profile.ofSettings s).run .empty).2.lines = profileLines s := by
  obtain ⟨name, reserved, mark⟩ := s
  by_cases hs : name = "swift"
  · subst hs
    rfl
  · by_cases hd : name = "default"
    · subst hd
      rfl
    · rw [profileLines, if_neg (not_or.mpr ⟨hd, hs⟩)]
      unfold Profile.ofSettings
      rw [named?_eq_none hd hs]
      rfl

theorem lines_journalOf (s : Settings)
    (h : definitionNotes spec = lineages.flatMap (lineageNotes spec)) :
    (journalOf spec ((Profile.ofSettings s).run .empty).1
      ((Profile.ofSettings s).run .empty).2).lines =
        openingLines spec s ++ lineages.flatMap lineageLines := by
  have hprofile := lines_ofSettings s
  have hsummary : (summary ⟨spec, ((Profile.ofSettings s).run .empty).1⟩).line =
      summaryLine spec s := by
    rw [summaryLine, ← name_ofSettings s .empty]
    rfl
  rw [journalOf, Journal.lines, Journal.events_write, List.map_append, lines_specNotes h,
    Journal.log, List.map_append, List.map_singleton, hsummary, ← Journal.lines, hprofile,
    openingLines, List.append_assoc _ _ (lineages.flatMap lineageLines)]

/-- A run succeeds or fails, and its log is settled in both cases. First comes an unknown profile,
then the summary, then the operations in order, then the definitions in order, each followed by its
ancestors from the nearest on. If all definitions have ancestries the diagnostics follow in order;
otherwise the log ends before the first definition that has none. -/
theorem run_log (spec : Spec) (s : Settings) :
    (∃ c lineages, (compileUnder spec s).1 = .ok c ∧
        List.Forall₂ (Ancestry spec) spec.definitions.entries lineages ∧
        (compileUnder spec s).2.lines = openingLines spec s ++ lineages.flatMap lineageLines
          ++ c.diagnostics.map diagnosticLine) ∨
      ∃ err before d after lineages, (compileUnder spec s).1 = .error err ∧
        spec.definitions.entries = before ++ d :: after ∧ Failure spec d err ∧
        List.Forall₂ (Ancestry spec) before lineages ∧
        (compileUnder spec s).2.lines =
          openingLines spec s ++ lineages.flatMap lineageLines := by
  have hrun : compileUnder spec s = _ := compile_run spec ((Profile.ofSettings s).run .empty).1
    ((Profile.ofSettings s).run .empty).2
  cases hl : spec.lineages with
  | ok lineages =>
    rw [hl] at hrun
    refine .inl ⟨_, lineages, congrArg Prod.fst hrun, lineages_eq_ok_iff.mp hl, ?_⟩
    rw [hrun, ← lines_journalOf s (definitionNotes_of_ok hl), Journal.lines, Journal.events_write,
      List.map_append, lines_warnings]
    rfl
  | error err =>
    rw [hl] at hrun
    obtain ⟨before, d, after, hsplit, hbefore, hd⟩ := mapM_eq_error_iff.mp hl
    obtain ⟨lineages, hlineages⟩ := exists_mapM_eq_ok_iff.mpr hbefore
    have hancestries := (mapM_eq_ok_iff.mp hlineages).imp fun _ _ h => (lineage_eq_ok_iff.mp h).1
    refine .inr ⟨err, before, d, after, lineages, congrArg Prod.fst hrun, hsplit,
      lineage_eq_error_iff.mp hd, hancestries, ?_⟩
    rw [hrun]
    exact lines_journalOf s (definitionNotes_of_error hsplit hlineages hd)

end ApiContext
