import Mathlib.Data.List.Perm.Basic
import ApiContext.Proofs.Diagnostics

/-! Requests to one compiler, any number of them in any order. What a request is answered, and what
it reports, depends on the environment alone; the journal decides only which reports are new. -/
namespace ApiContext
open Model Resolve

/-- One thing to be resolved. A global value is in no scope; a schema need not be a definition. -/
inductive Request where
  | globalValue (v : Value)
  | value (v : Value) (scope : String)
  | parameter (q : Parameter) (scope : String)
  | operation (o : Operation)
  | schema (name : String) (s : Schema)

namespace Request

def resolve : Request → ExceptT CompileError Resolve Draft
  | globalValue v => liftM (Resolve.value v "")
  | value v scope => liftM (Resolve.value v scope)
  | parameter q scope => liftM (Resolve.parameter q scope)
  | operation o => liftM (Resolve.operation o)
  | schema name s => Resolve.schema name s

/-- The answer to a request, and the journal after it. -/
def ask (env : Environment) (r : Request) (j : Journal) : Except CompileError Draft × Journal :=
  (r.resolve.run.run env).run j

/-- The answer of a compiler that is asked nothing else. -/
def fresh (env : Environment) (r : Request) : Except CompileError Draft := (r.ask env .empty).1

/-- A tree that a fresh compiler answers, once pruned. -/
def Answer (env : Environment) (r : Request) (t : Context) : Prop :=
  ∃ d, r.fresh env = .ok d ∧ d.prune = some t

end Request

/-- Under a key of a tree stands a sequence with a tree for each request, in order. -/
def AnswersUnder (env : Environment) (t : Context) (key : String) (rs : List Request) : Prop :=
  ∃ ts, t.get? key = some (.sequence ts) ∧ List.Forall₂ (Request.Answer env) rs ts

/-- Requests one after the other to the same compiler. A failure does not end a session. -/
def session (rs : List Request) : Resolve (List (Except CompileError Draft)) :=
  rs.mapM fun r => r.resolve.run

/-- The journal of a compiler that was asked these requests. -/
def journalAfter (env : Environment) (rs : List Request) : Journal :=
  (((session rs).run env).run .empty).2

variable {env : Environment} {r : Request} {rs : List Request}

/-! ### One request -/

section schema
variable {d : String × Schema}

theorem schemaDraft_eq_ok_iff {t : Draft} : schemaDraft env d = .ok t ↔
    ∃ l, lineage env.spec d.1 d.2 = .ok l ∧ Draft.ofLineage env.profile l = t := by
  rw [schemaDraft]
  cases lineage env.spec d.1 d.2 with
  | error e => simp [Except.map]
  | ok l => simp [Except.map]

theorem schemaDraft_eq_error_iff {e : CompileError} :
    schemaDraft env d = .error e ↔ lineage env.spec d.1 d.2 = .error e := by
  rw [schemaDraft]
  cases lineage env.spec d.1 d.2 with
  | error e => simp [Except.map]
  | ok l => simp [Except.map]

end schema

namespace Request

/-- The answer as a function of the environment. -/
def draft (env : Environment) : Request → Except CompileError Draft
  | globalValue v => .ok (Draft.ofValue env.profile v)
  | value v _ => .ok (Draft.ofValue env.profile v)
  | parameter q _ => .ok (Draft.ofParameter env.profile q)
  | operation o => .ok (Draft.ofOperation env.profile o)
  | schema name s => schemaDraft env (name, s)

def notes (spec : Spec) : Request → List Note
  | globalValue v => reporting (Visit.reports spec [.inScope "" v])
  | value v scope => reporting (Visit.reports spec [.inScope scope v])
  | parameter q scope => reporting (Visit.reports spec [.inScope scope q.value])
  | operation o => .log (.resolvingOperation (operationId o)) ::
      reporting (Visit.reports spec (Visit.ofOperation o))
  | schema name s => schemaNotes spec (name, s)

/-- The reports that a request makes, whether or not they are known. -/
def reports (spec : Spec) (r : Request) : List Diagnostic := reported (r.notes spec)

theorem yields_resolve (r : Request) :
    Yields env r.resolve.run (r.draft env) (r.notes env.spec) := by
  cases r with
  | globalValue v => exact (yields_value v "").lift
  | value v scope => exact (yields_value v scope).lift
  | parameter q scope => exact (yields_parameter q scope).lift
  | operation o => exact (yields_operation o).lift
  | schema name s => exact yields_schema (name, s)

theorem ask_eq (r : Request) (j : Journal) :
    r.ask env j = (r.draft env, j.write (r.notes env.spec)) :=
  r.yields_resolve j

theorem fresh_eq (r : Request) : r.fresh env = r.draft env :=
  congrArg Prod.fst (r.ask_eq .empty)

/-- The diagnostics after a request are those before and the new ones among its reports. -/
theorem diagnostics_ask (r : Request) (j : Journal) :
    (r.ask env j).2.diagnostics = collect j.diagnostics (r.reports env.spec) := by
  rw [ask_eq]
  exact Journal.diagnostics_write j _

/-- Whatever fails does so before anything is resolved. -/
theorem notes_of_error {e : CompileError} (h : r.draft env = .error e) : r.notes env.spec = [] := by
  cases r with
  | schema name s => rw [notes, schemaNotes, schemaDraft_eq_error_iff.mp h]
  | _ => cases h

/-- No answer is absent. -/
theorem exists_prune {d : Draft} (h : r.draft env = .ok d) : ∃ t, d.prune = some t := by
  cases r with
  | schema name s =>
    obtain ⟨l, hl, rfl⟩ := schemaDraft_eq_ok_iff.mp h
    obtain ⟨⟨last, ha, _⟩, _⟩ := lineage_eq_ok_iff.mp hl
    obtain ⟨rest, rfl⟩ := ha.exists_cons
    exact ⟨_, rfl⟩
  | _ =>
    obtain rfl := Except.ok.inj h
    exact ⟨_, rfl⟩

end Request

/-! ### A session -/

theorem yields_session (rs : List Request) :
    Yields env (session rs) (rs.map (·.draft env)) (rs.flatMap (·.notes env.spec)) :=
  yields_mapM _ _ fun r _ => r.yields_resolve

theorem diagnostics_journalAfter (rs : List Request) :
    (journalAfter env rs).diagnostics = collect [] (rs.flatMap (·.reports env.spec)) := by
  have h : journalAfter env rs = Journal.empty.write (rs.flatMap (·.notes env.spec)) :=
    congrArg Prod.snd (yields_session rs .empty)
  rw [h, Journal.diagnostics_write, reported_flatMap]
  rfl

theorem mem_journalAfter {d : Diagnostic} :
    d ∈ (journalAfter env rs).diagnostics ↔ ∃ r ∈ rs, d ∈ r.reports env.spec := by
  rw [diagnostics_journalAfter, mem_collect]
  simp

theorem nodup_journalAfter (rs : List Request) : (journalAfter env rs).diagnostics.Nodup := by
  rw [diagnostics_journalAfter]
  exact nodup_collect .nil

/-! ### The same answers in a context -/

/-- Requests with the drafts that answer them. -/
def Drafted (env : Environment) : List Request → List Draft → Prop :=
  List.Forall₂ fun r d => r.draft env = .ok d

/-- Answers are pruned one by one. -/
theorem forall₂_answer {ds : List Draft} (h : Drafted env rs ds) :
    List.Forall₂ (Request.Answer env) rs (Draft.pruneElems ds) := by
  induction h with
  | nil => exact .nil
  | @cons r d rs ds hd _ ih =>
    obtain ⟨t, ht⟩ := Request.exists_prune hd
    rw [Draft.pruneElems, ht]
    exact .cons ⟨d, r.fresh_eq.trans hd, ht⟩ ih

theorem answersUnder_of_lookup {entries : Entries Draft} {key : String} {ds : List Draft}
    (hn : (Entries.keys entries).Nodup) (hkey : entries.lookup key = some (.sequence ds))
    (h : Drafted env rs ds) : AnswersUnder env (.mapping (Draft.pruneEntries entries)) key rs := by
  have hget := Draft.lookup_pruneEntries hn key
  rw [hkey] at hget
  exact ⟨_, hget, forall₂_answer h⟩

theorem drafted_map {α : Type} {f : α → Request} {g : α → Draft}
    (h : ∀ a, (f a).draft env = .ok (g a)) (l : List α) : Drafted env (l.map f) (l.map g) := by
  rw [Drafted, List.forall₂_map_left_iff, List.forall₂_map_right_iff]
  exact List.forall₂_same.mpr fun a _ => h a

theorem drafted_definitions {lineages : List Lineage}
    (h : List.Forall₂ (Ancestry env.spec) env.spec.definitions.entries lineages) :
    Drafted env (env.spec.definitions.entries.map fun d => .schema d.1 d.2)
      (lineages.map (Draft.ofLineage env.profile)) := by
  rw [Drafted, List.forall₂_map_left_iff, List.forall₂_map_right_iff]
  refine (mapM_eq_ok_iff.mp (lineages_eq_ok_iff.mpr h)).imp fun d l hd => ?_
  exact schemaDraft_eq_ok_iff.mpr ⟨l, hd, rfl⟩

/-! ### Main results -/

/-- Whatever was asked before, and whether it failed, each request of a session is answered as by a
fresh compiler; and so are the operations, definitions and enums of a compilation. -/
theorem session_answers (env : Environment) (rs : List Request) (j : Journal) :
    (((session rs).run env).run j).1 = rs.map (·.fresh env) ∧
      ∀ c, ((compile env.spec env.profile).run j).1 = .ok c →
        AnswersUnder env c.context "operations" (env.spec.operations.map .operation) ∧
        AnswersUnder env c.context "definitions"
          (env.spec.definitions.entries.map fun d => .schema d.1 d.2) ∧
        AnswersUnder env c.context "enums" (env.spec.enums.map .globalValue) := by
  constructor
  · rw [yields_session rs j]
    exact List.map_congr_left fun r _ => r.fresh_eq.symm
  · intro c hc
    obtain ⟨lineages, hl, rfl⟩ := compile_eq_ok_iff.mp hc
    have hn := Draft.nodup_keys_specFields env.profile env.spec lineages
    refine ⟨answersUnder_of_lookup hn rfl ?_, answersUnder_of_lookup hn rfl ?_,
      answersUnder_of_lookup hn rfl ?_⟩
    · exact drafted_map (fun o => rfl) _
    · exact drafted_definitions hl
    · exact drafted_map (fun v => rfl) _

/-- A schema whose parent is not defined in the zoo. -/
def kitten : Schema := ⟨none, none, some "Cat", [.plain "name" none]⟩

def zooRequests : List Request := zoo.operations.map .operation ++ zoo.enums.map .globalValue

theorem fresh_kitten : (Request.schema "Kitten" kitten).fresh ⟨zoo, .plain⟩ =
    .error (.unknownParent "Kitten" "Cat") := by
  have hfail : Failure zoo ("Kitten", kitten) (.unknownParent "Kitten" "Cat") :=
    .unknown (.here _) (by simp [names]) rfl rfl
  rw [Request.fresh_eq]
  exact schemaDraft_eq_error_iff.mpr (lineage_eq_error_iff.mpr hfail)

theorem session_answers_zoo :
    (((session (.schema "Kitten" kitten :: zooRequests)).run ⟨zoo, .plain⟩).run .empty).1 =
        .error (.unknownParent "Kitten" "Cat") :: zooRequests.map (·.fresh ⟨zoo, .plain⟩) ∧
      ∃ c, ((compile zoo .plain).run .empty).1 = .ok c ∧
        AnswersUnder ⟨zoo, .plain⟩ c.context "operations" (zoo.operations.map .operation) := by
  obtain ⟨hsession, hcompile⟩ := session_answers ⟨zoo, .plain⟩
    (.schema "Kitten" kitten :: zooRequests) .empty
  obtain ⟨c, hc⟩ := exists_compile_zoo
  rw [List.map_cons, fresh_kitten] at hsession
  exact ⟨hsession, c, hc, (hcompile c hc).1⟩

/-- In every state that a session reaches no diagnostic stands twice. A request adds behind what is
there, changes nothing when it fails, and adds nothing when it was made before. The order of the
requests decides the order of the diagnostics only. -/
theorem session_diagnostics (env : Environment) (rs : List Request) :
    (journalAfter env rs).diagnostics.Nodup ∧
      (∀ r : Request, (journalAfter env rs).diagnostics <+:
        (r.ask env (journalAfter env rs)).2.diagnostics) ∧
      (∀ (r : Request) (e : CompileError), (r.ask env (journalAfter env rs)).1 = .error e →
        (r.ask env (journalAfter env rs)).2 = journalAfter env rs) ∧
      (∀ r ∈ rs, (r.ask env (journalAfter env rs)).2.diagnostics =
        (journalAfter env rs).diagnostics) ∧
      (∀ rs', rs.Perm rs' →
        (journalAfter env rs).diagnostics.Perm (journalAfter env rs').diagnostics) := by
  refine ⟨nodup_journalAfter rs, ?_, ?_, ?_, ?_⟩
  · intro r
    rw [Request.diagnostics_ask, collect_eq_append]
    exact List.prefix_append _ _
  · intro r e h
    rw [Request.ask_eq] at h
    rw [Request.ask_eq, Request.notes_of_error h]
    rfl
  · intro r hr
    rw [Request.diagnostics_ask]
    exact collect_of_subset fun d hd => mem_journalAfter.mpr ⟨r, hr, hd⟩
  · intro rs' hp
    refine (List.perm_ext_iff_of_nodup (nodup_journalAfter rs) (nodup_journalAfter rs')).mpr ?_
    intro d
    rw [mem_journalAfter, mem_journalAfter]
    exact exists_congr fun r => and_congr_left' hp.mem_iff

theorem session_diagnostics_zoo :
    (Request.schema "Kitten" kitten).ask ⟨zoo, .plain⟩ (journalAfter ⟨zoo, .plain⟩ zooRequests) =
        (.error (.unknownParent "Kitten" "Cat"), journalAfter ⟨zoo, .plain⟩ zooRequests) ∧
      (journalAfter ⟨zoo, .plain⟩ zooRequests).diagnostics.Perm
        (journalAfter ⟨zoo, .plain⟩ zooRequests.reverse).diagnostics := by
  obtain ⟨_, _, herror, _, hperm⟩ := session_diagnostics ⟨zoo, .plain⟩ zooRequests
  have hanswer : ((Request.schema "Kitten" kitten).ask ⟨zoo, .plain⟩
      (journalAfter ⟨zoo, .plain⟩ zooRequests)).1 = .error (.unknownParent "Kitten" "Cat") := by
    rw [Request.ask_eq, ← Request.fresh_eq, fresh_kitten]
  exact ⟨Prod.ext hanswer (herror _ _ hanswer), hperm _ zooRequests.reverse_perm.symm⟩

end ApiContext
