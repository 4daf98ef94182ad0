import ApiContext.Proofs.Traversal
import ApiContext.Resolve.Basic

/-! What resolution leaves in the journal. A computation that yields a value returns it whatever the
journal holds, and only adds notes; value and notes depend on the environment alone. -/
namespace ApiContext
variable {α β : Type}

inductive Note where
  | report (d : Diagnostic)
  | log (e : Event)

def Note.diagnostic? : Note → Option Diagnostic
  | .report d => some d
  | .log _ => none

def reported (notes : List Note) : List Diagnostic := notes.filterMap Note.diagnostic?

theorem reported_append (ns ms : List Note) : reported (ns ++ ms) = reported ns ++ reported ms :=
  List.filterMap_append

theorem reported_flatMap (f : α → List Note) (l : List α) :
    reported (l.flatMap f) = l.flatMap fun a => reported (f a) := by
  induction l with
  | nil => rfl
  | cons a rest ih => rw [List.flatMap_cons, List.flatMap_cons, reported_append, ih]

def Note.event? : Note → Option Event
  | .report _ => none
  | .log e => some e

def logged (notes : List Note) : List Event := notes.filterMap Note.event?

theorem logged_append (ns ms : List Note) : logged (ns ++ ms) = logged ns ++ logged ms :=
  List.filterMap_append

theorem logged_flatMap (f : α → List Note) (l : List α) :
    logged (l.flatMap f) = l.flatMap fun a => logged (f a) := by
  induction l with
  | nil => rfl
  | cons a rest ih => rw [List.flatMap_cons, List.flatMap_cons, logged_append, ih]

/-- Items added one by one behind what is known, each unless it is known already. -/
def collect [DecidableEq α] (known : List α) : List α → List α
  | [] => known
  | a :: rest => collect (if a ∈ known then known else known ++ [a]) rest

section collect
variable [DecidableEq α]

theorem collect_append (known l m : List α) :
    collect known (l ++ m) = collect (collect known l) m := by
  induction l generalizing known with
  | nil => rfl
  | cons a rest ih => exact ih _

theorem mem_collect {a : α} {known l : List α} : a ∈ collect known l ↔ a ∈ known ∨ a ∈ l := by
  induction l generalizing known with
  | nil => simp [collect]
  | cons b rest ih =>
    rw [collect, ih]
    by_cases hb : b ∈ known
    · rw [if_pos hb, List.mem_cons]
      constructor
      · exact fun h => h.imp_right .inr
      · intro h
        obtain h | rfl | h := h
        · exact .inl h
        · exact .inl hb
        · exact .inr h
    · rw [if_neg hb]
      simp [or_assoc]

/-- Nothing is added when all is known. -/
theorem collect_of_subset {known l : List α} (h : ∀ a ∈ l, a ∈ known) :
    collect known l = known := by
  induction l with
  | nil => rfl
  | cons a rest ih =>
    rw [collect, if_pos (h a (by simp))]
    exact ih fun b hb => h b (List.mem_cons_of_mem a hb)

/-- What follows its own occurrence adds nothing. -/
theorem collect_append_of_subset {known l m : List α} (h : ∀ a ∈ m, a ∈ l) :
    collect known (l ++ m) = collect known l := by
  rw [collect_append]
  exact collect_of_subset fun a ha => mem_collect.mpr (.inr (h a ha))

theorem collect_eq_append (known l : List α) :
    collect known l = known ++ (l.removeAll known).eraseDups := by
  induction l generalizing known with
  | nil => simp [collect, List.removeAll]
  | cons a rest ih =>
    rw [collect, ih]
    by_cases ha : a ∈ known
    · simp [ha, List.removeAll]
    · have hne : ((a :: rest).removeAll known) = a :: rest.removeAll known := by
        simp [ha, List.removeAll]
      have hrest : rest.removeAll (known ++ [a]) =
          (rest.removeAll known).filter fun b => !b == a := by
        simp only [List.removeAll, List.filter_filter]
        congr 1
        funext b
        rw [Bool.and_comm, Bool.beq_eq_decide_eq]
        simp
      rw [if_neg ha, hne, List.eraseDups_cons, hrest, List.append_assoc, List.singleton_append]

/-- From nothing known, the first occurrences remain. -/
theorem collect_nil (l : List α) : collect [] l = l.eraseDups := by
  have h : l.removeAll [] = l := List.filter_eq_self.mpr (by simp)
  rw [collect_eq_append, h, List.nil_append]

theorem nodup_collect {known l : List α} (h : known.Nodup) : (collect known l).Nodup := by
  induction l generalizing known with
  | nil => exact h
  | cons a rest ih =>
    rw [collect]
    by_cases ha : a ∈ known
    · rw [if_pos ha]
      exact ih h
    · rw [if_neg ha]
      refine ih (List.nodup_append.mpr ⟨h, by simp, ?_⟩)
      intro b hb c hc hbc
      obtain rfl := List.mem_singleton.mp hc
      exact ha (hbc ▸ hb)

theorem nodup_eraseDups (l : List α) : l.eraseDups.Nodup := by
  rw [← collect_nil]
  exact nodup_collect .nil

/-- To collect and then drop is to drop and then collect. -/
theorem filter_collect (q : α → Bool) (known l : List α) :
    (collect known l).filter q = collect (known.filter q) (l.filter q) := by
  induction l generalizing known with
  | nil => rfl
  | cons a rest ih =>
    rw [collect, ih]
    cases hq : q a with
    | false =>
      rw [List.filter_cons_of_neg (by simp [hq])]
      by_cases ha : a ∈ known
      · rw [if_pos ha]
      · rw [if_neg ha, List.filter_append, List.filter_cons_of_neg (by simp [hq]), List.filter_nil,
          List.append_nil]
    | true =>
      rw [List.filter_cons_of_pos hq, collect]
      by_cases ha : a ∈ known
      · rw [if_pos ha, if_pos (List.mem_filter.mpr ⟨ha, hq⟩)]
      · have ha' : a ∉ known.filter q := fun h => ha (List.mem_filter.mp h).1
        rw [if_neg ha, if_neg ha', List.filter_append, List.filter_cons_of_pos hq, List.filter_nil]

/-- Lists that are collected alike item by item are collected alike. -/
theorem collect_flatMap_congr {f g : β → List α} {l : List β}
    (h : ∀ b ∈ l, ∀ known, collect known (f b) = collect known (g b)) (known : List α) :
    collect known (l.flatMap f) = collect known (l.flatMap g) := by
  induction l generalizing known with
  | nil => rfl
  | cons b rest ih =>
    have hrest := ih fun c hc => h c (List.mem_cons_of_mem b hc)
    rw [List.flatMap_cons, List.flatMap_cons, collect_append, collect_append, h b (by simp), hrest]

end collect

namespace Journal

def note (j : Journal) : Note → Journal
  | .report d => j.report d
  | .log e => j.log e

def write (j : Journal) (ns : List Note) : Journal := ns.foldl note j

theorem write_append (j : Journal) (ns ms : List Note) :
    j.write (ns ++ ms) = (j.write ns).write ms :=
  List.foldl_append

theorem diagnostics_write (j : Journal) (ns : List Note) :
    (j.write ns).diagnostics = collect j.diagnostics (reported ns) := by
  induction ns generalizing j with
  | nil => rfl
  | cons n rest ih =>
    cases n with
    | report d =>
      have h := ih (j.report d)
      simp only [write, List.foldl_cons, note, reported, List.filterMap_cons, Note.diagnostic?,
        collect] at h ⊢
      rw [h, report]
      split <;> rfl
    | log e => exact ih (j.log e)

theorem events_report (j : Journal) (d : Diagnostic) : (j.report d).events = j.events := by
  unfold report
  split <;> rfl

theorem events_write (j : Journal) (ns : List Note) :
    (j.write ns).events = j.events ++ logged ns := by
  induction ns generalizing j with
  | nil => exact (List.append_nil _).symm
  | cons n rest ih =>
    cases n with
    | report d =>
      refine (ih (j.report d)).trans ?_
      rw [events_report]
      rfl
    | log e => exact (ih (j.log e)).trans (List.append_assoc ..)

end Journal

namespace Resolve

/-- From any journal the computation returns the value and adds the notes. -/
def Yields (env : Environment) (m : Resolve α) (a : α) (ns : List Note) : Prop :=
  ∀ j : Journal, (m.run env).run j = (a, j.write ns)

variable {env : Environment} {m : Resolve α} {f : α → Resolve β} {a : α} {b : β}
variable {ns ms : List Note}

theorem yields_pure (a : α) : Yields env (pure a) a [] := fun _ => rfl

theorem yields_report (path : String) (problem : Problem) :
    Yields env (report path problem) () [.report ⟨path, problem⟩] := fun _ => rfl

theorem yields_log (e : Event) : Yields env (log e) () [.log e] := fun _ => rfl

/-- What follows runs from the journal with the notes. -/
theorem Yields.run_bind (hm : Yields env m a ns) (j : Journal) :
    ((m >>= f).run env).run j = ((f a).run env).run (j.write ns) := by
  have h : ((m >>= f).run env).run j =
      ((f ((m.run env).run j).1).run env).run ((m.run env).run j).2 := rfl
  rw [h, hm]

theorem Yields.bind (hm : Yields env m a ns) (hf : Yields env (f a) b ms) :
    Yields env (m >>= f) b (ns ++ ms) := by
  intro j
  rw [hm.run_bind, hf, Journal.write_append]

/-- A choice whose branches go on alike. -/
theorem Yields.bind_ite {c : Bool} {m' : Resolve α} (hm : Yields env (if c then m else m') a ns)
    (hf : Yields env (f a) b ms) :
    Yields env (if c then m >>= f else m' >>= f) b (ns ++ ms) := by
  cases c with
  | false => exact hm.bind hf
  | true => exact hm.bind hf

/-- Reading the environment writes nothing. -/
theorem Yields.of_read {f : Environment → Resolve β} (hf : Yields env (f env) b ns) :
    Yields env (read >>= f) b ns := hf

theorem Yields.map (hm : Yields env m a ns) (f : α → β) : Yields env (f <$> m) (f a) ns := by
  have h : Yields env (m >>= fun a => pure (f a)) (f a) (ns ++ []) := hm.bind (yields_pure _)
  rwa [List.append_nil, ← map_eq_pure_bind] at h

theorem yields_mapM {f : α → Resolve β} (g : α → β) (n : α → List Note) {l : List α}
    (h : ∀ a ∈ l, Yields env (f a) (g a) (n a)) :
    Yields env (l.mapM f) (l.map g) (l.flatMap n) := by
  induction l with
  | nil => exact yields_pure []
  | cons a rest ih =>
    have hrest : Yields env (rest.mapM f) (rest.map g) (rest.flatMap n) :=
      ih fun b hb => h b (List.mem_cons_of_mem a hb)
    simp only [List.mapM_cons, bind_pure_comp]
    exact (h a (by simp)).bind (hrest.map (g a :: ·))

theorem yields_mapM_option {f : α → Resolve β} (g : α → β) (n : α → List Note) {o : Option α}
    (h : ∀ a ∈ o, Yields env (f a) (g a) (n a)) :
    Yields env (o.mapM f) (o.map g) (o.toList.flatMap n) := by
  cases o with
  | none => exact yields_pure none
  | some a =>
    have hmap : Yields env (some <$> f a) (some (g a)) (n a) := (h a rfl).map some
    simpa using hmap

/-! ### Computations that may fail -/

section Failing
variable {x : ExceptT CompileError Resolve α} {k : α → ExceptT CompileError Resolve β}
variable {r : Except CompileError β} {e : CompileError}

theorem Yields.lift (hm : Yields env m a ns) :
    Yields env (liftM m : ExceptT CompileError Resolve α).run (.ok a) ns := hm.map Except.ok

theorem Yields.bind_ok (hx : Yields env x.run (.ok a) ns) (hk : Yields env (k a).run r ms) :
    Yields env (x >>= k).run r (ns ++ ms) := by
  rw [ExceptT.run_bind]
  exact hx.bind hk

theorem Yields.run_bind_ok (hx : Yields env x.run (.ok a) ns) (j : Journal) :
    ((x >>= k).run.run env).run j = ((k a).run.run env).run (j.write ns) := by
  rw [ExceptT.run_bind]
  exact hx.run_bind j

theorem Yields.bind_error (hx : Yields env x.run (.error e) ns) :
    Yields env (x >>= k).run (.error e) ns := by
  rw [ExceptT.run_bind, ← List.append_nil ns]
  exact hx.bind (yields_pure _)

/-- The notes on a list whose items are gone through until one fails. -/
def untilFailure (g : α → Except CompileError β) (n : α → List Note) : List α → List Note
  | [] => []
  | a :: rest =>
    n a ++ match g a with
      | .ok _ => untilFailure g n rest
      | .error _ => []

theorem untilFailure_map {γ : Type} (g : α → Except CompileError β) (h : β → γ)
    (n : α → List Note) (l : List α) :
    untilFailure (fun a => (g a).map h) n l = untilFailure g n l := by
  induction l with
  | nil => rfl
  | cons a rest ih =>
    rw [untilFailure, untilFailure, ih]
    cases g a <;> rfl

theorem untilFailure_of_ok {g : α → Except CompileError β} {l : List α} {bs : List β}
    (h : l.mapM g = .ok bs) (n : α → List Note) : untilFailure g n l = l.flatMap n := by
  induction l generalizing bs with
  | nil => rfl
  | cons a rest ih =>
    cases mapM_eq_ok_iff.mp h with
    | cons ha hrest =>
      rw [untilFailure, ha, List.flatMap_cons]
      exact congrArg (n a ++ ·) (ih (mapM_eq_ok_iff.mpr hrest))

/-- What fails ends the notes with its own. -/
theorem untilFailure_of_error {g : α → Except CompileError β} {before after : List α} {a : α}
    {bs : List β} (h : before.mapM g = .ok bs) (ha : g a = .error e) (n : α → List Note) :
    untilFailure g n (before ++ a :: after) = before.flatMap n ++ n a := by
  induction before generalizing bs with
  | nil =>
    rw [List.nil_append, untilFailure, ha]
    exact List.append_nil _
  | cons b rest ih =>
    cases mapM_eq_ok_iff.mp h with
    | cons hb hrest =>
      rw [List.cons_append, untilFailure, hb, List.flatMap_cons, List.append_assoc]
      exact congrArg (n b ++ ·) (ih (mapM_eq_ok_iff.mpr hrest))

theorem yields_mapM_except {f : α → ExceptT CompileError Resolve β} (g : α → Except CompileError β)
    (n : α → List Note) {l : List α} (h : ∀ a ∈ l, Yields env (f a).run (g a) (n a)) :
    Yields env (l.mapM f).run (l.mapM g) (untilFailure g n l) := by
  induction l with
  | nil => exact yields_pure _
  | cons a rest ih =>
    have ha : Yields env (f a).run (g a) (n a) := h a (by simp)
    have hrest : Yields env (rest.mapM f).run (rest.mapM g) (untilFailure g n rest) :=
      ih fun b hb => h b (List.mem_cons_of_mem a hb)
    rw [List.mapM_cons, List.mapM_cons, untilFailure]
    cases hg : g a with
    | error e =>
      rw [hg] at ha
      rw [List.append_nil]
      exact ha.bind_error
    | ok b =>
      rw [hg] at ha
      refine ha.bind_ok ?_
      cases hr : rest.mapM g with
      | error e =>
        rw [hr] at hrest
        exact hrest.bind_error
      | ok bs =>
        rw [hr] at hrest
        have h := hrest.bind_ok (k := fun bs => pure (b :: bs)) (yields_pure _)
        rwa [List.append_nil] at h

end Failing

end Resolve
end ApiContext
