import ApiContext.Naming.Route
import ApiContext.Proofs.CaseTables
import ApiContext.Proofs.Slices

/-! Camel case and separators. Text is cut into runs wherever a character is not alphanumeric, so
joining the runs by underscores changes no word, and camel case takes the pieces between separators
one by one. -/
namespace ApiContext.Text
variable {p : Char → Bool} {c d e : Char} {w a b text : List Char}

/-! ### Runs -/

theorem runsFrom_append (hc : p c = false) :
    runsFrom p w (a ++ c :: b) = runsFrom p w a ++ runs p b := by
  induction a generalizing w with
  | nil => simp [runsFrom, runs, hc]
  | cons d a ih =>
    by_cases hd : p d
    · simpa [runsFrom, hd] using ih
    · simp [runsFrom, hd, ih]

/-- No run goes on across a character that is in none. -/
theorem runs_append (hc : p c = false) : runs p (a ++ c :: b) = runs p a ++ runs p b :=
  runsFrom_append hc

theorem runsFrom_eq_nil_iff : runsFrom p w text = [] ↔ w = [] ∧ text.any p = false := by
  induction text generalizing w with
  | nil => simp [runsFrom, flush]
  | cons d text ih =>
    by_cases hd : p d
    · simp [runsFrom, hd, ih]
    · simp [runsFrom, hd, ih, flush]

theorem runs_eq_nil_iff : runs p text = [] ↔ text.any p = false := by
  simp [runs, runsFrom_eq_nil_iff]

theorem runsFrom_of_forall (h : ∀ c ∈ text, p c) : runsFrom p w text = flush (w ++ text) := by
  induction text generalizing w with
  | nil => rw [runsFrom, List.append_nil]
  | cons c text ih =>
    obtain ⟨hc, htext⟩ := List.forall_mem_cons.mp h
    rw [runsFrom, if_pos hc, ih htext, List.append_assoc, List.singleton_append]

/-- What is joined by a character that it does not contain is cut apart again. -/
theorem runs_intercalate {ws : List (List Char)} (hc : p c = false)
    (h : ∀ w ∈ ws, w ≠ [] ∧ ∀ d ∈ w, p d) : runs p ([c].intercalate ws) = ws := by
  induction ws with
  | nil => rfl
  | cons w rest ih =>
    obtain ⟨⟨hne, hall⟩, hrest⟩ := List.forall_mem_cons.mp h
    have hw : runs p w = [w] := by
      rw [runs, runsFrom_of_forall hall, List.nil_append, flush, if_neg (by simpa using hne)]
    cases rest with
    | nil => rwa [List.intercalate_singleton]
    | cons v rest =>
      rw [List.intercalate_cons_of_ne_nil (List.cons_ne_nil v rest), List.append_assoc,
        List.singleton_append, runs_append hc, hw, ih hrest, List.singleton_append]

theorem intercalate_flush (w : List Char) : [c].intercalate (flush w) = w := by
  cases w with
  | nil => rfl
  | cons d w => exact List.intercalate_singleton

theorem intercalate_runsFrom {rest : List Char} (hw : w ≠ []) (hrest : rest ≠ []) :
    [c].intercalate (flush w ++ runsFrom p rest text) =
      w ++ c :: [c].intercalate (runsFrom p rest text) := by
  have hflush : flush w = [w] := if_neg (by simpa using hw)
  have hne : runsFrom p rest text ≠ [] := fun h => hrest (runsFrom_eq_nil_iff.mp h).1
  rw [hflush, List.singleton_append, List.intercalate_cons_of_ne_nil hne, List.append_assoc,
    List.singleton_append]

/-! ### Words -/

theorem words_append (hc : isAlphanumeric c = false) :
    words (a ++ c :: b) = words a ++ words b := by
  rw [words, runs_append hc, List.flatMap_append]
  rfl

theorem words_of_not_any (h : text.any isAlphanumeric = false) : words text = [] := by
  rw [words, runs_eq_nil_iff.mpr h]
  rfl

/-! ### Camel case -/

/-- A character of the text in another case; a capital sigma may become a final one. -/
def Recased (text : List Char) (e : Char) : Prop :=
  e = 'ς' ∨ ∃ c ∈ text, isAlphanumeric c ∧ (e ∈ upper c ∨ e ∈ lower c)

theorem recased_lowerWord (hw : ∀ c ∈ w, c ∈ text ∧ isAlphanumeric c) (he : e ∈ lowerWord w) :
    Recased text e := by
  fun_induction lowerWord w with
  | case1 => cases he
  | case2 => exact .inl (List.mem_singleton.mp he)
  | case3 c _ =>
    obtain ⟨hmem, hc⟩ := hw c (by simp)
    exact .inr ⟨c, hmem, hc, .inr he⟩
  | case4 c d r ih =>
    obtain ⟨⟨hmem, hc⟩, hrest⟩ := List.forall_mem_cons.mp hw
    obtain he | he := List.mem_append.mp he
    · exact .inr ⟨c, hmem, hc, .inr he⟩
    · exact ih hrest he

theorem recased_capitalize (hw : ∀ c ∈ w, c ∈ text ∧ isAlphanumeric c) (he : e ∈ capitalize w) :
    Recased text e := by
  cases w with
  | nil => cases he
  | cons c r =>
    obtain ⟨⟨hmem, hc⟩, hrest⟩ := List.forall_mem_cons.mp hw
    obtain he | he := List.mem_append.mp he
    · exact .inr ⟨c, hmem, hc, .inl he⟩
    · exact recased_lowerWord hrest he

theorem recased_upperCamel (he : e ∈ upperCamel text) : Recased text e := by
  obtain ⟨word, hword, he⟩ := List.mem_flatMap.mp he
  exact recased_capitalize (fun c => mem_of_mem_words hword) he

theorem recased_lowerCamel (he : e ∈ lowerCamel text) : Recased text e := by
  have hwords : ∀ word ∈ words text, ∀ c ∈ word, c ∈ text ∧ isAlphanumeric c :=
    fun word hword c => mem_of_mem_words hword
  rw [lowerCamel] at he
  split at he
  · cases he
  · next word rest heq =>
    rw [heq] at hwords
    obtain ⟨hword, hrest⟩ := List.forall_mem_cons.mp hwords
    obtain he | he := List.mem_append.mp he
    · exact recased_lowerWord hword he
    · obtain ⟨word', hword', he⟩ := List.mem_flatMap.mp he
      exact recased_capitalize (hrest word' hword') he

theorem Recased.continues (h : Recased text e) : isMark e ∨ isAlphanumeric e := by
  obtain rfl | ⟨c, _, hc, he | he⟩ := h
  · exact .inr (by decide +kernel)
  · exact (spells_upper hc).continues he
  · exact (spells_lower hc).continues he

theorem clean_of_mem_upperCamel (h : d ∈ upperCamel text) : Clean d :=
  clean_of_continues (recased_upperCamel h).continues

/-- Camel case takes the pieces on both sides of a separator one by one. -/
theorem upperCamel_append (hc : isAlphanumeric c = false) :
    upperCamel (a ++ c :: b) = upperCamel a ++ upperCamel b := by
  rw [upperCamel, words_append hc, List.flatMap_append]
  rfl

theorem upperCamel_of_not_any (h : text.any isAlphanumeric = false) : upperCamel text = [] := by
  rw [upperCamel, words_of_not_any h]
  rfl

end ApiContext.Text

namespace ApiContext.Naming
open Text
variable {started gap : Bool} {w text raw raw' : List Char}

/-! ### One pass over a text -/

/-- Behind the run that is being read the pass writes the rest of it and the runs to come; after a
gap that run is complete. -/
theorem append_joinRuns (hw : started = false ↔ w = []) : w ++ joinRuns started gap text =
    ['_'].intercalate (if gap then flush w ++ runs isAlphanumeric text
      else runsFrom isAlphanumeric w text) := by
  induction text generalizing started gap w with
  | nil =>
    have hnone : runs isAlphanumeric [] = [] := rfl
    have hlast : runsFrom isAlphanumeric w [] = flush w := rfl
    cases gap <;> simp [joinRuns, hnone, hlast, intercalate_flush]
  | cons c text ih =>
    by_cases hc : isAlphanumeric c
    · have hrest (v : List Char) : v ++ [c] ++ joinRuns true false text =
          ['_'].intercalate (runsFrom isAlphanumeric (v ++ [c]) text) := by
        have hv : true = false ↔ v ++ [c] = [] := by simp
        exact (ih hv).trans (congrArg _ (if_neg Bool.false_ne_true))
      have hone := hrest []
      cases gap with
      | false => simpa [joinRuns, runsFrom, hc] using hrest w
      | true =>
        cases started with
        | false => simpa [hw.mp rfl, joinRuns, runs, runsFrom, flush, hc] using hone
        | true =>
          have hwrite : w ≠ [] := fun h => Bool.false_ne_true (hw.mpr h).symm
          have hjoin : ['_'].intercalate (flush w ++ runsFrom isAlphanumeric [c] text) =
              w ++ '_' :: ['_'].intercalate (runsFrom isAlphanumeric [c] text) :=
            intercalate_runsFrom hwrite (List.cons_ne_nil c [])
          simp only [List.nil_append] at hone
          rw [joinRuns, if_pos hc, if_pos rfl, runs, runsFrom, if_pos hc, List.nil_append, hjoin,
            ← hone]
          rfl
    · have hrest : w ++ joinRuns started true text =
          ['_'].intercalate (flush w ++ runs isAlphanumeric text) :=
        (ih hw).trans (congrArg _ (if_pos rfl))
      cases gap <;> simpa [joinRuns, runs, runsFrom, flush, hc] using hrest

/-- The pass joins the runs. -/
theorem joinRuns_eq (text : List Char) :
    joinRuns false false text = ['_'].intercalate (runs isAlphanumeric text) := by
  have hnone : false = false ↔ ([] : List Char) = [] := iff_of_true rfl rfl
  exact append_joinRuns hnone

/-- Joining the runs leaves them as they are. -/
theorem runs_joinRuns (text : List Char) :
    runs isAlphanumeric (joinRuns false false text) = runs isAlphanumeric text := by
  rw [joinRuns_eq]
  exact runs_intercalate isAlphanumeric_underscore fun w hw =>
    ⟨ne_nil_of_mem_runs hw, fun c hc => (mem_of_mem_runs hw hc).2⟩

/-! ### Identifiers -/

theorem sanitize_eq (raw : List Char) : sanitize raw =
    if runs isAlphanumeric raw = [] then unnamed
    else ['_'].intercalate (runs isAlphanumeric raw) := by
  rw [sanitize, joinRuns_eq]
  by_cases hnone : runs isAlphanumeric raw = []
  · rw [if_pos hnone, hnone, List.intercalate_nil]
  · rw [if_neg hnone]
    split
    · next hempty =>
      -- Nothing is written only where there are no runs, since the runs are those of the text.
      have hruns := runs_joinRuns raw
      rw [joinRuns_eq, hempty] at hruns
      exact absurd hruns.symm hnone
    · rfl

theorem sanitize_of_not_any (h : raw.any isAlphanumeric = false) : sanitize raw = unnamed := by
  rw [sanitize_eq, if_pos (runs_eq_nil_iff.mpr h)]

/-- Nothing but the runs of a text matters for its identifier. -/
theorem sanitize_of_runs (h : runs isAlphanumeric raw = runs isAlphanumeric raw') :
    sanitize raw = sanitize raw' := by
  rw [sanitize_eq, sanitize_eq, h]

/-- What a name is made from: the text itself, if there is something alphanumeric in it. -/
def source (raw : List Char) : List Char := if raw.any isAlphanumeric then raw else unnamed

theorem any_source (raw : List Char) : (source raw).any isAlphanumeric := by
  unfold source
  split
  · assumption
  · decide

theorem runs_sanitize (raw : List Char) :
    runs isAlphanumeric (sanitize raw) = runs isAlphanumeric (source raw) := by
  by_cases h : raw.any isAlphanumeric
  · have hne : runs isAlphanumeric raw ≠ [] := fun hnil => by simp [runs_eq_nil_iff.mp hnil] at h
    rw [source, if_pos h, sanitize_eq, if_neg hne, ← joinRuns_eq, runs_joinRuns]
  · rw [source, if_neg h, sanitize_of_not_any (by simpa using h)]

/-- Joining the runs by underscores changes no word. -/
theorem words_sanitize (raw : List Char) : words (sanitize raw) = words (source raw) := by
  rw [words, runs_sanitize]
  rfl

/-! ### Names -/

theorem pascal_eq (raw : List Char) : pascal raw = upperCamel (source raw) := by
  rw [pascal, upperCamel, words_sanitize]
  rfl

/-- Text with an alphanumeric character has the same camel case when it is made an identifier
first. -/
theorem pascal_of_any (h : text.any isAlphanumeric) : pascal text = upperCamel text := by
  rw [pascal_eq, source, if_pos h]

theorem pascal_of_not_any (h : text.any isAlphanumeric = false) :
    pascal text = "Unnamed".toList := by
  rw [pascal_eq, source, if_neg (by simp [h])]
  decide +kernel

/-- The counterpart of `pascal` that starts with a small word. -/
def camel (raw : List Char) : List Char := lowerCamel (sanitize raw)

theorem camel_eq (raw : List Char) : camel raw = lowerCamel (source raw) := by
  rw [camel, lowerCamel, words_sanitize]
  rfl

theorem literalName_eq (text : List Char) : literalName text = upperCamel text := by
  rw [literalName]
  split
  · next h => exact pascal_of_any h
  · next h => exact (upperCamel_of_not_any (by simpa using h)).symm

end ApiContext.Naming
