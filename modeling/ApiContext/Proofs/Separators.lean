import ApiContext.Proofs.CamelCase

/-! Names and separators. No word goes on across a separator, and separators at the ends of a text
are passed over. So a name is put together from the pieces of the text between separators, and
nothing but these pieces matters. -/
namespace ApiContext.Text
variable {p : Char → Bool} {w a s b text : List Char}

/-- What stands between the separators of a text, where anything does. -/
def pieces (text : List Char) : List (List Char) :=
  (text.splitOnP fun c => !isAlphanumeric c).filter (· ≠ [])

/-! ### Runs -/

theorem flush_eq_filter (w : List Char) : flush w = [w].filter (· ≠ []) := by
  cases w <;> rfl

theorem runsFrom_eq_filter : runsFrom p w text =
    (text.splitOnPPrepend (fun c => !p c) w.reverse).filter (· ≠ []) := by
  induction text generalizing w with
  | nil => rw [runsFrom, List.splitOnPPrepend_nil, List.reverse_reverse, flush_eq_filter]
  | cons c text ih =>
    cases hc : p c with
    | true => simp [runsFrom, hc, ih, List.splitOnPPrepend_cons_neg]
    | false =>
      rw [runsFrom, if_neg (by simp [hc]), ih, List.splitOnPPrepend_cons_pos (by simp [hc]),
        List.reverse_reverse, flush_eq_filter, List.reverse_nil, List.splitOnP_eq_splitOnPPrepend,
        ← List.filter_append, List.singleton_append]

/-- The runs are the pieces. -/
theorem runs_eq_pieces (text : List Char) : runs isAlphanumeric text = pieces text :=
  runsFrom_eq_filter

example : pieces "--Pet id_2".toList = ["Pet".toList, "id".toList, "2".toList] := by decide +kernel

theorem runs_separators_append (hs : ∀ c ∈ s, p c = false) : runs p (s ++ b) = runs p b := by
  induction s with
  | nil => rfl
  | cons c s ih =>
    obtain ⟨hc, hs⟩ := List.forall_mem_cons.mp hs
    exact (runs_append (a := []) hc).trans (ih hs)

/-- Of a stretch of separators it only matters that it is there. -/
theorem runs_append_separators (hne : s ≠ []) (hs : ∀ c ∈ s, p c = false) :
    runs p (a ++ s ++ b) = runs p a ++ runs p b := by
  cases s with
  | nil => exact absurd rfl hne
  | cons c s =>
    obtain ⟨hc, hs⟩ := List.forall_mem_cons.mp hs
    rw [List.append_assoc, List.cons_append, runs_append hc, runs_separators_append hs]

/-- Separators around a text are passed over. -/
theorem runs_surrounded {t : List Char} (hs : ∀ c ∈ s, p c = false) (ht : ∀ c ∈ t, p c = false) :
    runs p (s ++ a ++ t) = runs p a := by
  rw [List.append_assoc, runs_separators_append hs]
  cases t with
  | nil => rw [List.append_nil]
  | cons c t =>
    have hnone : runs p [] = [] := rfl
    have happ := runs_append_separators (a := a) (b := []) (List.cons_ne_nil c t) ht
    rwa [hnone, List.append_nil, List.append_nil] at happ

/-! ### Camel case -/

theorem words_append_separators (hne : s ≠ []) (hs : ∀ c ∈ s, isAlphanumeric c = false) :
    words (a ++ s ++ b) = words a ++ words b := by
  rw [words, runs_append_separators hne hs, List.flatMap_append]
  rfl

theorem upperCamel_append_separators (hne : s ≠ []) (hs : ∀ c ∈ s, isAlphanumeric c = false) :
    upperCamel (a ++ s ++ b) = upperCamel a ++ upperCamel b := by
  rw [upperCamel, words_append_separators hne hs, List.flatMap_append]
  rfl

/-- The small word is the first one of the text in front. -/
theorem lowerCamel_append_separators (ha : a.any isAlphanumeric) (hne : s ≠ [])
    (hs : ∀ c ∈ s, isAlphanumeric c = false) :
    lowerCamel (a ++ s ++ b) = lowerCamel a ++ upperCamel b := by
  obtain ⟨c, r, rest, hwords, _⟩ := exists_words_cons ha
  rw [lowerCamel, lowerCamel, words_append_separators hne hs, hwords]
  simp [upperCamel]

end ApiContext.Text

namespace ApiContext.Naming
open Text
variable {a s b raw raw' : List Char}

theorem source_of_any (h : raw.any isAlphanumeric) : source raw = raw := if_pos h

theorem any_append (ha : a.any isAlphanumeric) : (a ++ s ++ b).any isAlphanumeric := by
  simp only [List.any_append, ha, Bool.true_or]

theorem pascal_of_runs (h : runs isAlphanumeric raw = runs isAlphanumeric raw') :
    pascal raw = pascal raw' := by
  rw [pascal, pascal, sanitize_of_runs h]

theorem camel_of_runs (h : runs isAlphanumeric raw = runs isAlphanumeric raw') :
    camel raw = camel raw' := by
  rw [camel, camel, sanitize_of_runs h]

theorem pascal_append_separators (ha : a.any isAlphanumeric) (hb : b.any isAlphanumeric)
    (hne : s ≠ []) (hs : ∀ c ∈ s, isAlphanumeric c = false) :
    pascal (a ++ s ++ b) = pascal a ++ pascal b := by
  rw [pascal_of_any (any_append ha), pascal_of_any ha, pascal_of_any hb,
    upperCamel_append_separators hne hs]

theorem camel_append_separators (ha : a.any isAlphanumeric) (hb : b.any isAlphanumeric)
    (hne : s ≠ []) (hs : ∀ c ∈ s, isAlphanumeric c = false) :
    camel (a ++ s ++ b) = camel a ++ pascal b := by
  rw [camel_eq, camel_eq, source_of_any (any_append ha), source_of_any ha, pascal_of_any hb,
    lowerCamel_append_separators ha hne hs]

/-- An underscore stands in front exactly where an ASCII digit would come first. -/
theorem guardDigit_eq (name : List Char) :
    guardDigit name = if name.head?.any Char.isDigit then '_' :: name else name := by
  cases name <;> rfl

/-- Names are put together piece by piece. Text between separators is cased on its own, the field
name taking only its first word in lower case, and separators around the text have no effect; the
names are that camel case behind an underscore exactly where an ASCII digit would come first. So
texts with the same pieces have the same names. -/
theorem names_of_pieces :
    (∀ a s b, a.any isAlphanumeric → b.any isAlphanumeric → s ≠ [] →
        (∀ c ∈ s, isAlphanumeric c = false) →
        pascal (a ++ s ++ b) = pascal a ++ pascal b ∧
          camel (a ++ s ++ b) = camel a ++ pascal b) ∧
      (∀ s a t, (∀ c ∈ s, isAlphanumeric c = false) → (∀ c ∈ t, isAlphanumeric c = false) →
        pascal (s ++ a ++ t) = pascal a ∧ camel (s ++ a ++ t) = camel a) ∧
      (∀ raw : String, ∀ p ∈ [(typeName raw, pascal raw.toList),
          (enumCaseName raw, pascal raw.toList), (fieldName raw, camel raw.toList)],
        p.1.toList = if p.2.head?.any Char.isDigit then '_' :: p.2 else p.2) ∧
      (∀ raw raw' : String, pieces raw.toList = pieces raw'.toList →
        typeName raw = typeName raw' ∧ fieldName raw = fieldName raw' ∧
          enumCaseName raw = enumCaseName raw') := by
  refine ⟨?_, ?_, ?_, ?_⟩
  · intro a s b ha hb hne hs
    exact ⟨pascal_append_separators ha hb hne hs, camel_append_separators ha hb hne hs⟩
  · intro s a t hs ht
    have hruns := runs_surrounded (a := a) hs ht
    exact ⟨pascal_of_runs hruns, camel_of_runs hruns⟩
  · intro raw p hp
    rw [← guardDigit_eq]
    obtain rfl | rfl | rfl : p = _ ∨ p = _ ∨ p = _ := by simpa using hp
    · exact String.toList_ofList
    · exact String.toList_ofList
    · exact String.toList_ofList
  · intro raw raw' h
    rw [← runs_eq_pieces, ← runs_eq_pieces] at h
    have hpascal := pascal_of_runs h
    have hcamel := camel_of_runs h
    rw [camel, camel] at hcamel
    exact ⟨by rw [typeName, typeName, hpascal], by rw [fieldName, fieldName, hcamel],
      by rw [enumCaseName, enumCaseName, hpascal]⟩

end ApiContext.Naming
