import ApiContext.Proofs.Separators

/-! Text made an identifier before it is cased. What one pass writes is the runs of the text, joined
by single underscores. These are separators, so the identifier has the runs and the words that the
text has, and only text without any of them is cased as something else. -/
namespace ApiContext.Naming
open Text
variable {raw : List Char}

theorem pieces_eq_nil_iff : pieces raw = [] ↔ raw.any isAlphanumeric = false := by
  rw [← runs_eq_pieces, runs_eq_nil_iff]

theorem sanitize_eq_pieces (raw : List Char) : sanitize raw =
    if pieces raw = [] then unnamed else ['_'].intercalate (pieces raw) := by
  rw [sanitize_eq, runs_eq_pieces]

theorem sanitize_source (raw : List Char) : sanitize (source raw) = sanitize raw := by
  unfold source
  split
  · rfl
  · next h =>
    have hname : sanitize unnamed = unnamed := by decide +kernel
    rw [hname, sanitize_of_not_any (by simpa using h)]

theorem sanitize_sanitize (raw : List Char) : sanitize (sanitize raw) = sanitize raw :=
  (sanitize_of_runs (runs_sanitize raw)).trans (sanitize_source raw)

theorem words_sanitize_of_any (h : raw.any isAlphanumeric) : words (sanitize raw) = words raw := by
  rw [words_sanitize, source_of_any h]

/-- The identifier of a text is its runs joined by single underscores, or `unnamed` if it has none,
and an identifier made so is left as it is. It is cut into the words of the text, so upper and lower
camel case are the same for both, as soon as the text has any run. -/
theorem sanitize_keeps_words (raw : List Char) :
    sanitize raw =
        (if pieces raw = [] then "unnamed".toList else ['_'].intercalate (pieces raw)) ∧
      (pieces raw = [] ↔ raw.any isAlphanumeric = false) ∧
      sanitize (sanitize raw) = sanitize raw ∧
      (raw.any isAlphanumeric → words (sanitize raw) = words raw ∧
        upperCamel (sanitize raw) = upperCamel raw ∧
        lowerCamel (sanitize raw) = lowerCamel raw) := by
  refine ⟨sanitize_eq_pieces raw, pieces_eq_nil_iff, sanitize_sanitize raw, fun h => ?_⟩
  have hwords := words_sanitize_of_any h
  exact ⟨hwords, by rw [upperCamel, hwords, upperCamel], by rw [lowerCamel, hwords, lowerCamel]⟩

theorem sanitize_keeps_words_petStore :
    sanitize "--pet  storeID!2".toList = "pet_storeID_2".toList ∧
      "--pet  storeID!2".toList.any isAlphanumeric ∧
      words (sanitize "--pet  storeID!2".toList) = words "--pet  storeID!2".toList ∧
      upperCamel (sanitize "--pet  storeID!2".toList) = upperCamel "--pet  storeID!2".toList := by
  have hany : "--pet  storeID!2".toList.any isAlphanumeric := by decide +kernel
  obtain ⟨_, _, _, hkeeps⟩ := sanitize_keeps_words "--pet  storeID!2".toList
  exact ⟨by decide +kernel, hany, (hkeeps hany).1, (hkeeps hany).2.1⟩

end ApiContext.Naming
