import ApiContext.Text.Words

/-! Words as slices. The scanner cuts a text into words without losing, doubling or moving a
character: none of the words is empty, and one behind the other they are the alphanumeric characters
of the text. -/
namespace ApiContext.Text
variable {p : Char → Bool} {c : Char} {w text word : List Char} {t : CaseTrail}

theorem mem_flush (h : word ∈ flush w) : word = w := by
  cases w with
  | nil => cases h
  | cons d w => simpa [flush] using h

theorem flatten_flush (w : List Char) : (flush w).flatten = w := by
  cases w with
  | nil => rfl
  | cons c w => simp [flush]

theorem ne_nil_of_mem_flush (h : word ∈ flush w) : word ≠ [] := by
  obtain rfl := mem_flush h
  rintro rfl
  cases h

/-! ### Runs -/

theorem flatten_runsFrom : (runsFrom p w text).flatten = w ++ text.filter p := by
  induction text generalizing w with
  | nil => simp [runsFrom, flatten_flush]
  | cons c text ih =>
    by_cases hc : p c
    · simp [runsFrom, hc, ih]
    · simp [runsFrom, hc, ih, flatten_flush]

/-- One behind the other, the runs are the characters that they are made of. -/
theorem flatten_runs (text : List Char) : (runs p text).flatten = text.filter p :=
  flatten_runsFrom

theorem mem_of_mem_runs (h : word ∈ runs p text) (hc : c ∈ word) : c ∈ text ∧ p c := by
  have hmem : c ∈ (runs p text).flatten := List.mem_flatten.mpr ⟨word, h, hc⟩
  rwa [flatten_runs, List.mem_filter] at hmem

theorem ne_nil_of_mem_runsFrom (h : word ∈ runsFrom p w text) : word ≠ [] := by
  induction text generalizing w with
  | nil => exact ne_nil_of_mem_flush h
  | cons c text ih =>
    rw [runsFrom] at h
    split at h
    · exact ih h
    · exact (List.mem_append.mp h).elim ne_nil_of_mem_flush ih

theorem ne_nil_of_mem_runs (h : word ∈ runs p text) : word ≠ [] := ne_nil_of_mem_runsFrom h

/-! ### Words -/

theorem flatten_wordsFrom : (wordsFrom t w text).flatten = w ++ text := by
  fun_induction wordsFrom t w text with
  | case1 => simp [flatten_flush]
  | case2 => simp
  | case3 t w c d r _ ih => simp [ih]
  | case4 t w c d r _ _ ih => simp [ih]
  | case5 t w c d r _ _ ih => simp [ih]

/-- One behind the other, the words are the alphanumeric characters of the text. -/
theorem flatten_words (text : List Char) :
    (words text).flatten = text.filter isAlphanumeric := by
  have hrun (run : List Char) : (wordsFrom .fresh [] run).flatten = run := flatten_wordsFrom
  calc
    (words text).flatten = (runs isAlphanumeric text).flatten := by
      simp [words, List.flatMap_def, List.flatten_flatten, hrun, Function.comp_def]
    _ = text.filter isAlphanumeric := flatten_runs text

theorem mem_of_mem_words (h : word ∈ words text) (hc : c ∈ word) :
    c ∈ text ∧ isAlphanumeric c := by
  have hmem : c ∈ (words text).flatten := List.mem_flatten.mpr ⟨word, h, hc⟩
  rwa [flatten_words, List.mem_filter] at hmem

/-- A word is not empty: where one is cut off before a capital, a capital stands before it. -/
theorem ne_nil_of_mem_wordsFrom (hw : t = .upper → w ≠ []) (h : word ∈ wordsFrom t w text) :
    word ≠ [] := by
  fun_induction wordsFrom t w text with
  | case1 => exact ne_nil_of_mem_flush h
  | case2 => simp_all
  | case3 t w c d r _ ih =>
    obtain rfl | h := List.mem_cons.mp h
    · simp
    · exact ih nofun h
  | case4 t w c d r _ hcut ih =>
    obtain rfl | h := List.mem_cons.mp h
    · exact hw hcut.1
    · exact ih nofun h
  | case5 t w c d r _ _ ih => exact ih (fun _ => by simp) h

theorem ne_nil_of_mem_words (h : word ∈ words text) : word ≠ [] := by
  obtain ⟨run, _, hword⟩ := List.mem_flatMap.mp h
  have hfresh : CaseTrail.fresh = .upper → ([] : List Char) ≠ [] := nofun
  exact ne_nil_of_mem_wordsFrom hfresh hword

/-- Text with an alphanumeric character has a first word, and this starts with the first of them. -/
theorem exists_words_cons (h : text.any isAlphanumeric) :
    ∃ c r rest, words text = (c :: r) :: rest ∧ text.find? isAlphanumeric = some c := by
  obtain ⟨c, hfind⟩ : ∃ c, text.find? isAlphanumeric = some c := by
    rw [← Option.isSome_iff_exists, List.find?_isSome]
    simpa using h
  have hhead : (words text).flatten.head? = some c := by
    rw [flatten_words, List.head?_filter, hfind]
  cases hwords : words text with
  | nil => simp [hwords] at hhead
  | cons word rest =>
    cases word with
    | nil => exact absurd rfl (ne_nil_of_mem_words (hwords ▸ List.mem_cons_self))
    | cons d r =>
      obtain rfl : d = c := by simpa [hwords] using hhead
      exact ⟨d, r, rest, rfl, hfind⟩

end ApiContext.Text
