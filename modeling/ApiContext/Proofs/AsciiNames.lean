import Mathlib
import ApiContext.Proofs.CamelCase

/-! Names of ASCII text. Case mappings turn one ASCII character into one, so such a name spells the
letters and digits of the text: only separators and differences of case are lost. -/
namespace ApiContext.Text
variable {c : Char} {w text : List Char}

/-! ### Characters -/

theorem isDigit_of_isAlpha (hc : c.isAlpha) : c.isDigit = false := by
  simp only [Char.isAlpha, Char.isUpper, Char.isLower, Char.isDigit, UInt32.le_iff_toNat_le,
    Char.reduceVal, UInt32.reduceToNat, Bool.or_eq_true, Bool.and_eq_true, decide_eq_true_eq,
    Bool.and_eq_false_iff, decide_eq_false_iff_not] at hc ⊢
  omega

theorem isDigit_toUpper (c : Char) : c.toUpper.isDigit = c.isDigit := by
  by_cases hc : c.isAlpha
  · rw [isDigit_of_isAlpha hc,
      isDigit_of_isAlpha (by rwa [Char.isAlpha_toUpper_eq_isAlpha])]
  · have hlower : ¬ c.isLower := fun h => hc (by simp [Char.isAlpha, h])
    rw [Char.toUpper_eq_of_not_isLower hlower]

theorem isDigit_toLower (c : Char) : c.toLower.isDigit = c.isDigit := by
  by_cases hc : c.isAlpha
  · rw [isDigit_of_isAlpha hc,
      isDigit_of_isAlpha (by rwa [Char.isAlpha_toLower_eq_isAlpha])]
  · have hupper : ¬ c.isUpper := fun h => hc (by simp [Char.isAlpha, h])
    rw [Char.toLower_eq_of_not_isUpper hupper]

theorem upper_of_isAscii (hc : isAscii c) : upper c = [c.toUpper] := if_pos hc

theorem lower_of_isAscii (hc : isAscii c) : lower c = [c.toLower] := if_pos hc

/-! ### Words -/

theorem lowerWord_of_isAscii (hw : ∀ c ∈ w, isAscii c) : lowerWord w = w.map Char.toLower := by
  fun_induction lowerWord w with
  | case1 => rfl
  | case2 => exact absurd (hw 'Σ' (by simp)) (by decide)
  | case3 c _ => exact lower_of_isAscii (hw c (by simp))
  | case4 c d r ih =>
    obtain ⟨hc, hrest⟩ := List.forall_mem_cons.mp hw
    rw [lower_of_isAscii hc, ih hrest]
    rfl

/-- Of the case nothing is left, of the characters all. -/
theorem map_toLower_lowerWord (hw : ∀ c ∈ w, isAscii c) :
    (lowerWord w).map Char.toLower = w.map Char.toLower := by
  rw [lowerWord_of_isAscii hw, List.map_map]
  exact List.map_congr_left fun c _ => Char.toLower_toLower_eq_toLower c

theorem map_toLower_capitalize (hw : ∀ c ∈ w, isAscii c) :
    (capitalize w).map Char.toLower = w.map Char.toLower := by
  cases w with
  | nil => rfl
  | cons c r =>
    obtain ⟨hc, hr⟩ := List.forall_mem_cons.mp hw
    rw [capitalize, upper_of_isAscii hc, List.map_append, map_toLower_lowerWord hr,
      List.map_singleton, Char.toLower_toUpper_eq_toLower, List.map_cons]
    rfl

/-! ### Camel case -/

theorem isAscii_of_mem_words {word : List Char} (ht : ∀ c ∈ text, isAscii c)
    (h : word ∈ words text) (hc : c ∈ word) : isAscii c :=
  ht c (mem_of_mem_words h hc).1

theorem map_toLower_flatMap_capitalize {l : List (List Char)}
    (hl : ∀ word ∈ l, ∀ c ∈ word, isAscii c) :
    (l.flatMap capitalize).map Char.toLower = l.flatten.map Char.toLower := by
  induction l with
  | nil => rfl
  | cons word l ih =>
    obtain ⟨hword, hl⟩ := List.forall_mem_cons.mp hl
    rw [List.flatMap_cons, List.map_append, map_toLower_capitalize hword, ih hl,
      List.flatten_cons, List.map_append]

theorem map_toLower_upperCamel (ht : ∀ c ∈ text, isAscii c) :
    (upperCamel text).map Char.toLower = (text.filter isAlphanumeric).map Char.toLower := by
  rw [upperCamel, map_toLower_flatMap_capitalize fun _ hword _ => isAscii_of_mem_words ht hword,
    flatten_words]

theorem map_toLower_lowerCamel (ht : ∀ c ∈ text, isAscii c) :
    (lowerCamel text).map Char.toLower = (text.filter isAlphanumeric).map Char.toLower := by
  have hwords : ∀ word ∈ words text, ∀ c ∈ word, isAscii c :=
    fun _ hword _ => isAscii_of_mem_words ht hword
  rw [← flatten_words, lowerCamel]
  cases h : words text with
  | nil => rfl
  | cons word rest =>
    obtain ⟨hword, hrest⟩ := List.forall_mem_cons.mp (h ▸ hwords)
    simp [map_toLower_lowerWord hword, map_toLower_flatMap_capitalize hrest]

end ApiContext.Text

namespace ApiContext.Naming
open Text
variable {c : Char} {raw name : List Char}

/-- The letters and digits of a text in lower case, or what stands for none. -/
def spelling (raw : List Char) : List Char :=
  match (raw.filter Char.isAlphanum).map Char.toLower with
  | [] => unnamed
  | letters => letters

theorem isAscii_source (h : ∀ c ∈ raw, isAscii c) : ∀ c ∈ source raw, isAscii c := by
  unfold source
  split
  · exact h
  · exact List.all_eq_true.mp (by decide)

theorem spelling_eq (h : ∀ c ∈ raw, isAscii c) :
    spelling raw = ((source raw).filter isAlphanumeric).map Char.toLower := by
  have hfilter : raw.filter Char.isAlphanum = raw.filter isAlphanumeric :=
    List.filter_congr fun c hc => (isAlphanumeric_of_isAscii (h c hc)).symm
  rw [spelling, hfilter, source]
  by_cases hany : raw.any isAlphanumeric
  · rw [if_pos hany]
    split
    · next hnil =>
      obtain ⟨c, hc, halpha⟩ := List.any_eq_true.mp hany
      rw [List.map_eq_nil_iff, List.filter_eq_nil_iff] at hnil
      exact absurd halpha (hnil c hc)
    · rfl
  · have hnil : raw.filter isAlphanumeric = [] := by simpa using hany
    rw [if_neg hany, hnil]
    decide

/-! ### First characters -/

/-- All names of a text start with one of its characters, in one case or the other. -/
theorem exists_first (h : ∀ c ∈ raw, isAscii c) : ∃ c, isAscii c ∧ c.isAlphanum ∧
    (pascal raw).head? = some c.toUpper ∧ (camel raw).head? = some c.toLower ∧
    (spelling raw).head? = some c.toLower := by
  obtain ⟨c, r, rest, hwords, hfind⟩ := exists_words_cons (any_source raw)
  have hsource := isAscii_source h
  have hc : isAscii c := hsource c (List.mem_of_find?_eq_some hfind)
  have hr : ∀ d ∈ c :: r, isAscii d := fun d hd =>
    isAscii_of_mem_words hsource (hwords ▸ List.mem_cons_self) hd
  refine ⟨c, hc, ?_, ?_, ?_, ?_⟩
  · rw [← isAlphanumeric_of_isAscii hc]
    exact List.find?_some hfind
  · rw [pascal_eq, upperCamel, hwords, List.flatMap_cons, capitalize, upper_of_isAscii hc]
    rfl
  · rw [camel_eq, lowerCamel, hwords]
    simp only [lowerWord_of_isAscii hr]
    rfl
  · rw [spelling_eq h, ← flatten_words, hwords]
    rfl

/-- The guard only adds its underscore. -/
theorem map_toLower_guardDigit (hname : name.head? = some c) :
    (guardDigit name).map Char.toLower =
      if c.isDigit then '_' :: name.map Char.toLower else name.map Char.toLower := by
  cases name with
  | nil => cases hname
  | cons d name =>
    obtain rfl := Option.some.inj hname
    rw [guardDigit]
    split
    · rfl
    · rfl

theorem head?_guardDigit (hname : name.head? = some c) (hc : c.isDigit = false) :
    (guardDigit name).head? = some c := by
  cases name with
  | nil => cases hname
  | cons d name =>
    obtain rfl := Option.some.inj hname
    rw [guardDigit, hc]
    rfl

theorem map_toLower_pascal (h : ∀ c ∈ raw, isAscii c) :
    (pascal raw).map Char.toLower = spelling raw := by
  rw [pascal_eq, map_toLower_upperCamel (isAscii_source h), spelling_eq h]

theorem map_toLower_camel (h : ∀ c ∈ raw, isAscii c) :
    (camel raw).map Char.toLower = spelling raw := by
  rw [camel_eq, map_toLower_lowerCamel (isAscii_source h), spelling_eq h]

/-- ASCII text keeps its letters and digits in its names, in order. But for case, a name is what
they spell, behind an underscore where they start with a digit; where they start with a letter, this
is a capital in the type and the enum case, which are the same, and a small one in the field. -/
theorem ascii_names (raw : String) (h : ∀ c ∈ raw.toList, isAscii c) :
    typeName raw = enumCaseName raw ∧
      ∃ a letters, spelling raw.toList = a :: letters ∧ (a.isAlpha ∨ a.isDigit) ∧
        (∀ name ∈ [typeName raw, fieldName raw, enumCaseName raw],
          name.toList.map Char.toLower = if a.isDigit then '_' :: a :: letters else a :: letters) ∧
        (a.isAlpha → (typeName raw).toList.head?.any Char.isUpper ∧
          (enumCaseName raw).toList.head?.any Char.isUpper ∧
          (fieldName raw).toList.head?.any Char.isLower) := by
  obtain ⟨c, hc, halnum, hpascal, hcamel, hspelling⟩ := exists_first h
  obtain ⟨letters, hletters⟩ := List.head?_eq_some_iff.mp hspelling
  have hdigit : c.toUpper.isDigit = c.toLower.isDigit := by
    rw [isDigit_toUpper, isDigit_toLower]
  refine ⟨rfl, c.toLower, letters, hletters, ?_, ?_, ?_⟩
  · rw [Char.isAlpha_toLower_eq_isAlpha, isDigit_toLower, ← Bool.or_eq_true]
    exact halnum
  · have htype : (typeName raw).toList.map Char.toLower =
        if c.toLower.isDigit then '_' :: c.toLower :: letters else c.toLower :: letters := by
      rw [typeName, String.toList_ofList, map_toLower_guardDigit hpascal, map_toLower_pascal h,
        hletters, hdigit]
    have hfield : (fieldName raw).toList.map Char.toLower =
        if c.toLower.isDigit then '_' :: c.toLower :: letters else c.toLower :: letters := by
      rw [fieldName, String.toList_ofList, ← camel, map_toLower_guardDigit hcamel,
        map_toLower_camel h, hletters]
    intro name hname
    obtain rfl | rfl | rfl :
        name = typeName raw ∨ name = fieldName raw ∨ name = enumCaseName raw := by
      simpa using hname
    · exact htype
    · exact hfield
    · exact htype
  · intro ha
    have hletter : c.isAlpha := by rwa [Char.isAlpha_toLower_eq_isAlpha] at ha
    have hsmall : c.toLower.isDigit = false := isDigit_of_isAlpha ha
    have htype : (typeName raw).toList.head?.any Char.isUpper := by
      rw [typeName, String.toList_ofList, head?_guardDigit hpascal (hdigit.trans hsmall)]
      exact (Char.isUpper_toUpper_eq_isAlpha c).trans hletter
    have hfield : (fieldName raw).toList.head?.any Char.isLower := by
      rw [fieldName, String.toList_ofList, ← camel, head?_guardDigit hcamel hsmall]
      exact (Char.isLower_toLower_eq_isAlpha c).trans hletter
    exact ⟨htype, htype, hfield⟩

/-- An acronym, a digit between letters, and separators of several kinds; then a digit in front. -/
theorem ascii_names_pets : (∀ c ∈ "/HTTPServer2 pet--id".toList, isAscii c) ∧
    (∀ name ∈ [typeName "/HTTPServer2 pet--id", fieldName "/HTTPServer2 pet--id",
        enumCaseName "/HTTPServer2 pet--id"],
      name.toList.map Char.toLower = "httpserver2petid".toList) ∧
    (∀ c ∈ "2nd-item".toList, isAscii c) ∧
    ∀ name ∈ [typeName "2nd-item", fieldName "2nd-item", enumCaseName "2nd-item"],
      name.toList.map Char.toLower = "_2nditem".toList := by
  have hpets : ∀ c ∈ "/HTTPServer2 pet--id".toList, isAscii c :=
    List.all_eq_true.mp (by decide +kernel)
  have hitem : ∀ c ∈ "2nd-item".toList, isAscii c := List.all_eq_true.mp (by decide +kernel)
  obtain ⟨_, a, letters, ha, _, hnames, _⟩ := ascii_names "/HTTPServer2 pet--id" hpets
  obtain ⟨_, b, digits, hb, _, hguarded, _⟩ := ascii_names "2nd-item" hitem
  have hspelled : spelling "/HTTPServer2 pet--id".toList = "httpserver2petid".toList := by
    decide +kernel
  have hnumbered : spelling "2nd-item".toList = "2nditem".toList := by decide +kernel
  obtain ⟨rfl, rfl⟩ := List.cons.inj (ha.symm.trans hspelled)
  obtain ⟨rfl, rfl⟩ := List.cons.inj (hb.symm.trans hnumbered)
  exact ⟨hpets, fun name hname => (hnames name hname).trans (by decide +kernel), hitem,
    fun name hname => (hguarded name hname).trans (by decide +kernel)⟩

end ApiContext.Naming
