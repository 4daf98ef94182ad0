import ApiContext.Proofs.CamelCase

/-! The shape of names. A name starts with an underscore or a letter and goes on with letters and
digits, but for two things: only ASCII digits are guarded, so a number of another kind may come
first, and where the case of a letter is written with combining marks, these stand in the name. -/
namespace ApiContext.Text
variable {c e : Char} {text name : List Char}

/-- A combining mark with which the text writes the other case of one of its characters. -/
def CaseMark (text : List Char) (e : Char) : Prop :=
  isMark e ∧ ∃ c ∈ text, isAlphanumeric c ∧ (e ∈ upper c ∨ e ∈ lower c)

theorem alphanumeric_or_caseMark (h : Recased text e) : isAlphanumeric e ∨ CaseMark text e := by
  obtain hmark | halnum := h.continues
  · obtain rfl | hcase := h
    · cases hmark
    · exact .inr ⟨hmark, hcase⟩
  · exact .inl halnum

/-- A word starts, in lower case, as its first character does. -/
theorem exists_lowerWord_cons (hc : isAlphanumeric c) (r : List Char) :
    ∃ d l, lowerWord (c :: r) = d :: l ∧ Follows c d := by
  obtain ⟨d, l, hd, hfollows⟩ := (spells_lower hc).exists_cons
  cases r with
  | nil =>
    rw [lowerWord]
    split
    · next hsigma =>
      subst hsigma
      exact ⟨'ς', [], rfl, by decide +kernel⟩
    · exact ⟨d, l, hd, hfollows⟩
  | cons c' r => exact ⟨d, l ++ lowerWord (c' :: r), by rw [lowerWord, hd]; rfl, hfollows⟩

/-- What starts as the text does and goes on with nothing else than its characters and marks. -/
structure CasedFrom (text name : List Char) : Prop where
  first : ∃ c d r, text.find? isAlphanumeric = some c ∧ name = d :: r ∧ Follows c d
  continues : ∀ e ∈ name, isAlphanumeric e ∨ CaseMark text e

theorem casedFrom_upperCamel (h : text.any isAlphanumeric) :
    CasedFrom text (upperCamel text) := by
  obtain ⟨c, r, rest, hwords, hfind⟩ := exists_words_cons h
  obtain ⟨d, l, hd, hfollows⟩ := (spells_upper (List.find?_some hfind)).exists_cons
  refine ⟨⟨c, d, l ++ lowerWord r ++ rest.flatMap capitalize, hfind, ?_, hfollows⟩,
    fun e he => alphanumeric_or_caseMark (recased_upperCamel he)⟩
  rw [upperCamel, hwords, List.flatMap_cons, capitalize, hd]
  rfl

theorem casedFrom_lowerCamel (h : text.any isAlphanumeric) :
    CasedFrom text (lowerCamel text) := by
  obtain ⟨c, r, rest, hwords, hfind⟩ := exists_words_cons h
  obtain ⟨d, l, hd, hfollows⟩ := exists_lowerWord_cons (List.find?_some hfind) r
  refine ⟨⟨c, d, l ++ rest.flatMap capitalize, hfind, ?_, hfollows⟩,
    fun e he => alphanumeric_or_caseMark (recased_lowerCamel he)⟩
  rw [lowerCamel, hwords]
  simp only [hd, List.cons_append]

end ApiContext.Text

namespace ApiContext.Naming
open Text
variable {e : Char} {raw name : List Char}

/-- The shape of an identifier. A first character other than the underscore is a number only if
`number` holds, and all further ones are alphanumeric but for those that `mark` allows. -/
def Identifier (number : Prop) (mark : Char → Prop) (name : List Char) : Prop :=
  ∃ c rest, name = c :: rest ∧ (c = '_' ∨ isAlphanumeric c ∧ (isNumeric c → number)) ∧
    ∀ e ∈ rest, isAlphanumeric e ∨ mark e

/-- The first alphanumeric character of the text is a number, but no ASCII digit. -/
def OtherNumber (raw : List Char) : Prop :=
  ∃ c, raw.find? isAlphanumeric = some c ∧ isNumeric c ∧ c.isDigit = false

/-- The name that stands for none has no marks. -/
theorem caseMark_source (h : CaseMark (source raw) e) : CaseMark raw e := by
  unfold source at h
  split at h
  · exact h
  · obtain ⟨hmark, c, hmem, _, he⟩ := h
    have hnone : unnamed.all fun c => (upper c ++ lower c).all fun e => !isMark e := by
      decide +kernel
    have hplain :=
      List.all_eq_true.mp (List.all_eq_true.mp hnone c hmem) e (List.mem_append.mpr he)
    rw [hmark] at hplain
    cases hplain

theorem otherNumber_source (h : OtherNumber (source raw)) : OtherNumber raw := by
  unfold source at h
  split at h
  · exact h
  · obtain ⟨c, hfind, hnumber, _⟩ := h
    have hletters : unnamed.all fun c => !isNumeric c := by decide +kernel
    have hletter := List.all_eq_true.mp hletters c (List.mem_of_find?_eq_some hfind)
    rw [hnumber] at hletter
    cases hletter

/-- The guard leaves no ASCII digit in front. -/
theorem identifier_guardDigit (h : CasedFrom (source raw) name) :
    Identifier (OtherNumber raw) (CaseMark raw) (guardDigit name) := by
  obtain ⟨⟨c, d, r, hfind, rfl, hfollows⟩, hcontinues⟩ := h
  have hrest : ∀ e ∈ d :: r, isAlphanumeric e ∨ CaseMark raw e :=
    fun e he => (hcontinues e he).imp_right caseMark_source
  rw [guardDigit]
  split
  · exact ⟨'_', d :: r, rfl, .inl rfl, hrest⟩
  · next hdigit =>
    refine ⟨d, r, rfl, .inr ⟨hfollows.alphanumeric, fun hnumber => ?_⟩,
      fun e he => hrest e (List.mem_cons_of_mem d he)⟩
    have hother : c.isDigit = false := by
      rw [Bool.eq_false_iff]
      exact fun hc => hdigit (hfollows.digit hc)
    exact otherNumber_source ⟨c, hfind, hfollows.numeric hnumber, hother⟩

/-- Every name is an identifier, except that it may start with a number if the text does and this is
no ASCII digit, and that it may have combining marks from the case mappings of the text. -/
theorem names_identifiers (raw : String) :
    Identifier (OtherNumber raw.toList) (CaseMark raw.toList) (typeName raw).toList ∧
      Identifier (OtherNumber raw.toList) (CaseMark raw.toList) (fieldName raw).toList ∧
      Identifier (OtherNumber raw.toList) (CaseMark raw.toList) (enumCaseName raw).toList := by
  have hpascal : CasedFrom (source raw.toList) (pascal raw.toList) := by
    rw [pascal_eq]
    exact casedFrom_upperCamel (any_source _)
  have hcamel : CasedFrom (source raw.toList) (lowerCamel (sanitize raw.toList)) := by
    rw [← camel, camel_eq]
    exact casedFrom_lowerCamel (any_source _)
  rw [typeName, fieldName, enumCaseName, String.toList_ofList, String.toList_ofList]
  exact ⟨identifier_guardDigit hpascal, identifier_guardDigit hcamel,
    identifier_guardDigit hpascal⟩

/-- The Arabic digit three is not guarded, and the capital of iota with dialytika and tonos is
written with two combining marks. -/
theorem three_and_iota_not_identifiers :
    ¬ Identifier False (fun _ => False) (typeName "\u0663").toList ∧
      ¬ Identifier False (fun _ => False) (typeName "\u0390").toList := by
  have hthree : (typeName "\u0663").toList = ['\u0663'] := by decide +kernel
  have hiota : (typeName "\u0390").toList = ['\u0399', '\u0308', '\u0301'] := by decide +kernel
  rw [hthree, hiota]
  constructor
  · rintro ⟨c, rest, hname, hfirst, _⟩
    obtain ⟨rfl, _⟩ := List.cons.inj hname
    obtain hguard | ⟨_, hnumber⟩ := hfirst
    · exact absurd hguard (by decide)
    · exact hnumber (by decide +kernel)
  · rintro ⟨c, rest, hname, _, hrest⟩
    obtain ⟨_, rfl⟩ := List.cons.inj hname
    have hmark := (hrest '\u0308' (by simp)).resolve_right id
    exact absurd hmark (by decide +kernel)

end ApiContext.Naming
