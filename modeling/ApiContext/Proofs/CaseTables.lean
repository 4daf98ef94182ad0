import ApiContext.Text.Words

/-! The case tables lead from letters to letters. In another case a character becomes an
alphanumeric one, a number only if it was a number, and behind this come at most alphanumeric
characters and combining marks; so no ASCII separator comes from a case mapping. That is decided
character by character, with the properties read from the bits of one number. -/
namespace ApiContext.Text
variable {c d e : Char} {n : Nat} {l : List Nat} {r : List Char} {spans : List Span}
variable {expansions : List (Nat × List Nat)} {shifts : List Shift}

/-! ### Spans as bits -/

/-- The code points of a span, one by one. -/
def Span.points (s : Span) : List Nat :=
  (List.range' s.first (s.last + 1 - s.first)).filter s.contains

def bitsOf (l : List Nat) : Nat := l.foldr (fun n b => 1 <<< n ||| b) 0

/-- The number that has a bit for each code point of a span. -/
def Span.bits (s : Span) : Nat :=
  if s.step = 1 then (1 <<< (s.last + 1 - s.first) - 1) <<< s.first else bitsOf s.points

def tableBits (spans : List Span) : Nat := spans.foldr (·.bits ||| ·) 0

theorem Span.bounds_of_contains {s : Span} (h : s.contains n) : s.first ≤ n ∧ n ≤ s.last := by
  simp only [contains, Bool.and_eq_true, decide_eq_true_eq] at h
  exact h.1

theorem Span.mem_points {s : Span} : n ∈ s.points ↔ s.contains n := by
  rw [points, List.mem_filter, List.mem_range'_1, and_iff_right_iff_imp]
  intro h
  have hbounds := bounds_of_contains h
  omega

theorem testBit_bitsOf : (bitsOf l).testBit n = decide (n ∈ l) := by
  induction l with
  | nil => simp [bitsOf]
  | cons m l ih =>
    rw [bitsOf, List.foldr_cons, Nat.testBit_or, ← bitsOf, ih, Nat.one_shiftLeft,
      Nat.testBit_two_pow]
    simp [eq_comm]

theorem Span.testBit_bits (s : Span) (n : Nat) : s.bits.testBit n = s.contains n := by
  unfold bits
  split
  · next hstep =>
    rw [Nat.one_shiftLeft, Nat.testBit_shiftLeft, Nat.testBit_two_pow_sub_one, Bool.eq_iff_iff]
    simp only [contains, hstep, Nat.mod_one, BEq.rfl, Bool.and_eq_true, decide_eq_true_eq, and_true]
    omega
  · rw [testBit_bitsOf, Bool.eq_iff_iff, decide_eq_true_eq, mem_points]

/-- Bit `n` of a table tells whether `n` is in it. -/
theorem testBit_tableBits : (tableBits spans).testBit n = spans.any (·.contains n) := by
  induction spans with
  | nil => simp [tableBits]
  | cons s spans ih =>
    rw [tableBits, List.foldr_cons, Nat.testBit_or, ← tableBits, ih, Span.testBit_bits,
      List.any_cons]

/-! ### Letters and numbers -/

/-- The characters below 128 are few enough to be checked one by one. -/
theorem ascii_cases {P : Char → Prop} (h : ∀ n < 128, P (Char.ofNat n)) (hc : isAscii c) : P c := by
  have hn : c.toNat < 128 := by simpa [isAscii] using hc
  rw [← Char.ofNat_toNat c]
  exact h c.toNat hn

def alphabeticBits : Nat := tableBits (⟨65, 90, 1⟩ :: ⟨97, 122, 1⟩ :: alphabeticSpans)

def numericBits : Nat := tableBits (⟨48, 57, 1⟩ :: numericSpans)

theorem contains_ascii_eq_false {s : Span} (hs : s.last < 128) (hc : isAscii c = false) :
    s.contains c.toNat = false := by
  have habove : 128 ≤ c.toNat := by simpa [isAscii] using hc
  rw [Bool.eq_false_iff]
  intro h
  have hbounds := s.bounds_of_contains h
  omega

theorem isAlphabetic_eq_testBit (c : Char) :
    isAlphabetic c = alphabeticBits.testBit c.toNat := by
  cases hc : isAscii c with
  | true =>
    exact ascii_cases (P := fun c => isAlphabetic c = alphabeticBits.testBit c.toNat)
      (by decide +kernel) hc
  | false =>
    rw [isAlphabetic, if_neg (by simp [hc]), inSpans, alphabeticBits, testBit_tableBits,
      List.any_cons, List.any_cons, contains_ascii_eq_false (by decide) hc,
      contains_ascii_eq_false (by decide) hc, Bool.false_or, Bool.false_or]

theorem isNumeric_eq_testBit (c : Char) : isNumeric c = numericBits.testBit c.toNat := by
  cases hc : isAscii c with
  | true =>
    exact ascii_cases (P := fun c => isNumeric c = numericBits.testBit c.toNat)
      (by decide +kernel) hc
  | false =>
    rw [isNumeric, if_neg (by simp [hc]), inSpans, numericBits, testBit_tableBits,
      List.any_cons, contains_ascii_eq_false (by decide) hc, Bool.false_or]

theorem isAlphanumeric_eq_testBit (c : Char) :
    isAlphanumeric c = (alphabeticBits ||| numericBits).testBit c.toNat := by
  rw [isAlphanumeric, isAlphabetic_eq_testBit, isNumeric_eq_testBit, Nat.testBit_or]

/-! ### Case mappings -/

/-- What may come first for a character: something alphanumeric, a number only for a number, and an
ASCII digit for an ASCII digit. -/
structure Follows (c d : Char) : Prop where
  alphanumeric : isAlphanumeric d
  numeric : isNumeric d → isNumeric c
  digit : c.isDigit → d.isDigit

theorem follows_iff : Follows c d ↔ (alphabeticBits ||| numericBits).testBit d.toNat ∧
    (numericBits.testBit d.toNat → numericBits.testBit c.toNat) ∧ (c.isDigit → d.isDigit) := by
  rw [← isAlphanumeric_eq_testBit, ← isNumeric_eq_testBit, ← isNumeric_eq_testBit]
  exact ⟨fun h => ⟨h.alphanumeric, h.numeric, h.digit⟩, fun h => ⟨h.1, h.2.1, h.2.2⟩⟩

instance (c d : Char) : Decidable (Follows c d) := decidable_of_iff' _ follows_iff

/-- The combining marks U+0300 to U+036F. -/
def isMark (c : Char) : Bool := 0x300 ≤ c.toNat && c.toNat ≤ 0x36F

/-- A character in another case: one that may come first for it, then marks and alphanumeric
characters. -/
def Spells (c : Char) : List Char → Prop
  | [] => False
  | d :: r => Follows c d ∧ r.all fun e => isMark e || isAlphanumeric e

instance (c : Char) : DecidablePred (Spells c)
  | [] => inferInstanceAs (Decidable False)
  | d :: r => inferInstanceAs
      (Decidable (Follows c d ∧ (r.all fun e => isMark e || isAlphanumeric e) = true))

theorem Follows.spells (h : Follows c d) : Spells c [d] := ⟨h, rfl⟩

theorem follows_self (hc : isAlphanumeric c) : Follows c c := ⟨hc, id, id⟩

/-- Of a character the table makes the expansion listed for it, or its shift, or itself. -/
theorem mapCase_cases {Q : List Char → Prop}
    (he : ∀ points, (c.toNat, points) ∈ expansions → Q (points.map Char.ofNat))
    (hs : ∀ s ∈ shifts, s.span.contains c.toNat → Q [Char.ofNat (s.apply c.toNat)]) (hc : Q [c]) :
    Q (mapCase expansions shifts c) := by
  unfold mapCase
  split
  · next points hp =>
    obtain ⟨before, after, rfl, _⟩ := List.lookup_eq_some_iff.mp hp
    exact he points (by simp)
  · split
    · next s hf =>
      have hspan : s.span.contains c.toNat = true := by simpa using List.find?_some hf
      exact hs s (List.mem_of_find?_eq_some hf) hspan
    · exact hc

theorem spells_mapCase
    (he : ∀ e ∈ expansions, Spells (Char.ofNat e.1) (e.2.map Char.ofNat))
    (hs : ∀ s ∈ shifts, ∀ n ∈ s.span.points, Follows (Char.ofNat n) (Char.ofNat (s.apply n)))
    (hc : isAlphanumeric c) : Spells c (mapCase expansions shifts c) := by
  refine mapCase_cases ?_ ?_ (follows_self hc).spells
  · intro points hp
    have hspells := he _ hp
    rwa [Char.ofNat_toNat] at hspells
  · intro s hmem hspan
    have hfollows := hs s hmem c.toNat (Span.mem_points.mpr hspan)
    rw [Char.ofNat_toNat] at hfollows
    exact hfollows.spells

theorem follows_toUpper (hascii : isAscii c) : isAlphanumeric c → Follows c c.toUpper :=
  ascii_cases (P := fun c => isAlphanumeric c → Follows c c.toUpper) (by decide +kernel) hascii

theorem follows_toLower (hascii : isAscii c) : isAlphanumeric c → Follows c c.toLower :=
  ascii_cases (P := fun c => isAlphanumeric c → Follows c c.toLower) (by decide +kernel) hascii

theorem spells_upper (hc : isAlphanumeric c) : Spells c (upper c) := by
  unfold upper
  split
  · next hascii => exact (follows_toUpper hascii hc).spells
  · exact spells_mapCase (by decide +kernel) (by decide +kernel) hc

theorem spells_lower (hc : isAlphanumeric c) : Spells c (lower c) := by
  unfold lower
  split
  · next hascii => exact (follows_toLower hascii hc).spells
  · exact spells_mapCase (by decide +kernel) (by decide +kernel) hc

theorem Spells.exists_cons (h : Spells c r) : ∃ d t, r = d :: t ∧ Follows c d := by
  cases r with
  | nil => exact h.elim
  | cons d t => exact ⟨d, t, rfl, h.1⟩

theorem Spells.continues (h : Spells c r) (he : e ∈ r) : isMark e ∨ isAlphanumeric e := by
  cases r with
  | nil => exact h.elim
  | cons d t =>
    obtain rfl | he := List.mem_cons.mp he
    · exact .inr h.1.alphanumeric
    · simpa using List.all_eq_true.mp h.2 e he

/-- What is ASCII is alphanumeric. -/
def Clean (c : Char) : Prop := isAscii c → isAlphanumeric c

instance : DecidablePred Clean := fun c =>
  inferInstanceAs (Decidable (isAscii c → isAlphanumeric c))

theorem clean_of_continues (h : isMark e ∨ isAlphanumeric e) : Clean e := by
  intro hascii
  obtain hmark | halnum := h
  · simp only [isMark, isAscii, Bool.and_eq_true, decide_eq_true_eq] at hmark hascii
    omega
  · exact halnum

end ApiContext.Text
