import ApiContext.Resolve.Operation

/-! Paths as segments between dots. A path tells its segments as long as none of them holds one. -/
namespace ApiContext
open Model Resolve

def DotFree (s : String) : Prop := '.' ∉ s.toList

instance (s : String) : Decidable (DotFree s) := inferInstanceAs (Decidable (¬ _))

/-- The name of a value in a path. -/
def shownName (name : String) : String := if name.isEmpty then anonymous else name

theorem isDigit_of_mem_toString {n : Nat} {c : Char} (h : c ∈ (toString n).toList) : c.isDigit := by
  rw [Nat.toString_eq_ofList_toDigits, String.toList_ofList] at h
  exact Nat.isDigit_of_mem_toDigits (by decide) (by decide) h

theorem toString_nat_injective {m n : Nat} (h : toString m = toString n) : m = n := by
  have hvalue := congrArg (fun s => Nat.ofDigitChars 10 s.toList 0) h
  simpa [Nat.toString_eq_ofList_toDigits] using hvalue

/-- No status reads as a word with a letter but the default one. -/
theorem toString_ne_of_mem {n : Nat} {s : String} {c : Char} (hc : c ∈ s.toList)
    (hd : c.isDigit = false) : toString n ≠ s := by
  intro h
  subst h
  rw [isDigit_of_mem_toString hc] at hd
  cases hd

theorem statusText_injective {s t : Option UInt16} (h : statusText s = statusText t) : s = t := by
  cases s with
  | none =>
    cases t with
    | none => rfl
    | some t => exact absurd h.symm (toString_ne_of_mem (c := 'd') (by decide) (by decide))
  | some s =>
    cases t with
    | none => exact absurd h (toString_ne_of_mem (c := 'd') (by decide) (by decide))
    | some t => exact congrArg some (UInt16.toNat_inj.mp (toString_nat_injective h))

theorem statusText_ne {w : String} {c : Char} (hc : c ∈ w.toList) (hd : c.isDigit = false)
    (hw : w ≠ "default") (s : Option UInt16) : statusText s ≠ w := by
  cases s with
  | none => exact hw.symm
  | some s => exact toString_ne_of_mem hc hd

end ApiContext
