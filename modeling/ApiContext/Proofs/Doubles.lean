import Mathlib.Data.Nat.Log
import ApiContext.Json.Basic

/-! Doubles made from integers. An integer of 64 bits lies far below the greatest double, so that
its conversion is a number however it is rounded. -/
namespace ApiContext
open Float.Model Float.Model.UnpackedFloat

/-- Zero, or a number whose exponent is low enough to be stored. -/
def InRange : UnpackedFloat → Prop
  | .zero _ => True
  | .finite _ _ e _ => e < 972
  | .infinity _ => False
  | .notANumber => False

/-- Only a stored exponent with all bits set is taken for an infinity or no number. -/
theorem isFinite_pack {f : UnpackedFloat} (h : InRange f) :
    (Float.Model.pack f).isFinite = true := by
  have hunpack {s : Sign} {e : BitVec 11} {m : BitVec 52} (he : e ≠ -1#11) :
      (UnpackedFloat.unpack Format.binary64 (packComponents Format.binary64 s e m)).isFinite =
        true := by
    unfold UnpackedFloat.unpack
    rw [unpackExponent_packComponents, if_neg he]
    by_cases hzero : e = 0#11
    · rw [if_pos hzero]
      by_cases hmantissa : unpackMantissa (packComponents Format.binary64 s e m) = 0#52
      · rw [dif_pos hmantissa]
        rfl
      · rw [dif_neg hmantissa]
        rfl
    · rw [if_neg hzero]
      rfl
  show (UnpackedFloat.unpack Format.binary64
    (UnpackedFloat.pack Format.binary64 f)).isFinite = true
  cases f with
  | zero s => exact hunpack (by decide)
  | finite s m e hm =>
    have he : e < 972 := h
    have hpack : UnpackedFloat.pack Format.binary64 (.finite s m e hm) =
        if 2048 ≤ (e + 1023 + 52).toNat + 1 then packedInfinity Format.binary64 s
        else if m.log2 + 1 = 53 then
          packComponents Format.binary64 s (BitVec.ofNat 11 (e + 1023 + 52).toNat)
            (BitVec.ofNat 52 m)
        else packComponents Format.binary64 s 0#11 (BitVec.ofNat 52 m) := rfl
    have hones : (-1#11).toNat = 2047 := by decide
    rw [hpack, if_neg (by omega)]
    split
    · refine hunpack fun heq => ?_
      have hfield := congrArg BitVec.toNat heq
      rw [hones, BitVec.toNat_ofNat] at hfield
      omega
    · exact hunpack (by decide)
  | infinity s => exact h.elim
  | notANumber => exact h.elim

/-! ### Rounding -/

theorem mantissa_shift_le (em : ExtendedMantissa) (n : Nat) :
    (em >>> n).mantissa ≤ em.mantissa := by
  induction n with
  | zero => exact Nat.le_refl _
  | succ n ih => exact Nat.le_trans (Nat.div_le_self _ 2) ih

theorem roundedMantissa_le (em : ExtendedMantissa) : em.roundedMantissa ≤ em.mantissa + 1 := by
  rw [ExtendedMantissa.roundedMantissa]
  cases em.accuracy with
  | exact => exact Nat.le_succ _
  | inexact o =>
    cases o with
    | lt => exact Nat.le_succ _
    | eq =>
      show em.mantissa + em.mantissa % 2 ≤ em.mantissa + 1
      omega
    | gt => exact Nat.le_refl _

/-- A shift raises the exponent only as far as the significand is too long. -/
theorem exponent_shift (m : Nat) (e : Int) (a : Accuracy) :
    (shiftToTargetExponent Format.binary64 m e a).2 =
      max e (max (m.log2 + 1 + e - 53) (-1074)) := by
  have htarget : Format.binary64.targetExponent (totalExponent m e) =
      max (m.log2 + 1 + e - 53) (-1074) := rfl
  simp only [shiftToTargetExponent, shiftToExponent, htarget]
  omega

theorem log2_le {m : Nat} (h : m < 0x2000000000000000000000000000000) : m.log2 ≤ 120 := by
  by_cases hm : m = 0
  · simp [hm]
  · exact Nat.lt_succ_iff.mp ((Nat.log2_lt hm).mpr h)

theorem inRange_round {s : Sign} {m : Nat} {e : Int}
    (hm : m < 0x1000000000000000000000000000000) (he : e ≤ 0) :
    InRange (roundWithAccuracy Format.binary64 s m e .exact) := by
  have hmantissa : (shiftToTargetExponent Format.binary64 m e .exact).1.mantissa ≤ m :=
    mantissa_shift_le _ _
  have hexponent := exponent_shift m e .exact
  have hlog := log2_le (hm.trans (by decide))
  unfold roundWithAccuracy
  -- Rounding up may lengthen the significand by one, so it is shifted twice.
  generalize shiftToTargetExponent Format.binary64 m e .exact = first at *
  obtain ⟨em, e₁⟩ := first
  dsimp only at hmantissa hexponent ⊢
  have hexponent' := exponent_shift em.roundedMantissa e₁ .exact
  have hround := roundedMantissa_le em
  have hlog' := log2_le (m := em.roundedMantissa) (by omega)
  generalize shiftToTargetExponent Format.binary64 em.roundedMantissa e₁ .exact = second at *
  obtain ⟨em', e₂⟩ := second
  dsimp only at hexponent' ⊢
  by_cases hzero : em'.mantissa = 0
  · rw [dif_pos hzero]
    trivial
  · rw [dif_neg hzero]
    show e₂ < 972
    omega

/-! ### Integers -/

theorem inRange_ofScientific {n : Nat} (hne : n ≠ 0) (h : n < 0x10000000000000000) :
    InRange (UnpackedFloat.ofScientific Format.binary64 n 0) := by
  have hpower : (0 : Int) ≤ 2 ^ Format.binary64.exponentBits := by decide
  have hexponent : (-53 : Int) ≤ 0 := by decide
  have hlong : n <<< 53 < 0x1000000000000000000000000000000 := by
    rw [Nat.shiftLeft_eq]
    omega
  have hround : UnpackedFloat.ofScientific Format.binary64 n 0 =
      roundWithAccuracy Format.binary64 .positive (n <<< 53) (-53) .exact := by
    have hone : (n <<< 53) * 10 ^ Int.toNat 0 = n <<< 53 := Nat.mul_one _
    unfold UnpackedFloat.ofScientific
    rw [dif_neg hne, if_neg (by omega), if_neg (by omega), if_pos (Int.le_refl _), ← hone]
    rfl
  rw [hround]
  -- With the digits in sight the unifier would compute the shift.
  generalize n <<< 53 = m at *
  exact inRange_round hlong hexponent

/-- Below the bound of exact integers a conversion takes another way. -/
theorem ofNat_eq_model {n : Nat} (hl : 0x20000000000000 ≤ n) : Float.ofNat n =
    .ofModel (.pack (UnpackedFloat.ofScientific Format.binary64 n 0)) := by
  have hslow : ¬(n < 2 ^ 53 ∧ 0 ≤ 22) := by omega
  exact dif_neg hslow

theorem isFinite_ofNat {n : Nat} (hl : 0x20000000000000 ≤ n) (h : n < 0x10000000000000000) :
    (Float.ofNat n).isFinite = true := by
  have hrange := inRange_ofScientific (by omega) h
  rw [ofNat_eq_model hl]
  exact isFinite_pack hrange

/-- An integer of 64 bits that is no signed one becomes a finite double. -/
theorem isFinite_ofInt {n : Int} (hl : Json.signedBound ≤ n) (h : n < Json.unsignedBound) :
    (Float.ofInt n).isFinite = true := by
  simp only [Json.signedBound, Json.unsignedBound] at hl h
  obtain ⟨k, rfl⟩ := Int.eq_ofNat_of_zero_le (by omega : 0 ≤ n)
  have hlow : 0x20000000000000 ≤ k := by omega
  have hhigh : k < 0x10000000000000000 := by omega
  exact isFinite_ofNat hlow hhigh

end ApiContext
