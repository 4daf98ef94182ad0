import ApiContext.Decimal.Shortest
import ApiContext.Text.Digits

/-! The double of a decimal literal. The leading digits make a significand of 64 bits and the others
are dropped. The significand is rounded to a double, then scaled by a power of ten and rounded again,
so the last place may differ from that of the nearest double. -/
namespace ApiContext.Decimal
open Text

def significandBound : Nat := 0x10000000000000000

/-- Appends digits of the integer part. The first one without room in the significand and those
behind it only raise the exponent. -/
def readWhole (n : Nat) : List Char → Scientific
  | [] => ⟨n, 0⟩
  | c :: rest =>
    let next := 10 * n + digitValue c
    if next < significandBound then readWhole next rest else ⟨n, rest.length + 1⟩

/-- Appends digits of the fraction, up to the first one without room in the significand. -/
def Scientific.readFraction (s : Scientific) : List Char → Scientific
  | [] => s
  | c :: rest =>
    let next := 10 * s.digits + digitValue c
    if next < significandBound then readFraction ⟨next, s.exponent - 1⟩ rest else s

/-- The powers of ten up to this one are finite doubles. -/
def greatestPower : Nat := 308

def powerOfTen (k : Nat) : Float := .ofScientific 1 false k

/-- `x * 10 ^ e`, one rounding for each power of ten that it takes; none if `e` alone puts it beyond
the doubles. -/
def scale (x : Float) (e : Int) : Option Float :=
  if e.natAbs ≤ greatestPower then
    some (if e < 0 then x / powerOfTen e.natAbs else x * powerOfTen e.natAbs)
  else if x == 0 then some x
  else if 0 < e then none
  else scale (x / powerOfTen greatestPower) (e + greatestPower)
termination_by e.natAbs
decreasing_by simp only [greatestPower] at *; omega

/-- The double of a number given by its digits before and after the point and its exponent; infinite
where the scaling overflows. -/
def float? (whole fraction : List Char) (e : Int) : Option Float :=
  let s := (readWhole 0 whole).readFraction fraction
  scale (.ofNat s.digits) (s.exponent + e)

end ApiContext.Decimal
