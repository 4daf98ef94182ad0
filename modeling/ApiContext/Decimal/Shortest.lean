/-! The fewest decimal digits that read back as a given double, by exact arithmetic on its bits.
A decimal grid holds the multiples of one power of ten; the first grid, from coarse to fine, with a
point that rounds to the double gives the digits. -/
namespace ApiContext.Decimal

/-- The number `digits * 10 ^ exponent`. -/
structure Scientific where
  digits : Nat
  exponent : Int

/-- A positive value `num / den` with the bounds of what rounds to it, over the same denominator. -/
structure Interval where
  low : Nat
  num : Nat
  high : Nat
  den : Nat
  closed : Bool

/-- The reals that round to `m * 2 ^ q`. The gap below is half as wide at a power of two, unless the
exponent is the least one. -/
def interval (m : Nat) (q : Int) (narrow : Bool) : Interval :=
  let up := Nat.pow 2 (q - 2).toNat
  { low := (4 * m - if narrow then 1 else 2) * up
    num := 4 * m * up
    high := (4 * m + 2) * up
    den := Nat.pow 2 (2 - q).toNat
    closed := m % 2 == 0 }

def Interval.contains (i : Interval) (point unit : Nat) : Bool :=
  if i.closed then i.low ≤ point * unit && point * unit ≤ i.high
  else i.low < point * unit && point * unit < i.high

/-- The value over the grid of the multiples of `10 ^ e`. -/
def Interval.scale (i : Interval) (e : Int) : Interval :=
  let up := Nat.pow 10 (-e).toNat
  { i with
    low := i.low * up, num := i.num * up, high := i.high * up, den := i.den * Nat.pow 10 e.toNat }

/-- Of the two neighbours of the value on the grid, the nearer one that rounds to it; a tie goes to
the even one. -/
def Interval.nearest? (i : Interval) : Option Nat :=
  let below := i.num / i.den
  let above := below + 1
  match i.contains below i.den, i.contains above i.den with
  | false, false => none
  | true, false => some below
  | false, true => some above
  | true, true =>
    let twice := 2 * (i.num - below * i.den)
    if twice < i.den || (twice == i.den && below % 2 == 0) then some below else some above

/-- Tries `grids` grids, from `10 ^ e` on to finer ones. -/
def Interval.search (i : Interval) : (grids : Nat) → (e : Int) → Scientific
  | 0, e => ⟨(i.scale e).num / (i.scale e).den, e⟩
  | grids + 1, e =>
    match (i.scale e).nearest? with
    | some digits => ⟨digits, e⟩
    | none => i.search grids (e - 1)

/-- The first grid is coarser than any with a hit, as `0.30103` exceeds the logarithm of two, and
seventeen digits always suffice. -/
def shortestOf (m : Nat) (q : Int) (narrow : Bool) : Scientific :=
  (interval m q narrow).search 20 ((m.log2 + 1 + q) * 30103 / 100000 + 1)

/-- The leading bit of a significand, which a double does not store. -/
def hiddenBit : Nat := 0x10000000000000

/-- Also the number of doubles that are not negative. -/
def signBit : Nat := 0x8000000000000000

/-- The digits of a finite double other than zero, given by its bits without the sign. -/
def shortest (bits : Nat) : Scientific :=
  let fraction := bits % hiddenBit
  let biased : Nat := bits / hiddenBit % 0x800
  if biased = 0 then shortestOf fraction (-1074) false
  else shortestOf (hiddenBit + fraction) ((biased : Int) - 1075) (fraction == 0 && biased != 1)

/-- Which decimal exponents are written with a plain point: from `least` up to below `limit`. -/
structure Style where
  least : Int
  limit : Int

def zeros (n : Nat) : List Char := List.replicate n '0'

/-- A plain number keeps at least one decimal. -/
def plain (digits : List Char) (e : Int) : List Char :=
  if 0 ≤ e then digits ++ zeros e.toNat ++ ['.', '0']
  else
    let places := (-e).toNat
    if places < digits.length then
      digits.take (digits.length - places) ++ '.' :: digits.drop (digits.length - places)
    else '0' :: '.' :: zeros (places - digits.length) ++ digits

/-- One digit before the point, no point for a single digit, and a signed exponent. -/
def scientific (digits : List Char) (e : Int) : List Char :=
  let sign := if e < 0 then '-' else '+'
  let exponent := 'e' :: sign :: Nat.toDigits 10 e.natAbs
  match digits with
  | [d] => d :: exponent
  | d :: rest => d :: '.' :: rest ++ exponent
  | [] => exponent

def Scientific.text (style : Style) (s : Scientific) : List Char :=
  let digits := Nat.toDigits 10 s.digits
  let lead := s.exponent + digits.length - 1
  if style.least ≤ lead && lead < style.limit then plain digits s.exponent
  else scientific digits lead

/-- The text of a finite double; zero keeps its sign. -/
def text (style : Style) (x : Float) : List Char :=
  let bits := x.toBits.toNat
  let size := bits % signBit
  let unsigned := if size = 0 then ['0', '.', '0'] else (shortest size).text style
  if bits < signBit then unsigned else '-' :: unsigned

end ApiContext.Decimal
