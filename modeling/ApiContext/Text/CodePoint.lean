/-! Sets and shifts of code points, as Unicode tables give them: spans with a stride, and spans
moved by a fixed distance. -/
namespace ApiContext.Text

/-- The code points `first`, `first + step`, … up to `last`. -/
structure Span where
  first : Nat
  last : Nat
  step : Nat

def Span.contains (s : Span) (n : Nat) : Bool :=
  s.first ≤ n && n ≤ s.last && (n - s.first) % s.step == 0

/-- A span whose code points are all mapped by the same distance. -/
structure Shift where
  span : Span
  distance : Int

def Shift.apply (s : Shift) (n : Nat) : Nat := (n + s.distance).toNat

def inSpans (spans : List Span) (c : Char) : Bool := spans.any (·.contains c.toNat)

/-- Characters for which no table is searched. -/
def isAscii (c : Char) : Bool := c.toNat < 128

end ApiContext.Text
