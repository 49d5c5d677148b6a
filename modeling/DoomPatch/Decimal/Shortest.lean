import DoomPatch.Decimal.Rounding

/-!
# The shortest decimal of a binary number

A 53-bit binary number is written with the fewest digits that read back to the same number.  The numbers
that read back form an interval around it, reaching half-way to the neighbours; the ends belong to it
exactly when the mantissa is even.  The grids `10 ^ k` are tried from the coarsest on: the first grid with
a point in the interval decides the number of digits, and of the two grid points next to the number the
nearer one is taken, on a tie the even one.
-/

namespace DoomPatch
namespace Decimal

/-- A positive binary number and the ends of the interval that reads back to it, over one denominator. -/
structure Neighbourhood where
  /-- The lower end. -/
  low : Nat
  /-- The number itself. -/
  value : Nat
  /-- The upper end. -/
  high : Nat
  /-- The common denominator. -/
  denominator : Nat
  /-- Whether the ends read back to the number too. -/
  closed : Bool

/-- The interval around a number with a 53-bit mantissa.  Below a power of two the neighbour is half as
far away. -/
def Binary.neighbourhood (b : Binary) : Neighbourhood :=
  let v := 4 * b.mantissa
  let l := if b.mantissa = 1 <<< 52 then v - 1 else v - 2
  let e := b.exponent - 2
  let up := e.toNat
  ⟨l <<< up, v <<< up, (v + 2) <<< up, 1 <<< (-e).toNat, b.mantissa % 2 = 0⟩

/-- A decimal `digits · 10 ^ exponent`. -/
structure Scientific where
  /-- The digits as a whole number. -/
  digits : Nat
  /-- The power of ten. -/
  exponent : Int
deriving DecidableEq, Repr

namespace Neighbourhood

/-- Whether `a / d`, brought to the denominator of the interval, lies in it. -/
def holds (n : Neighbourhood) (a d : Nat) : Bool :=
  let x := a * n.denominator
  if n.closed then n.low * d ≤ x && x ≤ n.high * d else n.low * d < x && x < n.high * d

/-- The point of the grid `10 ^ k` to write, when the grid meets the interval. -/
def onGrid (n : Neighbourhood) (k : Int) : Option Scientific :=
  let up := Nat.pow 10 k.toNat
  let down := Nat.pow 10 (-k).toNat
  let num := n.value * down
  let den := n.denominator * up
  let a := num / den
  let below := n.holds (a * up) down
  let above := n.holds ((a + 1) * up) down
  if below && above then some ⟨roundHalfEven num den, k⟩
  else if below then some ⟨a, k⟩
  else if above then some ⟨a + 1, k⟩
  else none

/-- Tries finer and finer grids. -/
def search (n : Neighbourhood) (k : Int) : Nat → Scientific
  | 0 => ⟨roundHalfEven (n.value * Nat.pow 10 (-k).toNat) (n.denominator * Nat.pow 10 k.toNat), k⟩
  | fuel + 1 => (n.onGrid k).getD (n.search (k - 1) fuel)

/-- The position of the leading digit: the largest `e` with `10 ^ e` at most the number. -/
def leading (n : Neighbourhood) : Int :=
  if n.denominator ≤ n.value then
    (((List.range 20).filter fun e => n.denominator * Nat.pow 10 e ≤ n.value).length : Int) - 1
  else
    -(((List.range 20).filter fun e => n.value * Nat.pow 10 e < n.denominator).length : Int)

/-- The shortest decimal, at most seventeen digits long. -/
def shortest (n : Neighbourhood) : Scientific := n.search n.leading 16

end Neighbourhood

/-- A decimal without an exponent: the digits with as many zeros, or the point, as the power asks for. -/
def Scientific.positional (d : Scientific) : String :=
  let ds := (toString d.digits).toList
  if 0 ≤ d.exponent then String.ofList (ds ++ List.replicate d.exponent.toNat '0')
  else
    let places := (-d.exponent).toNat
    let padded := List.replicate (places + 1 - ds.length) '0' ++ ds
    let whole := padded.length - places
    String.ofList (padded.take whole ++ '.' :: padded.drop whole)

end Decimal
end DoomPatch
