import DoomPatch.Decimal.Rounding
import DoomPatch.Text.Numeral

/-!
# Written decimal fractions

A number may be written with a sign, a point and a power of ten, as in `-1.5e3`.

* `Literal.read?` — reads one; digits stand in front of the point, behind it, or both.
* `Literal.whole?` — the whole part of the nearest binary number; what is too large has none.
-/

namespace DoomPatch
namespace Decimal

/-- The number `digits · 10 ^ power`. -/
structure Literal where
  /-- Whether it is below zero. -/
  negative : Bool
  /-- The digits as a whole number. -/
  digits : Nat
  /-- The power of ten. -/
  power : Int

namespace Literal

/-- The exponent of a number: none, or a mark, a sign and digits. -/
def exponent? : List Char → Option Int
  | [] => some 0
  | mark :: cs =>
    let (negative, ds) := Numeral.splitSign cs
    if mark = 'e' ∨ mark = 'E' then
      (Numeral.readNat? 10 ds).map fun n => if negative then -Int.ofNat n else Int.ofNat n
    else none

/-- Reads a number. -/
def read? (cs : List Char) : Option Literal :=
  let (negative, body) := Numeral.splitSign cs
  let front := body.takeWhile Char.isDigit
  let tail := body.dropWhile Char.isDigit
  let (back, tail) :=
    match tail with
    | '.' :: r => (r.takeWhile Char.isDigit, r.dropWhile Char.isDigit)
    | r => ([], r)
  if front.isEmpty && back.isEmpty then none
  else
    (exponent? tail).map fun power =>
      ⟨negative, (Numeral.readNat? 10 (front ++ back)).getD 0, power - Int.ofNat back.length⟩

/-- The whole part of the nearest binary number, without its sign; none if it needs more than 1024 bits. -/
def whole? (x : Literal) : Option Nat :=
  let places := Int.ofNat (Numeral.render 10 x.digits).length + x.power
  if x.digits = 0 ∨ places < -30 then some 0
  else if 400 < places then none
  else
    let n := (Binary.ofRatio (x.digits * Nat.pow 10 x.power.toNat) (Nat.pow 10 (-x.power).toNat)).whole
    if n < 1 <<< 1024 then some n else none

end Literal
end Decimal
end DoomPatch
