import DoomPatch.Decimal.Rounding
import DoomPatch.Text.Numeral

/-!
# Durations

A duration is a number of nanoseconds.  It is written as a sign and terms, each a decimal number with a
unit, as in `1h30m` or `-1.5h`; zero needs no unit.
-/

namespace DoomPatch
namespace Duration

/-- A second. -/
def second : Int := 1000000000

/-- A week. -/
def week : Int := 7 * 24 * 3600 * second

/-- The length of a unit. -/
def unit? (name : List Char) : Option Nat :=
  [("ns", 1), ("us", 1000), ("µs", 1000), ("μs", 1000), ("ms", 1000000), ("s", 1000000000),
    ("m", 60000000000), ("h", 3600000000000)].lookup (String.ofList name)

/-- The greatest magnitude. -/
def limit : Nat := Int64.minValue.toInt.natAbs

/-- The digits of a fraction that count, as a number and a power of ten. -/
def fraction (value scale : Nat) : List Char → Nat × Nat
  | [] => (value, scale)
  | c :: cs =>
    let next := value * 10 + (c.toNat - 48)
    if (limit - 1) / 10 < value ∨ limit < next then (value, scale) else fraction next (scale * 10) cs

/-- The part of a unit that a fraction makes, in binary arithmetic, without what is left of a nanosecond. -/
def fractionOf (value scale unit : Nat) : Nat :=
  if value = 0 then 0
  else ((Decimal.Binary.ofRatio value 1).mul (Decimal.Binary.ofRatio unit scale)).whole

/-- Whether a character belongs to a number. -/
def isNumeric (c : Char) : Bool := c == '.' || c.isDigit

/-- Reads one term. -/
def term? (cs : List Char) : Option (Nat × List Char) :=
  let front := cs.takeWhile Char.isDigit
  let rest := cs.dropWhile Char.isDigit
  let (back, rest) :=
    match rest with
    | '.' :: r => (r.takeWhile Char.isDigit, r.dropWhile Char.isDigit)
    | r => ([], r)
  if front.isEmpty && back.isEmpty then none
  else do
    let whole := (Numeral.readNat? 10 front).getD 0
    let name := rest.takeWhile fun c => !isNumeric c
    let unit ← unit? name
    let (value, scale) := fraction 0 1 back
    let total := whole * unit + fractionOf value scale unit
    if limit < whole ∨ limit / unit < whole ∨ limit < total then none
    else some (total, rest.drop name.length)

/-- Reads terms up to the end. -/
def terms? (sum : Nat) : Nat → List Char → Option Nat
  | 0, _ => none
  | _ + 1, [] => some sum
  | fuel + 1, cs =>
    (term? cs).bind fun (n, rest) => if limit < sum + n then none else terms? (sum + n) fuel rest

/-- Reads a duration. -/
def read? (text : String) : Option Int :=
  let (negative, body) := Numeral.splitSign text.toList
  if body = ['0'] then some 0
  else if body.isEmpty then none
  else
    (terms? 0 (body.length + 1) body).bind fun n =>
      if negative then some (-(n : Int)) else if n < limit then some n else none

end Duration
end DoomPatch
