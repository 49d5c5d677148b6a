/-!
# Rounding

Exact rational arithmetic on natural numbers for the two ways a number of the patch is written as a
decimal fraction.

* `roundHalfEven` — the quotient of two numbers rounded to nearest, a half to the even neighbour.
* `round53` — the nearest number of at most 53 significant bits.
* `Binary` — a number `mantissa · 2 ^ exponent`; `Binary.ofNat` is normalised to a 53-bit mantissa.
* `Binary.ofRatio` — the nearest number with a 53-bit mantissa to a quotient.
-/

namespace DoomPatch
namespace Decimal

/-- The quotient rounded to nearest; a half goes to the even neighbour. -/
def roundHalfEven (num den : Nat) : Nat :=
  let q := num / den
  let r := num % den
  if 2 * r < den then q
  else if den < 2 * r then q + 1
  else if q % 2 = 0 then q else q + 1

/-- The nearest number of at most 53 significant bits; a half goes to the even mantissa. -/
def round53 (n : Nat) : Nat :=
  if n < 1 <<< 53 then n
  else
    let s := n.log2 - 52
    roundHalfEven n (1 <<< s) <<< s

/-- The number `mantissa · 2 ^ exponent`. -/
structure Binary where
  /-- The whole factor. -/
  mantissa : Nat
  /-- The power of two. -/
  exponent : Int

/-- A positive number of at most 53 significant bits with its mantissa brought to exactly 53 bits. -/
def Binary.ofNat (n : Nat) : Binary :=
  let s := n.log2
  if s ≤ 52 then ⟨n <<< (52 - s), -((52 - s : Nat) : Int)⟩
  else ⟨n >>> (s - 52), ((s - 52 : Nat) : Int)⟩

/-- The number divided by a power of two. -/
def Binary.shiftRight (b : Binary) (k : Nat) : Binary := ⟨b.mantissa, b.exponent - k⟩

/-- A quotient times a power of two, as a quotient. -/
def scaled (num den : Nat) (k : Int) : Nat × Nat := (num <<< k.toNat, den <<< (-k).toNat)

/-- The nearest number with a 53-bit mantissa to a quotient; a half goes to the even mantissa. -/
def Binary.ofRatio (num den : Nat) : Binary :=
  let up : Int := 53 + den.log2 - num.log2
  let (n, d) := scaled num den up
  let k := if d <<< 53 ≤ n then up - 1 else up
  let (n, d) := scaled num den k
  ⟨roundHalfEven n d, -k⟩

/-- The number as a quotient. -/
def Binary.ratio (b : Binary) : Nat × Nat := (b.mantissa <<< b.exponent.toNat, 1 <<< (-b.exponent).toNat)

/-- The nearest number with a 53-bit mantissa to a product. -/
def Binary.mul (a b : Binary) : Binary :=
  Binary.ofRatio (a.ratio.1 * b.ratio.1) (a.ratio.2 * b.ratio.2)

/-- The number without its fraction. -/
def Binary.whole (b : Binary) : Nat := b.ratio.1 / b.ratio.2

end Decimal
end DoomPatch
