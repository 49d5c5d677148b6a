/-!
# Numerals

Writing and reading whole numbers.

* `digits` — the digits of a number in a base, most significant first.
* `render` — the numeral of a number with the digits `0 … 9 a … z`.
* `padLeft` — a numeral filled up with zeros to a width.
* `readNat?` — the number a string of digits of a base means; no sign, no separator, at least one digit.
* `readSigned?` — an optional sign and a decimal numeral, within the signed 64-bit range.
-/

namespace DoomPatch
namespace Numeral

/-- The digits of a number, most significant first.  Zero has one digit. -/
def digits (base n : Nat) : List Nat :=
  if _h : n < base ∨ base < 2 then [n]
  else digits base (n / base) ++ [n % base]
termination_by n
decreasing_by
  have hb : 2 ≤ base := by omega
  have hn : 0 < n := by omega
  exact Nat.div_lt_self hn hb

/-- The character of a digit below 36. -/
def digitChar (d : Nat) : Char :=
  if d < 10 then Char.ofNat ('0'.toNat + d) else Char.ofNat ('a'.toNat + (d - 10))

/-- The value of a digit character of either case; at most 35. -/
def digitValue? (c : Char) : Option Nat :=
  if '0' ≤ c ∧ c ≤ '9' then some (c.toNat - '0'.toNat)
  else if 'a' ≤ c ∧ c ≤ 'z' then some (c.toNat - 'a'.toNat + 10)
  else if 'A' ≤ c ∧ c ≤ 'Z' then some (c.toNat - 'A'.toNat + 10)
  else none

/-- The numeral of a number in a base up to 36, in lower case. -/
def render (base n : Nat) : List Char := (digits base n).map digitChar

/-- The numeral of an integer; a minus sign stands in front of a negative one. -/
def renderInt (base : Nat) (n : Int) : List Char :=
  if n < 0 then '-' :: render base n.natAbs else render base n.natAbs

/-- The lower case hexadecimal numeral, without leading zeros. -/
def hex (n : Nat) : String := String.ofList (render 16 n)

/-- Fills a list of characters up to a width with zeros on the left. -/
def padLeft (width : Nat) (cs : List Char) : List Char :=
  List.replicate (width - cs.length) '0' ++ cs

/-- Fills a decimal numeral up to a width with zeros, after the sign, which counts. -/
def padInt (width : Nat) (n : Int) : String :=
  String.ofList <|
    if n < 0 then '-' :: padLeft (width - 1) (render 10 n.natAbs) else padLeft width (render 10 n.natAbs)

/-- Continues to read digits of a base behind a number read so far. -/
def readFrom (base : Nat) (acc : Nat) : List Char → Option Nat
  | [] => some acc
  | c :: rest =>
    match digitValue? c with
    | some d => if d < base then readFrom base (acc * base + d) rest else none
    | none => none

/-- The number that a non-empty string of digits of a base means. -/
def readNat? (base : Nat) (cs : List Char) : Option Nat :=
  if cs.isEmpty then none else readFrom base 0 cs

/-- Whether an integer fits a signed 64-bit word. -/
def fits64 (n : Int) : Bool := Int64.minValue.toInt ≤ n && n ≤ Int64.maxValue.toInt

/-- Splits an optional sign off; `true` means negative. -/
def splitSign : List Char → Bool × List Char
  | '-' :: rest => (true, rest)
  | '+' :: rest => (false, rest)
  | cs => (false, cs)

/-- An optionally signed decimal numeral within the signed 64-bit range. -/
def readSigned? (cs : List Char) : Option Int :=
  let (negative, body) := splitSign cs
  match readNat? 10 body with
  | none => none
  | some n =>
    let v : Int := if negative then -(n : Int) else n
    if fits64 v then some v else none

end Numeral
end DoomPatch
