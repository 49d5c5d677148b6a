import DoomPatch.Decimal.Literal
import DoomPatch.Time.Stamp

/-!
# What YAML scalars stand for

A plain scalar without a tag stands for null, a truth value, a number or text, by its spelling.  A tag asks
for a type, which the spelling has to fit.

* `Value.ofPlain` — the value of a spelling.
* `Value.read?` — the value of a scalar with or without a tag.
* `Value.word?` — the signed 64-bit word that a number becomes.
-/

namespace DoomPatch
namespace Yaml

/-- What a scalar stands for. -/
inductive Value where
  /-- Nothing. -/
  | null
  /-- A truth value. -/
  | truth
  /-- A whole number. -/
  | whole (n : Int)
  /-- A binary fraction, and the word that it becomes if it is in reach. -/
  | fraction (word : Option Int)
  /-- A point in time. -/
  | time
  /-- Text. -/
  | text (s : String)
deriving DecidableEq

/-! ### Numbers -/

namespace Number

/-- The smallest word. -/
def least : Int := Int64.minValue.toInt

/-- A sign and digits of a base. -/
def signed? (base : Nat) (cs : List Char) : Option Int :=
  let (negative, ds) := Numeral.splitSign cs
  (Numeral.readNat? base ds).map fun n => if negative then -Int.ofNat n else Int.ofNat n

/-- A whole number of any size: a sign, a base mark and digits.  A leading zero alone marks base 8.  Behind
the marks of base 2 and 8 there may be a sign again, if there is none in front. -/
def whole? (cs : List Char) : Option Int :=
  let (negative, body) := Numeral.splitSign cs
  let marked := fun (base : Nat) (ds : List Char) (again : Bool) =>
    match Numeral.readNat? base ds with
    | some n => some (Int.ofNat n)
    | none => if again && body.length = cs.length then (signed? base ds).filter Numeral.fits64 else none
  let n :=
    match body with
    | '0' :: m :: d :: ds =>
      if m = 'x' ∨ m = 'X' then marked 16 (d :: ds) false
      else if m = 'o' ∨ m = 'O' then marked 8 (d :: ds) (m = 'o')
      else if m = 'b' ∨ m = 'B' then marked 2 (d :: ds) (m = 'b')
      else marked 8 (m :: d :: ds) false
    | ['0', d] => marked 8 [d] false
    | _ => marked 10 body false
  n.map fun n => if negative then -n else n

/-- The word of a number without its fraction.  What is too small, or just one too large, becomes the least
word. -/
def word? (negative : Bool) (n : Nat) : Option Int :=
  if negative then some (max (-(n : Int)) least)
  else if n < least.natAbs then some n
  else if n = least.natAbs then some least
  else none

/-- The value of a decimal fraction. -/
def fractionValue? (cs : List Char) : Option Value :=
  (Decimal.Literal.read? cs).bind fun x => x.whole?.map fun n => .fraction (word? x.negative n)

/-- The value that a whole number has as a binary fraction. -/
def ofWhole (n : Int) : Value :=
  .fraction (word? (n < 0) (Decimal.round53 n.natAbs))

/-- Drops underscores that stand between two digits; any other is refused. -/
def joinDigits? : List Char → Option (List Char)
  | [] => some []
  | c :: '_' :: d :: cs =>
    if c.isDigit && d.isDigit then (joinDigits? (d :: cs)).map (c :: ·) else none
  | c :: cs => if c = '_' then none else (joinDigits? cs).map (c :: ·)

/-- The value of a number: a whole one within 64 bits, signed or not, or else a decimal fraction. -/
def value? (cs : List Char) : Option Value :=
  match whole? cs with
  | some n =>
    let unsigned := (cs.head?.map Char.isDigit).getD false
    if Numeral.fits64 n || (unsigned && 0 ≤ n && n < UInt64.size) then some (.whole n) else fractionValue? cs
  | none => fractionValue? cs

end Number

/-! ### Points in time -/

namespace Moment

/-- Reads a number of one or two digits. -/
def short? (cs : List Char) : Option (Int × List Char) :=
  (Stamp.digits? 2 cs).orElse fun _ => Stamp.digits? 1 cs

/-- Reads a date, of which month and day may have one digit. -/
def date? (cs : List Char) : Option (List Char) := do
  let (year, cs) ← Stamp.digits? 4 cs
  let cs ← Stamp.skip? '-' cs
  let (month, cs) ← short? cs
  let cs ← Stamp.skip? '-' cs
  let (day, cs) ← short? cs
  if (Date.mk year month day).isValid then some cs else none

/-- Reads a time of day, of which each part may have one digit. -/
def clock? (cs : List Char) : Option (List Char) := do
  let (hour, cs) ← short? cs
  let cs ← Stamp.skip? ':' cs
  let (minute, cs) ← short? cs
  let cs ← Stamp.skip? ':' cs
  let (second, cs) ← short? cs
  let (_, cs) ← Stamp.readFraction? cs
  if hour < 24 ∧ minute < 60 ∧ second < 60 then some cs else none

/-- Whether a text is a date, alone or with a time of day: behind a space, or behind a T and with an
offset. -/
def isSpelled (text : String) : Bool :=
  match date? text.toList with
  | none => false
  | some [] => true
  | some (mark :: cs) =>
    match clock? cs with
    | none => false
    | some rest =>
      if mark = ' ' then rest.isEmpty
      else (mark = 'T' || mark = 't') && (Stamp.readOffset? rest).isSome

end Moment

/-! ### Bytes in base 64 -/

namespace Base64

/-- The value of a digit. -/
def digit? (c : Char) : Option Nat :=
  if 'A' ≤ c ∧ c ≤ 'Z' then some (c.toNat - 65)
  else if 'a' ≤ c ∧ c ≤ 'z' then some (c.toNat - 71)
  else if '0' ≤ c ∧ c ≤ '9' then some (c.toNat + 4)
  else if c = '+' then some 62
  else if c = '/' then some 63
  else none

/-- The bytes of groups of four digits.  The last group may be filled up with equals signs. -/
def bytes? : List Char → Option (List Nat)
  | [] => some []
  | [a, b, '=', '='] => do
    let (a, b) := (← digit? a, ← digit? b)
    return [a * 4 + b / 16]
  | [a, b, c, '='] => do
    let (a, b, c) := (← digit? a, ← digit? b, ← digit? c)
    return [a * 4 + b / 16, b % 16 * 16 + c / 4]
  | a :: b :: c :: d :: rest => do
    let (a, b, c, d) := (← digit? a, ← digit? b, ← digit? c, ← digit? d)
    return [a * 4 + b / 16, b % 16 * 16 + c / 4, c % 4 * 64 + d] ++ (← bytes? rest)
  | _ => none

/-- Reads the bytes that belong to one character.  A byte that starts none becomes a replacement character. -/
def character (first : Nat) (rest : List Nat) : Char × List Nat :=
  let (width, bits, least) :=
    if first < 0x80 then (0, first, 0)
    else if first / 32 = 6 then (1, first % 32, 0x80)
    else if first / 16 = 14 then (2, first % 16, 0x800)
    else if first / 8 = 30 then (3, first % 8, 0x10000)
    else (0, 0, 1)
  let tail := rest.take width
  let n := tail.foldl (fun n b => n * 64 + b % 64) bits
  if tail.length = width ∧ tail.all (· / 64 == 2) ∧ least ≤ n ∧ n.isValidChar then
    (Char.ofNat n, rest.drop width)
  else ('\ufffd', rest)

/-- The characters of bytes. -/
def characters : Nat → List Nat → List Char
  | fuel + 1, first :: rest =>
    let (c, rest) := character first rest
    c :: characters fuel rest
  | _, _ => []

/-- The text of bytes. -/
def textOf (bytes : List Nat) : String := String.ofList (characters bytes.length bytes)

/-- The text that is written in base 64.  Line breaks do not count. -/
def decode? (text : String) : Option String :=
  (bytes? (text.toList.filter fun c => c != '\n' && c != '\r')).map textOf

end Base64

/-! ### Values -/

namespace Value

/-- Whether two values have the same type. -/
def sameType : Value → Value → Bool
  | null, null | truth, truth | whole _, whole _ | fraction _, fraction _ | time, time | text _, text _ => true
  | _, _ => false

/-- The values that are spelled as words. -/
def words : List (String × Value) :=
  ["", "~", "null", "Null", "NULL"].map (·, null)
    ++ ["true", "True", "TRUE", "false", "False", "FALSE"].map (·, truth)
    ++ [".nan", ".NaN", ".NAN", ".inf", ".Inf", ".INF", "+.inf", "+.Inf", "+.INF"].map (·, fraction none)
    ++ ["-.inf", "-.Inf", "-.INF"].map (·, fraction (some Number.least))

/-- The value of a spelling.  Underscores in numbers do not count; in those that start with a point they may
stand between digits only. -/
def ofPlain (s : String) : Value :=
  match words.lookup s with
  | some v => v
  | none =>
    match s.toList with
    | [] => null
    | c :: cs =>
      let found :=
        if c == '.' then (Number.joinDigits? (c :: cs)).bind Number.fractionValue?
        else if c.isDigit || c == '+' || c == '-' then Number.value? ((c :: cs).filter (· != '_'))
        else none
      found.getD (text s)

/-- The value of a spelling whose tag asks for the type of a sample. -/
def ofTyped? (sample : Value) (s : String) : Option Value :=
  match sample, ofPlain s with
  | fraction _, whole n => if Numeral.fits64 n then some (Number.ofWhole n) else none
  | _, v => if v.sameType sample then some v else none

/-- The value of a scalar.  A tag that is not known asks for nothing. -/
def read? (tag : Option String) (s : String) (plain : Bool) : Option Value :=
  match tag with
  | none => some (if plain then ofPlain s else text s)
  | some "!!null" => ofTyped? null s
  | some "!!bool" => ofTyped? truth s
  | some "!!int" => ofTyped? (whole 0) s
  | some "!!float" => ofTyped? (fraction none) s
  | some "!!timestamp" => if Moment.isSpelled s then some time else none
  | some "!!binary" => (Base64.decode? s).map text
  | some _ => some (text s)

/-- The word that a number becomes. -/
def word? : Value → Option Int
  | whole n => if Numeral.fits64 n then some n else none
  | fraction word => word
  | _ => none

end Value
end Yaml
end DoomPatch
