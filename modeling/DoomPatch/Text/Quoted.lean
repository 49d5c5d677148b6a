import DoomPatch.Text.PrintableRanges
import DoomPatch.Text.Numeral

/-!
# Quoted text in messages

A message shows foreign text between double quotes.  Quotes and backslashes are escaped, printable
characters stand for themselves, and every other character is written as an escape: a letter for the
common controls, two hexadecimal digits below U+0080, four or eight digits above.
-/

namespace DoomPatch
namespace Text

/-- Whether a character is shown as it is: ASCII from space to tilde, and the printable characters above. -/
def isPrintable (c : Char) : Bool :=
  let n := c.toNat
  if n < 0x80 then 0x20 ≤ n && n < 0x7F
  else printableRanges.any fun r => r.1 ≤ n && n ≤ r.2

/-- A number in hexadecimal with at least `width` digits. -/
def hexPadded (width n : Nat) : List Char := Numeral.padLeft width (Numeral.render 16 n)

/-- One character as it stands between quotes of a kind. -/
def escapeChar (quote c : Char) : List Char :=
  if c = quote ∨ c = '\\' then ['\\', c]
  else if isPrintable c then [c]
  else
    match c.toNat with
    | 0x07 => ['\\', 'a']
    | 0x08 => ['\\', 'b']
    | 0x0C => ['\\', 'f']
    | 0x0A => ['\\', 'n']
    | 0x0D => ['\\', 'r']
    | 0x09 => ['\\', 't']
    | 0x0B => ['\\', 'v']
    | n =>
      if n < 0x80 then '\\' :: 'x' :: hexPadded 2 n
      else if n < 0x10000 then '\\' :: 'u' :: hexPadded 4 n
      else '\\' :: 'U' :: hexPadded 8 n

/-- A text between double quotes. -/
def quoted (s : String) : String :=
  String.ofList ('"' :: s.toList.flatMap (escapeChar '"') ++ ['"'])

/-- A character between single quotes. -/
def quotedChar (c : Char) : String := String.ofList ('\'' :: escapeChar '\'' c ++ ['\''])

end Text
end DoomPatch
