/-!
# White space

The white space characters of Unicode, and texts without white space at their ends.
-/

namespace DoomPatch
namespace Text

/-- Whether a character is white space.  Zero-width characters are not. -/
def isBlank (c : Char) : Bool :=
  let n := c.toNat
  (0x09 ≤ n && n ≤ 0x0D) || n == 0x20 || n == 0x85 || n == 0xA0 || n == 0x1680
    || (0x2000 ≤ n && n ≤ 0x200A) || n == 0x2028 || n == 0x2029 || n == 0x202F || n == 0x205F || n == 0x3000

/-- Drops the white space at both ends. -/
def trimChars (cs : List Char) : List Char :=
  ((cs.dropWhile isBlank).reverse.dropWhile isBlank).reverse

/-- Drops the white space at both ends of a text. -/
def trim (s : String) : String := String.ofList (trimChars s.toList)

end Text
end DoomPatch
