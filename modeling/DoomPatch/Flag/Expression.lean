import DoomPatch.Flag.Vocabulary
import DoomPatch.Text.Numeral

/-!
# Flag expressions

A flag expression such as `SOLID+SHOOTABLE|0x400` lists mnemonics and numbers between separators.  It
means the union of their bits; tokens that are neither are reported and contribute nothing.

* `tokens` — the maximal runs of other characters between separators.
* `readNumber?` — a hexadecimal numeral after `0x` below `2 ^ 32`, or a decimal numeral, optionally
  negative, of which the low 32 bits count.
* `parse` — the word and the unknown tokens of an expression.
-/

namespace DoomPatch
namespace FlagExpression

/-- Whether a character separates tokens. -/
def isSeparator (c : Char) : Bool := c == '+' || c == '|' || c == ',' || c == ' ' || c == '\t'

/-- Ends a token, given its characters in reverse; an empty one does not count. -/
def close (current : List Char) : List (List Char) :=
  if current.isEmpty then [] else [current.reverse]

/-- The tokens of an expression behind the characters, in reverse, of a token that is being read. -/
def tokensFrom (current : List Char) : List Char → List (List Char)
  | [] => close current
  | c :: rest => if isSeparator c then close current ++ tokensFrom [] rest else tokensFrom (c :: current) rest

/-- The tokens of an expression. -/
def tokens (cs : List Char) : List (List Char) := tokensFrom [] cs

/-- The bits of a numeral. -/
def readNumber? (token : List Char) : Option UInt32 :=
  match token with
  | '0' :: x :: d :: rest =>
    if x = 'x' ∨ x = 'X' then
      match Numeral.readNat? 16 (d :: rest) with
      | some n => if n < UInt32.size then some (UInt32.ofNat n) else none
      | none => none
    else (Numeral.readSigned? token).map Word.low32
  | c :: _ => if c = '-' ∨ c.isDigit then (Numeral.readSigned? token).map Word.low32 else none
  | [] => none

/-- What a token means: a numeral first, then a mnemonic. -/
def meaning? (v : Vocabulary) (token : List Char) : Option UInt32 :=
  (readNumber? token).or (v.lookup? token)

/-- The union of the bits of all tokens, and the tokens without a meaning. -/
def combine (v : Vocabulary) : List (List Char) → UInt32 × List (List Char)
  | [] => (0, [])
  | t :: rest =>
    let (word, unknown) := combine v rest
    match meaning? v t with
    | some bits => (bits ||| word, unknown)
    | none => (word, t :: unknown)

/-- The word of an expression and its unknown tokens. -/
def parse (v : Vocabulary) (expr : String) : UInt32 × List String :=
  let (word, unknown) := combine v (tokens expr.toList)
  (word, unknown.map String.ofList)

end FlagExpression
end DoomPatch
