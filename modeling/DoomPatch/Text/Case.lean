import DoomPatch.Text.CaseRuns

/-!
# Letter case

Three ways to disregard case, each used where the patch format asks for it.

* `upper`, `lower` — the simple mapping: one character becomes one character.  Sprite names, sound names
  and mnemonics go through these.
* `sameFold` — equality under simple folding against a name in ASCII.  Besides the letters themselves only
  the long s and the Kelvin sign fold to an ASCII letter.
* `foldName` — full folding, as far as it can produce ASCII.  Field names are compared this way, so a sharp
  s stands for two letters and a ligature for its parts.  A character that is left alone here folds to
  something outside ASCII, and no field name holds such a character.
-/

namespace DoomPatch
namespace Text

/-- Moves a code point by the shift of the run it belongs to. -/
def shiftByRun (runs : List CaseRun) (n : Nat) : Nat :=
  match runs.find? fun r => r.first ≤ n && n ≤ r.last && (n - r.first) % r.step == 0 with
  | some r => (Int.ofNat n + r.shift).toNat
  | none => n

/-- The simple upper case of a character. -/
def upperChar (c : Char) : Char :=
  if c.toNat < 0x80 then c.toUpper else Char.ofNat (shiftByRun upperRuns c.toNat)

/-- The simple lower case of a character. -/
def lowerChar (c : Char) : Char :=
  if c.toNat < 0x80 then c.toLower else Char.ofNat (shiftByRun lowerRuns c.toNat)

/-- Maps every character of a text to its simple upper case. -/
def upper (s : String) : String := String.ofList (s.toList.map upperChar)

/-- Maps every character of a text to its simple lower case. -/
def lower (s : String) : String := String.ofList (s.toList.map lowerChar)

/-- The simple fold of a character, where that is an ASCII letter. -/
def foldChar (c : Char) : Char :=
  if c = 'ſ' then 's' else if c = '\u212A' then 'k' else c.toLower

/-- Whether a text equals an ASCII name under simple folding. -/
def sameFold (s name : String) : Bool :=
  s.toList.map foldChar == name.toList.map foldChar

/-- The full fold of a character, where that lies in ASCII. -/
def foldFull (c : Char) : List Char :=
  match c with
  | 'ſ' => ['s']
  | '\u212A' => ['k']
  | 'ß' | 'ẞ' => ['s', 's']
  | 'ﬀ' => ['f', 'f']
  | 'ﬁ' => ['f', 'i']
  | 'ﬂ' => ['f', 'l']
  | 'ﬃ' => ['f', 'f', 'i']
  | 'ﬄ' => ['f', 'f', 'l']
  | 'ﬅ' | 'ﬆ' => ['s', 't']
  | c => [c.toLower]

/-- The full fold of a list of characters. -/
def foldName (cs : List Char) : List Char := cs.flatMap foldFull

end Text
end DoomPatch
