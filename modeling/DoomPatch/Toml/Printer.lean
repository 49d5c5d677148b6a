import DoomPatch.Text.Quoted
import DoomPatch.Toml.Value

/-!
# Writing configuration text

Texts are written in double quotes, names without quotes where they can be.
-/

namespace DoomPatch
namespace Toml

/-- The written form of a character inside double quotes.  Controls without a short escape are written by
number. -/
def escapedChar (c : Char) : List Char :=
  if c = '"' then ['\\', '"']
  else if c = '\\' then ['\\', '\\']
  else if c = '\x08' then ['\\', 'b']
  else if c = '\t' then ['\\', 't']
  else if c = '\n' then ['\\', 'n']
  else if c = '\x0c' then ['\\', 'f']
  else if c = '\r' then ['\\', 'r']
  else if c.toNat < 0x20 || c.toNat = 0x7f then '\\' :: 'u' :: Text.hexPadded 4 c.toNat
  else [c]

/-- A text in double quotes. -/
def quoted (s : String) : String := String.ofList ('"' :: (s.toList.flatMap escapedChar ++ ['"']))

/-- Whether a name needs no quotes. -/
def isPlainName (name : String) : Bool :=
  !name.isEmpty && name.toList.all fun c => c.isAlphanum || c == '_' || c == '-'

/-- The written form of a name. -/
def nameText (name : String) : String := if isPlainName name then name else quoted name

end Toml
end DoomPatch
