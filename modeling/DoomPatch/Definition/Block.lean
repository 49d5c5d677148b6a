import DoomPatch.Decimal.Shortest

/-!
# Definition text

A definition is a block: a name in brackets and clauses `KEY = VALUE;`, closed by an empty line.

* `Block.text` — the block as it stands in a lump.
* `fixed`, `percent`, `quote` — the forms of map units, chances and strings in values.
-/

namespace DoomPatch

/-- One clause of a definition. -/
structure Clause where
  /-- What it sets. -/
  key : String
  /-- To what. -/
  value : String
deriving DecidableEq

/-- The text of a clause. -/
def Clause.text (c : Clause) : String := s!"{c.key} = {c.value};\n"

/-- One definition. -/
structure Block where
  /-- The name of what is defined. -/
  name : String
  /-- The number that places it on maps, if it has one. -/
  number : Option Int := none
  /-- What is said about it. -/
  clauses : List Clause
deriving DecidableEq

namespace Block

/-- The line with the name. -/
def header (b : Block) : String :=
  match b.number with
  | some n => s!"[{b.name}:{n}]\n"
  | none => s!"[{b.name}]\n"

/-- The text of a definition. -/
def text (b : Block) : String := b.header ++ String.join (b.clauses.map Clause.text) ++ "\n"

end Block

namespace Definition

/-- A list of names. -/
def list (items : List String) : String := ",".intercalate items

/-- A clause for a list of names, unless it is empty. -/
def listClause (key : String) (items : List String) : List Clause :=
  if items.isEmpty then [] else [⟨key, list items⟩]

/-- A clause if a test holds. -/
def clauseIf (test : Bool) (key value : String) : List Clause := if test then [⟨key, value⟩] else []

/-- A clause for a value that may be missing. -/
def clauseFor {α : Type} (key : String) (form : α → String) : Option α → List Clause
  | some a => [⟨key, form a⟩]
  | none => []

/-- A character of a string literal. -/
def quoteChar : Char → List Char
  | '"' => ['\\', '"']
  | '\\' => ['\\', '\\']
  | '\n' => ['\\', 'n']
  | '\r' => []
  | c => [c]

/-- A string literal.  Carriage returns are left out. -/
def quote (s : String) : String := String.ofList ('"' :: s.toList.flatMap quoteChar ++ ['"'])

/-- Puts the sign of a number before a text. -/
def signed (v : Int) (text : String) : String := if v < 0 then "-" ++ text else text

/-- A length in 65536ths of a map unit: the shortest decimal that reads back as the nearest binary number. -/
def fixed (v : Int) : String :=
  if v = 0 then "0"
  else
    signed v
      ((Decimal.Binary.ofNat (Decimal.round53 v.natAbs)).shiftRight 16).neighbourhood.shortest.positional

/-- A chance in 256ths as a percentage with two places; a half goes to the even neighbour. -/
def percent (v : Int) : String :=
  let hundredths :=
    Decimal.roundHalfEven (Decimal.round53 (Decimal.round53 v.natAbs * 100) * 100) 256
  let digits := (toString hundredths).toList
  let padded := List.replicate (3 - digits.length) '0' ++ digits
  let whole := padded.length - 2
  signed v (String.ofList (padded.take whole ++ '.' :: padded.drop whole) ++ "%")

end Definition
end DoomPatch
