/-!
# Places in a YAML text

A text is read through a cursor, which knows what is left and where it stands.

* `isGap`, `isBreak` — blanks within a line, and line breaks.
* `Cursor.next`, `Cursor.skip`, `Cursor.pass` — moving on within a line.
* `Cursor.breakLine?` — moving on to the next line.
* `Cursor.comments`, `Cursor.lineComment` — passing over comments.
-/

namespace DoomPatch
namespace Yaml

/-- A blank within a line. -/
def isGap (c : Char) : Bool := c == ' ' || c == '\t'

/-- A line break. -/
def isBreak (c : Char) : Bool := c == '\n' || c == '\r' || c == '\u0085' || c == '\u2028' || c == '\u2029'

/-- Whether nothing, a blank or a line break follows. -/
def endsWord : List Char → Bool
  | [] => true
  | c :: _ => isGap c || isBreak c

/-- Whether the line of a document mark starts here: three dashes or dots that stand alone. -/
def isDocumentMark : List Char → Bool
  | '-' :: '-' :: '-' :: r => endsWord r
  | '.' :: '.' :: '.' :: r => endsWord r
  | _ => false

/-- A place in the text. -/
structure Cursor where
  /-- How many characters stand before it. -/
  index : Nat := 0
  /-- How many lines stand above it. -/
  line : Nat := 0
  /-- How many characters of its line stand before it. -/
  column : Nat := 0
  /-- Whether nothing but blanks was read since the last line break. -/
  fresh : Bool := false
  /-- What is left. -/
  rest : List Char

namespace Cursor

/-- The next character. -/
def head? (c : Cursor) : Option Char := c.rest.head?

/-- Moves on by some characters of the line that are not all blank. -/
def skip (c : Cursor) (n : Nat) : Cursor :=
  { c with index := c.index + n, column := c.column + n, fresh := false, rest := c.rest.drop n }

/-- Moves on by one character of the line. -/
def next (c : Cursor) : Cursor :=
  match c.rest with
  | [] => c
  | ch :: rest => { c with index := c.index + 1, column := c.column + 1, fresh := c.fresh && isGap ch, rest }

/-- Moves on over characters of the line. -/
def pass (p : Char → Bool) (c : Cursor) : Cursor :=
  let taken := c.rest.takeWhile p
  { c with
    index := c.index + taken.length
    column := c.column + taken.length
    fresh := c.fresh && taken.all isGap
    rest := c.rest.drop taken.length }

/-- Moves on to the end of the line. -/
def toLineEnd (c : Cursor) : Cursor := c.pass fun ch => !isBreak ch

/-- Moves on to the next line, and tells what the line break counts as. -/
def breakLine? (c : Cursor) : Option (Char × Cursor) :=
  let below := fun (width : Nat) (rest : List Char) =>
    { c with index := c.index + width, line := c.line + 1, column := 0, fresh := true, rest }
  match c.rest with
  | '\r' :: '\n' :: rest => some ('\n', below 2 rest)
  | ch :: rest =>
    if ch == '\u2028' || ch == '\u2029' then some (ch, below 1 rest)
    else if isBreak ch then some ('\n', below 1 rest)
    else none
  | [] => none

/-- Moves on over blanks and line breaks; at most so many steps. -/
def passGaps : Nat → Cursor → Cursor
  | 0, c => c
  | n + 1, c =>
    match c.breakLine? with
    | some (_, c) => passGaps n c
    | none => if (c.head?.map isGap).getD false then passGaps n c.next else c

/-- How far ahead of a comment the next one is looked for. -/
def commentReach : Nat := 512

/-- Passes over a comment, and over those on the lines right below it, which may be indented in any way. -/
def comments : Nat → Cursor → Cursor
  | 0, c => c
  | fuel + 1, c =>
    let c := c.toLineEnd
    match c.rest with
    | [] => c
    | b :: below =>
      let gaps := below.takeWhile fun ch => isGap ch || ch == '\n' || ch == '\r'
      if (b == '\n' || b == '\r') && gaps.length + 1 < commentReach
          && (below.drop gaps.length).head? == some '#' then
        comments fuel (c.passGaps (gaps.length + 1))
      else c

/-- Passes over a comment behind something on the same line. -/
def lineComment (c : Cursor) : Cursor :=
  let gaps := c.rest.takeWhile isGap
  if !c.fresh && gaps.length < commentReach && (c.rest.drop gaps.length).head? == some '#' then c.toLineEnd
  else c

end Cursor
end Yaml
end DoomPatch
