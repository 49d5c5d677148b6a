/-!
# Paths

A path names a place in a tree of directories.  It starts at the top, at the working directory or some
directories above that, and goes down from there by names.  So it is in its shortest form: no empty
parts, no `.`, and each `..` belongs to the start.

* `Path.ofText` — the path of a text.
* `Path.join` — a path followed by another.
* `Path.names` — the names from the top to a place, if those to the working directory are known.
-/

namespace DoomPatch

/-- Where a path starts. -/
inductive PathStart where
  /-- At the top. -/
  | top
  /-- So many directories above the working directory. -/
  | above (levels : Nat)
deriving DecidableEq, Repr

namespace PathStart

/-- One directory further up.  There is none above the top. -/
def up : PathStart → PathStart
  | top => top
  | above n => above (n + 1)

/-- One directory less far up. -/
def back : PathStart → PathStart
  | top => top
  | above n => above (n - 1)

/-- The names from the top to the start, from those to the working directory. -/
def names (home : List String) : PathStart → List String
  | top => []
  | above n => home.take (home.length - n)

end PathStart

/-- A place in a tree of directories. -/
structure Path where
  /-- Where it starts. -/
  start : PathStart := .above 0
  /-- The names on the way. -/
  parts : List String := []
deriving DecidableEq, Repr

namespace Path

/-- The working directory. -/
def here : Path := {}

/-- The place of a name in a directory. -/
def child (p : Path) (name : String) : Path := { p with parts := p.parts ++ [name] }

/-- The directory above the place. -/
def up (p : Path) : Path :=
  if p.parts.isEmpty then { p with start := p.start.up } else { p with parts := p.parts.dropLast }

/-- The pieces between slashes. -/
def pieces : List Char → List (List Char)
  | [] => [[]]
  | c :: cs =>
    if c = '/' then [] :: pieces cs
    else
      match pieces cs with
      | p :: ps => (c :: p) :: ps
      | [] => [[c]]

/-- Takes one more step. -/
def step (p : Path) (piece : List Char) : Path :=
  if piece = [] ∨ piece = ['.'] then p
  else if piece = ['.', '.'] then p.up
  else p.child (String.ofList piece)

/-- A path followed by another, which counts as not starting at the top. -/
def join (p : Path) (text : String) : Path := (pieces text.toList).foldl step p

/-- Where a text starts. -/
def startOf (text : String) : Path := if text.toList.head? = some '/' then ⟨.top, []⟩ else here

/-- The path of a text. -/
def ofText (text : String) : Path := (startOf text).join text

/-- The text of a path. -/
def text (p : Path) : String :=
  match p.start with
  | .top => "/" ++ "/".intercalate p.parts
  | .above n => if p = here then "." else "/".intercalate (List.replicate n ".." ++ p.parts)

/-- The names from the top to the place, from those to the working directory. -/
def names (home : List String) (p : Path) : List String := p.start.names home ++ p.parts

/-- The place without the last piece of its text. -/
def parent (p : Path) : Path :=
  if p.parts.isEmpty then { p with start := p.start.back } else { p with parts := p.parts.dropLast }

/-- The places on the way down from the start, to the place itself. -/
def trail (p : Path) : List Path :=
  (List.range p.parts.length).map fun n => { p with parts := p.parts.take (n + 1) }

/-- How many bytes the name of a file may have. -/
def nameLimit : Nat := 255

/-- How many bytes a written path may have. -/
def textLimit : Nat := 4095

/-- Whether a written path can be handed to a disk at all. -/
def isWritable (text : String) : Bool := !text.toList.contains '\x00' && text.utf8ByteSize ≤ textLimit

/-- Whether the last name is short enough for a file. -/
def isShort (p : Path) : Bool := p.parts.getLast?.all fun s => s.utf8ByteSize ≤ nameLimit

/-- The places that a written path passes, in order. -/
def stops (text : String) : List Path :=
  let ps := pieces text.toList
  (List.range ps.length).map fun n => ofText ("/".intercalate ((ps.take (n + 1)).map String.ofList))

end Path
end DoomPatch
