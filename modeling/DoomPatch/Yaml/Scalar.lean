import DoomPatch.Text.Numeral
import DoomPatch.Yaml.Cursor

/-!
# Reading YAML scalars

* `quoted?` — single- and double-quoted scalars, which fold line breaks.
* `plain?` — plain scalars, which end where an indicator does.
* `block?` — literal and folded blocks.

Each reader has a number of steps to spend, which bounds the characters it may read.
-/

namespace DoomPatch
namespace Yaml

/-! ### Gaps within scalars -/

/-- Blanks or line breaks within a scalar. -/
inductive Gap where
  /-- Blanks, the last one first. -/
  | blanks (text : List Char)
  /-- The first line break, unless it was escaped, and the breaks after it, the last one first. -/
  | breaks (first : Option Char) (more : List Char)

namespace Gap

/-- What a gap becomes, the last character first: blanks stay, a single line break becomes a space, and of
several ones the first is left out. -/
def text : Gap → List Char
  | blanks text => text
  | breaks (some '\n') [] => [' ']
  | breaks (some '\n') more => more
  | breaks (some c) more => more ++ [c]
  | breaks none more => more

/-- Whether a gap has a line break. -/
def isBroken : Gap → Bool
  | blanks _ => false
  | breaks _ _ => true

/-- Reads on in a gap.  Below the first line a tab may not stand left of the indentation. -/
def read? (indent : Nat) : Nat → Gap → Cursor → Option (Gap × Cursor)
  | 0, _, _ => none
  | fuel + 1, gap, c =>
    match c.breakLine? with
    | some (b, below) =>
      match gap with
      | blanks _ => read? indent fuel (breaks (some b) []) below
      | breaks first more => read? indent fuel (breaks first (b :: more)) below
    | none =>
      match c.rest with
      | [] => some (gap, c)
      | ch :: _ =>
        if !isGap ch then some (gap, c)
        else
          match gap with
          | blanks text => read? indent fuel (blanks (ch :: text)) c.next
          | breaks _ _ => if c.column < indent && ch == '\t' then none else read? indent fuel gap c.next

end Gap

/-! ### Quoted scalars -/

/-- The character of a one-letter escape. -/
def escape? : Char → Option Char
  | '0' => some '\x00'
  | 'a' => some '\x07'
  | 'b' => some '\x08'
  | 't' | '\t' => some '\t'
  | 'n' => some '\n'
  | 'v' => some '\x0b'
  | 'f' => some '\x0c'
  | 'r' => some '\r'
  | 'e' => some '\x1b'
  | ' ' => some ' '
  | '"' => some '"'
  | '\'' => some '\''
  | '\\' => some '\\'
  | 'N' => some '\u0085'
  | '_' => some '\u00a0'
  | 'L' => some '\u2028'
  | 'P' => some '\u2029'
  | _ => none

/-- The number of digits of a numeric escape. -/
def escapeWidth? : Char → Option Nat
  | 'x' => some 2
  | 'u' => some 4
  | 'U' => some 8
  | _ => none

/-- The character of a numeric escape. -/
def numericEscape? (width : Nat) (cs : List Char) : Option Char :=
  let ds := cs.take width
  if ds.length < width then none
  else (Numeral.readNat? 16 ds).bind fun n => if h : n.isValidChar then some (Char.ofNatAux n h) else none

/-- Reads a quoted scalar up to a blank, a line break or its closing quote.  `done` is what was read, the
last character first; the flag tells of an escaped line break. -/
def quotedRun? (double : Bool) : Nat → List Char → Cursor → Option (List Char × Bool × Cursor)
  | 0, _, _ => none
  | fuel + 1, done, c =>
    match c.rest with
    | [] => some (done, false, c)
    | ch :: r =>
      if isGap ch || isBreak ch then some (done, false, c)
      else if double && ch == '"' then some (done, false, c)
      else if double && ch == '\\' then
        match r with
        | [] => none
        | e :: ds =>
          if isBreak e then c.next.breakLine?.map fun (_, below) => (done, true, below)
          else
            match escapeWidth? e with
            | some width =>
              (numericEscape? width ds).bind fun ch => quotedRun? double fuel (ch :: done) (c.skip (width + 2))
            | none => (escape? e).bind fun ch => quotedRun? double fuel (ch :: done) (c.skip 2)
      else if !double && ch == '\'' then
        match r with
        | '\'' :: _ => quotedRun? double fuel ('\'' :: done) (c.skip 2)
        | _ => some (done, false, c)
      else quotedRun? double fuel (ch :: done) c.next

/-- Reads a quoted scalar behind its opening quote.  No document mark may stand in it. -/
def quotedFrom? (double : Bool) : Nat → List Char → Cursor → Option (String × Cursor)
  | 0, _, _ => none
  | fuel + 1, done, c =>
    if c.rest.isEmpty || (c.column == 0 && isDocumentMark c.rest) then none
    else
      (quotedRun? double (fuel + 1) done c).bind fun (done, broken, c) =>
        if c.head? == some (if double then '"' else '\'') then some (String.ofList done.reverse, c.next)
        else
          (Gap.read? 0 (fuel + 1) (if broken then .breaks none [] else .blanks []) c).bind fun (gap, c) =>
            quotedFrom? double fuel (gap.text ++ done) c

/-- Reads a quoted scalar at its opening quote. -/
def quoted? (double : Bool) (fuel : Nat) (c : Cursor) : Option (String × Cursor) :=
  quotedFrom? double fuel [] c.next

/-! ### Plain scalars -/

/-- The characters that structure flow collections. -/
def isFlowMark (c : Char) : Bool :=
  c == ',' || c == '?' || c == '[' || c == ']' || c == '\x7b' || c == '\x7d'

/-- Takes the characters of a plain scalar up to a blank, a line break or an indicator, the last one first,
and counts them. -/
def plainRun (inFlow : Bool) (count : Nat) (run : List Char) : List Char → Nat × List Char
  | [] => (count, run)
  | c :: cs =>
    if isGap c || isBreak c || (c == ':' && endsWord cs) || (inFlow && isFlowMark c) then (count, run)
    else plainRun inFlow (count + 1) (c :: run) cs

/-- Reads on in a plain scalar behind a gap.  `done` is what was read, the last character first.  The answer
tells whether a line break stands behind the scalar. -/
def plainFrom? (inFlow : Bool) (indent : Nat) :
    Nat → List Char → Gap → Cursor → Option (String × Bool × Cursor)
  | 0, _, _, _ => none
  | fuel + 1, done, gap, c =>
    if c.head? == some '#' || (c.column == 0 && isDocumentMark c.rest) then
      some (String.ofList done.reverse, gap.isBroken, c)
    else
      let (count, run) := plainRun inFlow 0 [] c.rest
      if count = 0 then some (String.ofList done.reverse, gap.isBroken, c)
      else
        let done := run ++ (gap.text ++ done)
        let c := c.skip count
        if c.rest.isEmpty || !endsWord c.rest then some (String.ofList done.reverse, false, c)
        else
          (Gap.read? indent (fuel + 1) (.blanks []) c).bind fun (gap, c) =>
            if !inFlow && c.column < indent then some (String.ofList done.reverse, gap.isBroken, c)
            else plainFrom? inFlow indent fuel done gap c

/-- Reads a plain scalar, which starts here.  In blocks its further lines have to be indented. -/
def plain? (inFlow : Bool) (indent fuel : Nat) (c : Cursor) : Option (String × Bool × Cursor) :=
  plainFrom? inFlow indent fuel [] (.blanks []) c

/-! ### Blocks -/

/-- What happens to the line breaks at the end of a block. -/
inductive Chomp where
  /-- All go. -/
  | strip
  /-- One stays. -/
  | clip
  /-- All stay. -/
  | keep
deriving DecidableEq

/-- The chomping that an indicator means. -/
def Chomp.ofMark? : Char → Option Chomp
  | '+' => some .keep
  | '-' => some .strip
  | _ => none

/-- Splits a chomping indicator off. -/
def splitChomp (c : Cursor) : Chomp × Cursor :=
  match c.head?.bind Chomp.ofMark? with
  | some chomp => (chomp, c.next)
  | none => (.clip, c)

/-- Splits an indentation indicator off, which is not zero. -/
def splitDepth? (c : Cursor) : Option (Nat × Cursor) :=
  match c.head? with
  | none => some (0, c)
  | some ch =>
    if ch == '0' then none
    else if ch.isDigit then some (ch.toNat - 48, c.next)
    else some (0, c)

/-- Reads the header of a block, which stands behind `|` or `>`, to the start of the next line. -/
def blockHeader? (c : Cursor) : Option (Chomp × Nat × Cursor) :=
  let marks : Option (Chomp × Nat × Cursor) :=
    if (c.head?.bind Chomp.ofMark?).isSome then
      let (chomp, c) := splitChomp c
      (splitDepth? c).map fun (depth, c) => (chomp, depth, c)
    else
      (splitDepth? c).map fun (depth, c) =>
        if depth = 0 then (.clip, 0, c)
        else
          let (chomp, c) := splitChomp c
          (chomp, depth, c)
  marks.bind fun (chomp, depth, c) =>
    let c := c.pass isGap
    let c := if c.head? == some '#' then c.toLineEnd else c
    match c.breakLine? with
    | some (_, below) => some (chomp, depth, below)
    | none => if c.rest.isEmpty then some (chomp, depth, c) else none

/-- Moves on over indentation, up to a depth unless that is zero. -/
def indentTo (depth : Nat) (c : Cursor) : Cursor :=
  let n := (c.rest.takeWhile (· == ' ')).length
  let n := if depth = 0 then n else min n (depth - c.column)
  { c with index := c.index + n, column := c.column + n, rest := c.rest.drop n }

/-- Reads empty lines and the indentation of the line below them.  Depth zero stands for one not known yet.
The answer holds the greatest column and the line breaks, the last one first. -/
def blockBreaks? (depth : Nat) : Nat → Nat → List Char → Cursor → Option (Nat × List Char × Cursor)
  | 0, _, _, _ => none
  | fuel + 1, most, breaks, c =>
    let c := indentTo depth c
    let most := max most c.column
    if (depth = 0 || c.column < depth) && c.head? == some '\t' then none
    else
      match c.breakLine? with
      | some (b, below) => blockBreaks? depth fuel most (b :: breaks) below
      | none => some (most, breaks, c)

/-- A part of a block, read line by line. -/
structure BlockText where
  /-- What was read, the last character first. -/
  done : List Char := []
  /-- The line break behind it. -/
  brk : Option Char := none
  /-- The empty lines behind that. -/
  empty : List Char := []
  /-- Whether its last line starts with a blank. -/
  indented : Bool := false

/-- Appends a line.  In folded blocks a line break between two lines that are not indented becomes a space, or
goes where empty lines follow it. -/
def BlockText.add (b : BlockText) (folded : Bool) (line : List Char) (brk : Option Char) : BlockText :=
  let gap := (line.head?.map isGap).getD false
  let joint :=
    if folded && !b.indented && !gap && b.brk == some '\n' then (if b.empty.isEmpty then [' '] else [])
    else b.brk.toList
  { done := line.reverse ++ (b.empty ++ (joint ++ b.done)), brk, empty := [], indented := gap }

/-- Reads the lines of a block. -/
def blockLines? (folded : Bool) (depth : Nat) : Nat → BlockText → Cursor → Option (BlockText × Cursor)
  | 0, _, _ => none
  | fuel + 1, b, c =>
    if c.column != depth || c.rest.isEmpty then some (b, c)
    else
      let line := c.rest.takeWhile fun ch => !isBreak ch
      let c := c.toLineEnd
      let (brk, c) := match c.breakLine? with
        | some (brk, below) => (some brk, below)
        | none => (none, c)
      (blockBreaks? depth (fuel + 1) 0 [] c).bind fun (_, empty, c) =>
        blockLines? folded depth fuel { b.add folded line brk with empty } c

/-- The text of a block. -/
def BlockText.text (b : BlockText) (chomp : Chomp) : String :=
  let last := if chomp = .strip then [] else b.brk.toList
  let tail := if chomp = .keep then b.empty else []
  String.ofList (tail ++ (last ++ b.done)).reverse

/-- Reads a block at its indicator.  `indent` is the indentation around it, -1 outside of all collections. -/
def block? (folded : Bool) (indent : Int) (fuel : Nat) (c : Cursor) : Option (String × Cursor) :=
  (blockHeader? c.next).bind fun (chomp, step, c) =>
    let given := if step = 0 then 0 else (max indent 0).toNat + step
    (blockBreaks? given fuel 0 [] c).bind fun (most, empty, c) =>
      let depth := if given = 0 then max (max most (indent + 1).toNat) 1 else given
      (blockLines? folded depth fuel { empty } c).map fun (b, c) => (b.text chomp, c)

end Yaml
end DoomPatch
