import DoomPatch.Yaml.Scalar

/-!
# YAML tokens

A text is cut into tokens.  Indentation becomes tokens too: a block collection has a token at its start and
one at its end.  Whether a node is a key shows only at the colon behind it; its key token is put in front of
it then.

* `Lexer.step?` — reads one more token.
* `Tokens.ofText` — the tokens of a text, up to the first place that cannot be read.
* `Tokens.visible` — the tokens that can be known.  A token is known once two more are read and it is settled
  whether it is a key, so trouble is noticed a little ahead.
-/

namespace DoomPatch
namespace Yaml

/-- A token. -/
inductive Token where
  /-- The version that a document names. -/
  | version (major minor : Nat)
  /-- A shorthand for tags. -/
  | shorthand (handle stem : String)
  /-- A document starts. -/
  | documentStart
  /-- A document ends. -/
  | documentEnd
  /-- The text ends. -/
  | streamEnd
  /-- A block sequence starts. -/
  | sequenceStart
  /-- A block mapping starts. -/
  | mappingStart
  /-- A block collection ends. -/
  | blockEnd
  /-- An opening bracket. -/
  | openSequence
  /-- A closing bracket. -/
  | closeSequence
  /-- An opening brace. -/
  | openMapping
  /-- A closing brace. -/
  | closeMapping
  /-- A dash in front of an item. -/
  | item
  /-- A comma. -/
  | comma
  /-- A key follows. -/
  | key
  /-- A value follows. -/
  | value
  /-- A reference to an anchor. -/
  | alias (name : String)
  /-- A name for the node that follows. -/
  | anchor (name : String)
  /-- A tag for the node that follows. -/
  | tag (handle suffix : String)
  /-- A scalar, and whether it is plain. -/
  | scalar (text : String) (plain : Bool)
deriving DecidableEq

/-! ### Names, tags and directives -/

/-- A letter of a name. -/
def isNameChar (c : Char) : Bool := c.isAlphanum || c == '_' || c == '-'

/-- Reads the name of an anchor behind its mark.  Only certain characters may follow. -/
def anchorName? (c : Cursor) : Option (String × Cursor) :=
  let name := c.rest.takeWhile isNameChar
  let c := c.pass isNameChar
  let closed := endsWord c.rest || (c.head?.map "?:,]\x7d%@`".toList.contains).getD false
  if name.isEmpty || !closed then none else some (String.ofList name, c)

/-- The characters of a tag. -/
def isTagChar (c : Char) : Bool := isNameChar c || ";/?:@&=+$,.!~*'()[]%".toList.contains c

/-- The number of bytes of a character by its first one. -/
def leadWidth? (byte : Nat) : Option Nat :=
  if byte < 0x80 then some 1
  else if byte / 32 = 6 then some 2
  else if byte / 16 = 14 then some 3
  else if byte / 8 = 30 then some 4
  else none

/-- Reads escaped bytes. -/
def escapedBytes? : Nat → List Char → Option (List Nat × List Char)
  | 0, cs => some ([], cs)
  | n + 1, '%' :: a :: b :: cs =>
    (Numeral.readNat? 16 [a, b]).bind fun byte =>
      (escapedBytes? n cs).map fun (bytes, cs) => (byte :: bytes, cs)
  | _ + 1, _ => none

/-- The character of some bytes, the first of which tells their number. -/
def charOfBytes? : List Nat → Option Char
  | [] => none
  | lead :: trail =>
    if trail.all (· / 64 = 2) then
      let top := if trail.isEmpty then lead else lead % (1 <<< (6 - trail.length))
      some (Char.ofNat (trail.foldl (fun n b => n * 64 + b % 64) top))
    else none

/-- Reads an escaped character. -/
def escapedChar? (cs : List Char) : Option (Char × List Char) :=
  (escapedBytes? 1 cs).bind fun (lead, _) =>
    (lead.head?.bind leadWidth?).bind fun width =>
      (escapedBytes? width cs).bind fun (bytes, cs) => (charOfBytes? bytes).map fun ch => (ch, cs)

/-- Reads the characters of a tag.  `done` is what was read, the last character first. -/
def tagChars? : Nat → List Char → Cursor → Option (List Char × Cursor)
  | 0, _, _ => none
  | fuel + 1, done, c =>
    match c.rest with
    | [] => some (done, c)
    | ch :: _ =>
      if ch == '%' then
        (escapedChar? c.rest).bind fun (ch, rest) =>
          tagChars? fuel (ch :: done) (c.skip (c.rest.length - rest.length))
      else if isTagChar ch then tagChars? fuel (ch :: done) c.next
      else some (done, c)

/-- Reads a handle: an exclamation mark, letters and perhaps another mark. -/
def tagHandle (c : Cursor) : List Char × Cursor :=
  let name := c.next.rest.takeWhile isNameChar
  let c := c.next.pass isNameChar
  if c.head? == some '!' then ('!' :: name ++ ['!'], c.next) else ('!' :: name, c)

/-- Reads a tag at its mark.  The answer holds the handle, empty if there is none, and the rest of the tag. -/
def tag? (fuel : Nat) (c : Cursor) : Option (Token × Cursor) :=
  let closed := fun (t : Token) (c : Cursor) => if endsWord c.rest then some (t, c) else none
  match c.rest with
  | _ :: '<' :: _ =>
    (tagChars? fuel [] (c.skip 2)).bind fun (name, c) =>
      if name.isEmpty || c.head? != some '>' then none else closed (.tag "" (String.ofList name.reverse)) c.next
  | _ =>
    let (handle, c) := tagHandle c
    if 1 < handle.length && handle.getLast? == some '!' then
      (tagChars? fuel [] c).bind fun (name, c) =>
        if name.isEmpty then none else closed (.tag (String.ofList handle) (String.ofList name.reverse)) c
    else
      (tagChars? fuel (handle.drop 1).reverse c).bind fun (name, c) =>
        closed (if name.isEmpty then .tag "" "!" else .tag "!" (String.ofList name.reverse)) c

/-- Reads a part of a version: one or two digits. -/
def versionPart? (c : Cursor) : Option (Nat × Cursor) :=
  let ds := c.rest.takeWhile Char.isDigit
  if 2 < ds.length then none else (Numeral.readNat? 10 ds).map fun n => (n, c.skip ds.length)

/-- Reads a version. -/
def version? (c : Cursor) : Option (Token × Cursor) :=
  (versionPart? (c.pass isGap)).bind fun (major, c) =>
    if c.head? != some '.' then none
    else (versionPart? c.next).map fun (minor, c) => (.version major minor, c)

/-- Reads a shorthand for tags: a handle and what it stands for. -/
def shorthand? (fuel : Nat) (c : Cursor) : Option (Token × Cursor) :=
  let c := c.pass isGap
  if c.head? != some '!' then none
  else
    let (handle, c) := tagHandle c
    if (1 < handle.length && handle.getLast? != some '!') || !(c.head?.map isGap).getD false then none
    else
      (tagChars? fuel [] (c.pass isGap)).bind fun (stem, c) =>
        if stem.isEmpty || !endsWord c.rest then none
        else some (.shorthand (String.ofList handle) (String.ofList stem.reverse), c)

/-- Reads a directive at its mark, to the start of the next line. -/
def directive? (fuel : Nat) (c : Cursor) : Option (Token × Cursor) :=
  let c := c.next
  let name := String.ofList (c.rest.takeWhile isNameChar)
  let c := c.pass isNameChar
  let token :=
    if !endsWord c.rest then none
    else if name = "YAML" then version? c
    else if name = "TAG" then shorthand? fuel c
    else none
  token.bind fun (t, c) =>
    let c := c.pass isGap
    let c := if c.head? == some '#' then c.toLineEnd else c
    match c.breakLine? with
    | some (_, below) => some (t, below)
    | none => if c.rest.isEmpty then some (t, c) else none

/-! ### The lexer -/

/-- A node that is a key if a colon follows. -/
structure Candidate where
  /-- The number of its first token. -/
  token : Nat
  /-- Where it starts. -/
  start : Cursor
  /-- Whether it has to be a key. -/
  required : Bool

/-- How far behind its start the colon of a key may stand. -/
def keyReach : Nat := 1024

/-- Whether a node may still be a key: the colon has to stand on its line, and not too far off. -/
def Candidate.valid (k : Candidate) (c : Cursor) : Bool :=
  k.start.line == c.line && c.index ≤ k.start.index + keyReach

/-- How deep collections may be nested. -/
def deepest : Nat := 10000

/-- A text that is cut into tokens. -/
structure Lexer where
  /-- Where the next token is looked for. -/
  cursor : Cursor
  /-- The tokens so far, the last one first. -/
  tokens : List Token := []
  /-- How many tokens there are. -/
  count : Nat := 0
  /-- The indentation of the block collection around, -1 outside of all. -/
  indent : Int := -1
  /-- The indentations further out. -/
  indents : List Int := []
  /-- The number of flow collections around. -/
  depth : Nat := 0
  /-- The key candidates: of the innermost flow collection first, of the block last. -/
  candidates : List (Option Candidate) := [none]
  /-- Whether a key may start here. -/
  allowed : Bool := true
  /-- A bound on the number of characters. -/
  size : Nat
  /-- Whether the text goes on behind what can be read. -/
  cut : Bool := false
  /-- Up to where the first character of every line is passed over. -/
  marked : Nat := 0

namespace Lexer

/-- Whether a flow collection is open. -/
def inFlow (l : Lexer) : Bool := l.depth != 0

/-- Appends a token. -/
def push (l : Lexer) (t : Token) : Lexer := { l with tokens := t :: l.tokens, count := l.count + 1 }

/-- Appends a token that was read up to a place. -/
def take (l : Lexer) (t : Token) (c : Cursor) : Lexer := { l.push t with cursor := c }

/-- Puts a token in front of the one with a number. -/
def insert (l : Lexer) (place : Nat) (t : Token) : Lexer :=
  { l with tokens := putBehind t (l.count - place) l.tokens, count := l.count + 1 }
where
  /-- Puts a token behind some others. -/
  putBehind (t : Token) : Nat → List Token → List Token
    | n + 1, other :: rest => other :: putBehind t n rest
    | _, rest => t :: rest

/-- Gives up the innermost candidate.  One that has to be a key cannot be given up. -/
def withdraw? (l : Lexer) : Option Lexer :=
  match l.candidates with
  | some k :: rest => if k.required then none else some { l with candidates := none :: rest }
  | _ => some l

/-- Notes that a node starts here, which may be a key. -/
def offer? (l : Lexer) : Option Lexer :=
  if l.allowed then
    let required := !l.inFlow && l.indent == (l.cursor.column : Int)
    l.withdraw?.map fun l =>
      { l with candidates := some ⟨l.count, l.cursor, required⟩ :: l.candidates.drop 1 }
  else some l

/-- Opens a block collection if its column lies deeper than those around.  Its token is put at a place. -/
def indentTo? (l : Lexer) (column place : Nat) (t : Token) : Option Lexer :=
  if l.inFlow || (column : Int) ≤ l.indent then some l
  else if deepest ≤ l.indents.length then none
  else some { l.insert place t with indents := l.indent :: l.indents, indent := column }

/-- Closes the block collections that lie deeper than a column. -/
def dedent (l : Lexer) (column : Int) : Lexer :=
  if l.inFlow then l else close l.indents l
where
  /-- Closes one collection after the other. -/
  close : List Int → Lexer → Lexer
    | [], l => l
    | outer :: rest, l =>
      if column < l.indent then close rest { l.push .blockEnd with indent := outer, indents := rest } else l

/-- Goes to the next token.  A tab does not count as indentation. -/
def toContent : Nat → Lexer → Lexer
  | 0, l => l
  | fuel + 1, l =>
    let c := l.cursor
    let c := if c.column == 0 && l.marked != 0 && (c.index == 0 || c.index + 4 ≤ l.marked) then c.next else c
    let c := c.pass fun ch => ch == ' ' || ((l.inFlow || !l.allowed) && ch == '\t')
    let c := if c.head? == some '#' then c.comments (fuel + 1) else c
    match c.breakLine? with
    | some (_, below) => toContent fuel { l with cursor := below, allowed := l.allowed || !l.inFlow }
    | none => { l with cursor := c }

/-- Reads a bracket or brace that opens a collection. -/
def opening? (l : Lexer) (t : Token) : Option Lexer :=
  l.offer?.bind fun l =>
    if deepest ≤ l.depth then none
    else
      some { l.take t l.cursor.next with
        depth := l.depth + 1
        candidates := none :: l.candidates
        allowed := true }

/-- Reads a bracket or brace that closes a collection. -/
def closing? (l : Lexer) (t : Token) : Option Lexer :=
  l.withdraw?.map fun l =>
    let l := { l.take t l.cursor.next with allowed := false }
    if l.inFlow then { l with depth := l.depth - 1, candidates := l.candidates.drop 1 } else l

/-- Reads a comma. -/
def comma? (l : Lexer) : Option Lexer :=
  l.withdraw?.map fun l => { l.take .comma l.cursor.next with allowed := true }

/-- Reads the dash of an item. -/
def item? (l : Lexer) : Option Lexer :=
  if !l.inFlow && !l.allowed then none
  else
    ((l.indentTo? l.cursor.column l.count .sequenceStart).bind withdraw?).map fun l =>
      { l.take .item l.cursor.next with allowed := true }

/-- Reads the question mark of a key. -/
def key? (l : Lexer) : Option Lexer :=
  if !l.inFlow && !l.allowed then none
  else
    ((l.indentTo? l.cursor.column l.count .mappingStart).bind withdraw?).map fun l =>
      { l.take .key l.cursor.next with allowed := !l.inFlow }

/-- Reads a colon.  It makes the candidate a key, or follows a key that was marked before. -/
def value? (l : Lexer) : Option Lexer :=
  let candidate := (l.candidates.head?.getD none).filter fun k => k.required || k.valid l.cursor
  match candidate with
  | some k =>
    if !k.valid l.cursor then none
    else
      ((l.insert k.token .key).indentTo? k.start.column k.token .mappingStart).map fun l =>
        { l.take .value l.cursor.next with candidates := none :: l.candidates.drop 1, allowed := false }
  | none =>
    if !l.inFlow && !l.allowed then none
    else
      (l.indentTo? l.cursor.column l.count .mappingStart).map fun l =>
        { l.take .value l.cursor.next with allowed := !l.inFlow }

/-- Reads a node that is told by its first character. -/
def node? (l : Lexer) (read : Cursor → Option (Token × Cursor)) : Option Lexer :=
  l.offer?.bind fun l => (read l.cursor).map fun (t, c) => { l.take t c with allowed := false }

/-- Reads a plain scalar.  Behind a line break a key may start. -/
def plainNode? (l : Lexer) : Option Lexer :=
  l.offer?.bind fun l =>
    (plain? l.inFlow (l.indent + 1).toNat l.size l.cursor).map fun (text, broken, c) =>
      { l.take (.scalar text true) c with allowed := broken }

/-- Reads a block scalar, behind which a key may start. -/
def blockNode? (l : Lexer) (folded : Bool) : Option Lexer :=
  l.withdraw?.bind fun l =>
    (block? folded l.indent l.size l.cursor).map fun (text, c) =>
      { l.take (.scalar text false) c with allowed := true }

/-- Whether a plain scalar can start with a character, followed by some others. -/
def startsPlain (l : Lexer) (ch : Char) (next : List Char) : Bool :=
  if ch == '-' then !endsWord next
  else if ch == '?' || ch == ':' then !l.inFlow && !endsWord next
  else !(isGap ch || ",[]\x7b\x7d#&*!|>'\"%@`".toList.contains ch)

/-- Reads the token that starts with a character, followed by some others. -/
def token? (l : Lexer) (ch : Char) (next : List Char) : Option Lexer :=
  let named := fun (make : String → Token) (c : Cursor) =>
    (anchorName? c.next).map fun (name, c) => (make name, c)
  let scalar := fun (double : Bool) (c : Cursor) =>
    (quoted? double l.size c).map fun (text, c) => (Token.scalar text false, c)
  if ch == '[' then l.opening? .openSequence
  else if ch == '\x7b' then l.opening? .openMapping
  else if ch == ']' then l.closing? .closeSequence
  else if ch == '\x7d' then l.closing? .closeMapping
  else if ch == ',' then l.comma?
  else if ch == '-' && endsWord next then l.item?
  else if ch == '?' && (l.inFlow || endsWord next) then l.key?
  else if ch == ':' && (l.inFlow || endsWord next) then l.value?
  else if ch == '*' then l.node? (named .alias)
  else if ch == '&' then l.node? (named .anchor)
  else if ch == '!' then l.node? (tag? l.size)
  else if ch == '|' && !l.inFlow then l.blockNode? false
  else if ch == '>' && !l.inFlow then l.blockNode? true
  else if ch == '\'' then l.node? (scalar false)
  else if ch == '"' then l.node? (scalar true)
  else if l.startsPlain ch next then l.plainNode?
  else none

/-- Closes all blocks, at the end of a document. -/
def closeAll? (l : Lexer) : Option Lexer :=
  (l.dedent (-1)).withdraw?.map fun l => { l with allowed := false }

/-- Whether the text ends within a few characters because the rest of it cannot be read. -/
def exhausted (l : Lexer) : Bool :=
  l.cut && match l.cursor.rest with
    | _ :: _ :: _ :: _ :: _ => false
    | _ => true

/-- Reads one more token, and tells whether it is the last one. -/
def step? (l : Lexer) : Option (Lexer × Bool) :=
  let l := l.toContent l.size
  let c := l.cursor
  let l := l.dedent c.column
  if l.exhausted then none
  else
    match c.rest with
    | [] => l.closeAll?.map fun l => (l.push .streamEnd, true)
    | ch :: next =>
      if c.column == 0 && ch == '%' then
        l.closeAll?.bind fun l => (directive? l.size c).map fun (t, c) => (l.take t c, false)
      else if c.column == 0 && isDocumentMark c.rest then
        l.closeAll?.map fun l => (l.take (if ch == '-' then .documentStart else .documentEnd) (c.skip 3), false)
      else
        (l.token? ch next).bind fun l =>
          let l := if l.tokens.head? == some .item then l else { l with cursor := l.cursor.lineComment }
          if l.cut && l.cursor.rest.isEmpty then none else some (l, false)

/-- Reads tokens as long as possible, and tells whether the last one was reached. -/
def run : Nat → Lexer → Lexer × Bool
  | 0, l => (l, false)
  | fuel + 1, l =>
    match l.step? with
    | none => (l, false)
    | some (l, true) => (l, true)
    | some (l, false) => run fuel l

end Lexer

/-! ### The tokens of a text -/

/-- The characters a text may hold. -/
def isAllowed (c : Char) : Bool :=
  let n := c.toNat
  c == '\t' || c == '\n' || c == '\r' || (32 ≤ n && n ≤ 126) || n == 0x85 || (0xA0 ≤ n && n ≤ 0xFFFD)
    || 0x10000 ≤ n

/-- The number of bytes that are taken in at once. -/
def pieceSize : Nat := 512

/-- What can be read of a text: all of it, or the pieces before the first one with a character that is not
allowed.  `done` and `piece` hold the characters before, the last one first, and `room` is what is left of
the current piece. -/
def readable (done piece : List Char) (room : Nat) (sound : Bool) : List Char → List Char × Bool
  | [] => if sound then ((piece ++ done).reverse, false) else (done.reverse, true)
  | c :: cs =>
    let width := c.utf8Size
    if width ≤ room then readable done (c :: piece) (room - width) (sound && isAllowed c) cs
    else if sound then readable (piece ++ done) [c] (pieceSize - width) (isAllowed c) cs
    else (done.reverse, true)

/-- How many characters the first piece of a text has. -/
def firstPiece (room : Nat) : List Char → Nat
  | [] => 0
  | c :: cs => if c.utf8Size ≤ room then firstPiece (room - c.utf8Size) cs + 1 else 0

/-- The tokens of a text. -/
structure Tokens where
  /-- The tokens that were read. -/
  list : List Token
  /-- If not all could be read: how many were, and which of them may be keys. -/
  broken : Option (Nat × List Nat) := none

/-- Whether a token, by its number, can be known. -/
def Tokens.visible (t : Tokens) (n : Nat) : Bool :=
  match t.broken with
  | none => true
  | some (size, undecided) => n + 3 ≤ size && !undecided.contains n

/-- Cuts a text into tokens.  A byte order mark at its start is left out.  Behind a second one, the first
character of each line of the first piece is taken for such a mark. -/
def Tokens.ofText (text : String) : Tokens :=
  let (cs, cut) := readable [] [] pieceSize true text.toList
  let (cs, room) := match cs with
    | '\ufeff' :: cs => (cs, pieceSize - 3)
    | cs => (cs, pieceSize)
  let marked := if cs.head? == some '\ufeff' then firstPiece room cs else 0
  let size := cs.length + 2
  let start : Lexer := { cursor := { rest := cs }, size, cut, marked }
  let (l, complete) := start.run size
  let undecided := l.candidates.filterMap fun k =>
    (k.filter fun k => k.required || k.valid l.cursor).map Candidate.token
  { list := l.tokens.reverse, broken := if complete then none else some (l.count, undecided) }

end Yaml
end DoomPatch
