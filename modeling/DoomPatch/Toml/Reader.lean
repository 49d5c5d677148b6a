import DoomPatch.Decimal.Literal
import DoomPatch.Toml.Draft

/-!
# Reading configuration text

A text is a list of statements, one a line: headings in brackets and names with values.  Blanks are spaces
and tabs; a comment runs from `#` to the end of its line; a line ends with a line feed, which a carriage
return may precede.

* `path?` — a dotted name.
* `term?` — a value, with the rest of the text.
* `statements?` — the whole text as statements.
* `read?` — the whole text as a table.
-/

namespace DoomPatch
namespace Toml

/-- Whether a character is a blank. -/
def isGap (c : Char) : Bool := c == ' ' || c == '\t'

/-- Whether a character ends a line. -/
def isBreak (c : Char) : Bool := c == '\n' || c == '\r'

/-- Whether a text holds only admitted characters: no controls but tabs and line ends. -/
def isClean : List Char → Bool
  | [] => true
  | '\r' :: '\n' :: cs => isClean cs
  | c :: cs => ((0x20 ≤ c.toNat && c.toNat != 0x7f) || c == '\t' || c == '\n') && isClean cs

/-- Drops blanks. -/
def skipGaps (cs : List Char) : List Char := cs.dropWhile isGap

/-- Drops a comment. -/
def skipComment : List Char → List Char
  | '#' :: cs => cs.dropWhile fun c => !isBreak c
  | cs => cs

/-- Drops blanks, comments and line ends. -/
def skipLines : Nat → List Char → List Char
  | 0, cs => cs
  | fuel + 1, cs =>
    match skipComment (skipGaps cs) with
    | c :: rest => if isBreak c then skipLines fuel rest else c :: rest
    | [] => []

/-- Leaves a line on which nothing but a comment may follow. -/
def endLine? (cs : List Char) : Option (List Char) :=
  match skipComment (skipGaps cs) with
  | [] => some []
  | c :: rest => if isBreak c then some rest else none

/-! ### Texts -/

/-- The character of a numeric escape. -/
def numericEscape? (width : Nat) (cs : List Char) : Option Char :=
  let ds := cs.take width
  if ds.length = width then
    (Numeral.readNat? 16 ds).bind fun n => if n.isValidChar then some (Char.ofNat n) else none
  else none

/-- Reads what follows the mark of an escape. -/
def escape? : List Char → Option (Char × List Char)
  | 'b' :: cs => some ('\x08', cs)
  | 't' :: cs => some ('\t', cs)
  | 'n' :: cs => some ('\n', cs)
  | 'f' :: cs => some ('\x0c', cs)
  | 'r' :: cs => some ('\r', cs)
  | '"' :: cs => some ('"', cs)
  | '\\' :: cs => some ('\\', cs)
  | 'u' :: cs => (numericEscape? 4 cs).map fun c => (c, cs.drop 4)
  | 'U' :: cs => (numericEscape? 8 cs).map fun c => (c, cs.drop 8)
  | _ => none

/-- Reads a text in double quotes on one line, from behind the first quote. -/
def basicFrom? (done : List Char) : Nat → List Char → Option (String × List Char)
  | 0, _ => none
  | _ + 1, [] => none
  | fuel + 1, c :: cs =>
    if c = '"' then some (String.ofList done.reverse, cs)
    else if c = '\\' then (escape? cs).bind fun (d, rest) => basicFrom? (d :: done) fuel rest
    else if isBreak c then none
    else basicFrom? (c :: done) fuel cs

/-- Reads a text in double quotes on one line. -/
def basic? (cs : List Char) : Option (String × List Char) := basicFrom? [] (cs.length + 1) cs

/-- Reads a text in single quotes on one line, from behind the first quote. -/
def literal? (cs : List Char) : Option (String × List Char) :=
  let inner := cs.takeWhile fun c => c != '\'' && !isBreak c
  match cs.drop inner.length with
  | '\'' :: rest => some (String.ofList inner, rest)
  | _ => none

/-- Drops a line end, if the text begins with one. -/
def dropBreak : List Char → List Char
  | '\n' :: cs => cs
  | '\r' :: '\n' :: cs => cs
  | cs => cs

/-- What follows an escaped line end, if only blanks stand before it. -/
def continuation? (cs : List Char) : Option (List Char) :=
  match skipGaps cs with
  | c :: rest => if isBreak c then some (rest.dropWhile fun c => isGap c || isBreak c) else none
  | [] => none

/-- Reads a text in triple quotes, from behind them.  Of the quotes that end it, up to two belong to it, and
three if a backslash stands before them. -/
def longFrom? (quote : Char) (done : List Char) (escaped : Bool) :
    Nat → List Char → Option (String × List Char)
  | 0, _ => none
  | _ + 1, [] => none
  | fuel + 1, c :: cs =>
    if c = quote then
      let run := 1 + (cs.takeWhile (· == quote)).length
      let rest := cs.dropWhile (· == quote)
      if run < 3 then longFrom? quote (List.replicate run quote ++ done) false fuel rest
      else if run < 6 ∨ (run = 6 ∧ escaped) then
        some (String.ofList (List.replicate (run - 3) quote ++ done).reverse, rest)
      else none
    else if c = '\\' && quote = '"' then
      match continuation? cs with
      | some rest => longFrom? quote done false fuel rest
      | none => (escape? cs).bind fun (d, rest) => longFrom? quote (d :: done) (cs.head? == some '\\') fuel rest
    else longFrom? quote (c :: done) false fuel cs

/-- Reads a text in triple quotes. -/
def long? (quote : Char) (cs : List Char) : Option (String × List Char) :=
  longFrom? quote [] false (cs.length + 1) (dropBreak cs)

/-! ### Names -/

/-- Whether a character can stand in a name without quotes. -/
def isBare (c : Char) : Bool := c.isAlphanum || c == '_' || c == '-'

/-- Reads one part of a name. -/
def name? : List Char → Option (String × List Char)
  | '"' :: cs => basic? cs
  | '\'' :: cs => literal? cs
  | cs =>
    let bare := cs.takeWhile isBare
    if bare.isEmpty then none else some (String.ofList bare, cs.drop bare.length)

/-- Reads the rest of a dotted name behind its first part. -/
def pathFrom? : Nat → List Char → Option (List String × List Char)
  | 0, _ => none
  | fuel + 1, cs =>
    match skipGaps cs with
    | '.' :: rest => do
      let (name, rest) ← name? (skipGaps rest)
      let (more, rest) ← pathFrom? fuel rest
      return (name :: more, rest)
    | rest => some ([], rest)

/-- Reads a dotted name and the blanks behind it. -/
def path? (cs : List Char) : Option (List String × List Char) := do
  let (name, rest) ← name? cs
  let (more, rest) ← pathFrom? (rest.length + 1) rest
  return (name :: more, rest)

/-! ### Numbers and times -/

/-- Drops underscores that stand between two digits; any other is refused. -/
def joinDigits? (isDigit : Char → Bool) : List Char → Option (List Char)
  | [] => some []
  | c :: '_' :: d :: cs =>
    if isDigit c && isDigit d then (joinDigits? isDigit (d :: cs)).map (c :: ·) else none
  | c :: cs => if c = '_' then none else (joinDigits? isDigit cs).map (c :: ·)

/-- Reads a whole number in a base other than ten. -/
def basedInteger? (base : Nat) (cs : List Char) : Option Value :=
  (joinDigits? (fun c => (Numeral.readNat? base [c]).isSome) cs).bind fun ds =>
    (Numeral.readNat? base ds).bind fun n => if Numeral.fits64 n then some (.integer n) else none

/-- Whether digits begin with a zero that has no place there. -/
def hasExtraZero : List Char → Bool
  | '0' :: _ :: _ => true
  | _ => false

/-- Whether all characters are digits and there is one. -/
def areDigits (cs : List Char) : Bool := !cs.isEmpty && cs.all Char.isDigit

/-- Whether a text is an exponent, or nothing. -/
def isExponent : List Char → Bool
  | [] => true
  | e :: cs => (e == 'e' || e == 'E') && areDigits (Numeral.splitSign cs).2

/-- Whether a text without sign and underscores is a number with a fraction or an exponent. -/
def isDecimal (cs : List Char) : Bool :=
  let front := cs.takeWhile Char.isDigit
  areDigits front && !hasExtraZero front &&
    match cs.dropWhile Char.isDigit with
    | '.' :: rest => areDigits (rest.takeWhile Char.isDigit) && isExponent (rest.dropWhile Char.isDigit)
    | rest => isExponent rest

/-- The number of a word. -/
def number? (word : List Char) : Option Value :=
  match word with
  | '0' :: 'x' :: cs => basedInteger? 16 cs
  | '0' :: 'o' :: cs => basedInteger? 8 cs
  | '0' :: 'b' :: cs => basedInteger? 2 cs
  | _ =>
    let (negative, body) := Numeral.splitSign word
    if body = ['i', 'n', 'f'] ∨ body = ['n', 'a', 'n'] then some (.decimal (String.ofList word))
    else
      (joinDigits? Char.isDigit body).bind fun ds =>
        if areDigits ds then
          if hasExtraZero ds then none
          else
            (Numeral.readNat? 10 ds).bind fun n =>
              let value : Int := if negative then -(n : Int) else n
              if Numeral.fits64 value then some (.integer value) else none
        else if isDecimal ds && ((Decimal.Literal.read? ds).bind (·.whole?)).isSome then
          some (.decimal (String.ofList word))
        else none

/-- Writes the marks of a date and time in one way. -/
def normalMark (c : Char) : Char :=
  if c = 't' ∨ c = ' ' then 'T' else if c = 'z' then 'Z' else c

/-- Reads a time of day with two digits for the hour, to the end. -/
def wholeClock? (cs : List Char) : Option (Int × Nat × List Char) :=
  if (Stamp.digits? 2 cs).isSome then Stamp.readClock? cs else none

/-- The date, the time, or both, of a word.  Without a date it is the first day of the year 0; without an
offset it is universal time. -/
def stamp? (word : List Char) : Option Stamp :=
  let cs := word.map normalMark
  match Stamp.readDate? cs with
  | some (d, []) => some (Stamp.ofParts d 0 0 0)
  | some (d, 'T' :: rest) => do
    let (clock, nanos, rest) ← wholeClock? rest
    if rest.isEmpty then return Stamp.ofParts d clock nanos 0
    let offset ← Stamp.readOffset? rest
    return Stamp.ofParts d clock nanos offset
  | some _ => none
  | none =>
    match wholeClock? cs with
    | some (clock, nanos, []) => some (Stamp.ofParts ⟨0, 1, 1⟩ clock nanos 0)
    | _ => none

/-- Whether a character can stand in a date or a time. -/
def isStampChar (c : Char) : Bool :=
  c.isDigit || ['-', ':', 'T', 't', ' ', '.', 'Z', 'z', '+'].contains c

/-- Whether a character can stand in a number. -/
def isNumberChar (c : Char) : Bool := c.isAlphanum || ['_', '.', '+', '-'].contains c

/-- Whether digits go on as a date or a time. -/
def startsStamp (cs : List Char) : Bool :=
  match cs.takeWhile Char.isDigit, cs.dropWhile Char.isDigit with
  | _ :: _, c :: _ => c == '-' || c == ':'
  | _, _ => false

/-- Reads a number, a truth value, a date or a time. -/
def word? (cs : List Char) : Option (Value × List Char) :=
  if startsStamp cs then
    let word := cs.takeWhile isStampChar
    let trimmed := (word.reverse.dropWhile (· == ' ')).reverse
    (stamp? trimmed).map fun s => (.stamp s, cs.drop trimmed.length)
  else
    let word := cs.takeWhile isNumberChar
    let rest := cs.drop word.length
    if word = ['t', 'r', 'u', 'e'] then some (.boolean true, rest)
    else if word = ['f', 'a', 'l', 's', 'e'] then some (.boolean false, rest)
    else (number? word).map fun v => (v, rest)

/-! ### Values -/

mutual

/-- Reads a value. -/
def term? : Nat → List Char → Option (Term × List Char)
  | 0, _ => none
  | fuel + 1, cs =>
    match cs with
    | '"' :: '"' :: '"' :: rest => (long? '"' rest).map fun (s, rest) => (.atom (.text s), rest)
    | '"' :: rest => (basic? rest).map fun (s, rest) => (.atom (.text s), rest)
    | '\'' :: '\'' :: '\'' :: rest => (long? '\'' rest).map fun (s, rest) => (.atom (.text s), rest)
    | '\'' :: rest => (literal? rest).map fun (s, rest) => (.atom (.text s), rest)
    | '[' :: rest => (items? [] fuel rest).map fun (ts, rest) => (.list ts, rest)
    | '\x7b' :: rest =>
      match skipGaps rest with
      | '\x7d' :: rest => some (.members [], rest)
      | rest => (members? [] fuel rest).map fun (ps, rest) => (.members ps, rest)
    | _ => (word? cs).map fun (v, rest) => (.atom v, rest)

/-- Reads the items of a list up to its end.  A comma may stand behind the last.  `done` are those before, the
last one first. -/
def items? (done : List Term) : Nat → List Char → Option (List Term × List Char)
  | 0, _ => none
  | fuel + 1, cs =>
    match skipLines (cs.length + 1) cs with
    | ']' :: rest => some (done.reverse, rest)
    | start =>
      match term? fuel start with
      | none => none
      | some (t, rest) =>
        match skipLines (rest.length + 1) rest with
        | ',' :: rest => items? (t :: done) fuel rest
        | ']' :: rest => some ((t :: done).reverse, rest)
        | _ => none

/-- Reads the pairs of a table on one line up to its end. -/
def members? (done : List (Path × Term)) : Nat → List Char → Option (List (Path × Term) × List Char)
  | 0, _ => none
  | fuel + 1, cs =>
    match path? (skipGaps cs) with
    | some (path, '=' :: rest) =>
      match term? fuel (skipGaps rest) with
      | none => none
      | some (t, rest) =>
        match skipGaps rest with
        | ',' :: rest => members? ((path, t) :: done) fuel rest
        | '\x7d' :: rest => some (((path, t) :: done).reverse, rest)
        | _ => none
    | _ => none

end

/-! ### Statements -/

/-- Reads one statement and leaves its line. -/
def statement? (cs : List Char) : Option (Statement × List Char) :=
  match cs with
  | '[' :: '[' :: rest =>
    match path? (skipGaps rest) with
    | some (path, ']' :: ']' :: rest) => (endLine? rest).map fun rest => (.repeated path, rest)
    | _ => none
  | '[' :: rest =>
    match path? (skipGaps rest) with
    | some (path, ']' :: rest) => (endLine? rest).map fun rest => (.heading path, rest)
    | _ => none
  | _ =>
    match path? cs with
    | some (path, '=' :: rest) =>
      (term? (rest.length + 1) (skipGaps rest)).bind fun (t, rest) =>
        (endLine? rest).map fun rest => (.assignment path t, rest)
    | _ => none

/-- Reads statements up to the end. -/
def statementsFrom? : Nat → List Char → Option (List Statement)
  | 0, _ => none
  | fuel + 1, cs =>
    match skipLines (cs.length + 1) cs with
    | [] => some []
    | start => (statement? start).bind fun (s, rest) => (statementsFrom? fuel rest).map (s :: ·)

/-- Drops a byte order mark. -/
def dropMark : List Char → List Char
  | '\ufeff' :: cs => cs
  | cs => cs

/-- Reads a text as statements. -/
def statements? (text : String) : Option (List Statement) :=
  let cs := dropMark text.toList
  if isClean cs then statementsFrom? (cs.length + 1) cs else none

/-- Reads a text as a table. -/
def read? (text : String) : Option Entries := (statements? text).bind Statement.collect?

end Toml
end DoomPatch
