import DoomPatch.CommandLine.Command
import DoomPatch.Text.Numeral
import DoomPatch.Text.Quoted

/-!
# Options of the command line

An argument that begins with two dashes is an option.  Its value follows behind an equals sign or as the next
argument; a switch needs none.  Options may stand anywhere; behind a lone `--` there are none.

* `Options.ofArguments` — the options and the other arguments of a command.
-/

namespace DoomPatch

/-- The options of a command. -/
structure Options where
  /-- The configuration file. -/
  config : String := ""
  /-- The least level of log lines. -/
  logLevel : String := ""
  /-- The directory of runs. -/
  out : String := ""
  /-- The address of a hash server. -/
  server : String := ""
  /-- The script that is applied first. -/
  script : String := ""
  /-- The version of the patch format; a negative number counts as not given. -/
  version : Int := -1
  /-- Whether lumps are printed. -/
  print : Bool := false
  /-- Whether the run is not stored. -/
  noStore : Bool := false
  /-- Whether help is asked for. -/
  help : Bool := false
deriving DecidableEq, Repr

/-- An option: how it takes its value. -/
inductive OptionKind where
  /-- Any text. -/
  | text (set : String → Options → Options)
  /-- A number. -/
  | number (set : Int → Options → Options)
  /-- A truth value, true if none is given. -/
  | switch (set : Bool → Options → Options)

/-- Why arguments are refused. -/
inductive ArgumentError where
  /-- An option without a name. -/
  | badForm (argument : String)
  /-- There is no such option. -/
  | unknownOption (name : String)
  /-- There is no such short option. -/
  | unknownShort (letters : String)
  /-- The value is left out. -/
  | noValue (argument : String)
  /-- The value is of the wrong form. -/
  | badValue (name value reason : String)
  /-- There are too many or too few arguments. -/
  | count (expected : String) (received : Nat)
  /-- There is no such command. -/
  | unknownCommand (name : String)
  /-- A thing is not given by a positive number. -/
  | thingNumber (given : String)
  /-- There is no such type of record. -/
  | unknownRecord (name : String)
  /-- Help is asked for. -/
  | help

namespace ArgumentError

/-- The wording. -/
def message : ArgumentError → String
  | badForm a => "bad flag syntax: " ++ a
  | unknownOption name => "unknown flag: --" ++ name
  | unknownShort letters =>
    let first := (letters.toUTF8.toList.take 1).map fun b => Text.quotedChar (Char.ofNat b.toNat)
    "unknown shorthand flag: " ++ String.join first ++ " in -" ++ letters
  | noValue a => "flag needs an argument: " ++ a
  | badValue name value reason =>
    "invalid argument " ++ Text.quoted value ++ " for " ++ Text.quoted name ++ " flag: " ++ reason
  | count expected received => s!"accepts {expected} arg(s), received {received}"
  | unknownCommand name =>
    "unknown command " ++ Text.quoted name ++ " for \"dehconv\"" ++
      match Command.alike name with
      | [] => ""
      | names => "\n\nDid you mean this?\n" ++ String.join (names.map fun n => "\t" ++ n ++ "\n")
  | thingNumber given => "thing number must be a positive integer, got " ++ Text.quoted given
  | unknownRecord name => "unknown entity " ++ Text.quoted name
  | help => "help requested"

end ArgumentError

namespace Options

/-- The option that asks for help. -/
def helpKind : OptionKind := .switch fun v o => { o with help := v }

/-- The options that every command has. -/
def shared : List (String × OptionKind) := [
  ("config", .text fun v o => { o with config := v }),
  ("log-level", .text fun v o => { o with logLevel := v }),
  ("out", .text fun v o => { o with out := v }),
  ("redis", .text fun v o => { o with server := v }),
  ("help", helpKind)]

/-- How an option is shown. -/
def label (name : String) : String := if name = "help" then "-h, --help" else "--" ++ name

/-- The version of the patch format. -/
def versionOption : String × OptionKind := ("doom-version", .number fun v o => { o with version := v })

/-- The options that a command has. -/
def ofCommand : Command → List (String × OptionKind)
  | .convert => shared ++ [versionOption, ("print", .switch fun v o => { o with print := v }),
      ("no-store", .switch fun v o => { o with noStore := v })]
  | .showThing => shared ++ [versionOption, ("script", .text fun v o => { o with script := v })]
  | .showRun | .fields | .manual => shared

/-- The truth value of a word. -/
def truth? (word : String) : Option Bool :=
  if ["1", "t", "T", "TRUE", "true", "True"].contains word then some true
  else if ["0", "f", "F", "FALSE", "false", "False"].contains word then some false
  else none

/-- Why a numeral is refused. -/
inductive NumeralError where
  /-- It is malformed. -/
  | malformed
  /-- It is too large. -/
  | tooLarge
deriving DecidableEq, Repr

/-- The wording. -/
def NumeralError.message : NumeralError → String
  | malformed => "invalid syntax"
  | tooLarge => "value out of range"

/-- The base of a numeral by how it begins, whether the beginning is a mark, and the digits. -/
def baseOf : List Char → Nat × Bool × List Char
  | '0' :: m :: d :: ds =>
    if m = 'x' ∨ m = 'X' then (16, true, d :: ds)
    else if m = 'b' ∨ m = 'B' then (2, true, d :: ds)
    else if m = 'o' ∨ m = 'O' then (8, true, d :: ds)
    else (8, false, m :: d :: ds)
  | '0' :: ds => (8, false, ds)
  | ds => (10, false, ds)

/-- Reads digits from left to right, up to the first that is none or that makes the number too large for 64 bits.
Underscores are passed over. -/
def readDigits (base n : Nat) : List Char → Except NumeralError Nat
  | [] => .ok n
  | c :: cs =>
    if c = '_' then readDigits base n cs
    else
      match Numeral.digitValue? c with
      | some d =>
        if base ≤ d then .error .malformed
        else if UInt64.size ≤ n * base + d then .error .tooLarge
        else readDigits base (n * base + d) cs
      | none => .error .malformed

/-- Whether underscores stand only behind a digit or a mark, and none at the end. -/
def underscoresFit (behind : Bool) : List Char → Bool
  | [] => true
  | ['_'] => false
  | '_' :: cs => behind && underscoresFit false cs
  | _ :: cs => underscoresFit true cs

/-- The number of a numeral in the base that its beginning tells. -/
def readNumber (text : String) : Except NumeralError Int :=
  let (negative, body) := Numeral.splitSign text.toList
  let (base, marked, ds) := baseOf body
  if body.isEmpty then .error .malformed
  else
    (readDigits base 0 ds).bind fun n =>
      let value : Int := if negative then -(n : Int) else n
      if !underscoresFit (marked || base == 8) ds then .error .malformed
      else if Numeral.fits64 value then .ok value
      else .error .tooLarge

/-- Why a word was not read. -/
def reason (reader word problem : String) : String :=
  "strconv." ++ reader ++ ": parsing " ++ Text.quoted word ++ ": " ++ problem

/-- Gives an option its value. -/
def assign (o : Options) (name : String) (kind : OptionKind) (value : String) : Except ArgumentError Options :=
  match kind with
  | .text set => .ok (set value o)
  | .switch set =>
    match truth? value with
    | some b => .ok (set b o)
    | none => .error (.badValue (label name) value (reason "ParseBool" value "invalid syntax"))
  | .number set =>
    match readNumber value with
    | .ok n => .ok (set n o)
    | .error e => .error (.badValue (label name) value (reason "ParseInt" value e.message))

/-- Splits the value off an option that carries it. -/
def splitValue (cs : List Char) : String × Option String :=
  let name := String.ofList (cs.takeWhile (· != '='))
  match cs.dropWhile (· != '=') with
  | _ :: value => (name, some (String.ofList value))
  | [] => (name, none)

/-- What is passed over behind a single dash. -/
def testLetters : List Char := ['t', 'e', 's', 't', '.']

/-- Reads the letters behind a single dash.  The only one that is known asks for help. -/
def ofLetters (o : Options) : List Char → Except ArgumentError Options
  | [] => .ok o
  | c :: cs =>
    if testLetters.isPrefixOf (c :: cs) then .ok o
    else if c ≠ 'h' then .error (.unknownShort (String.ofList (c :: cs)))
    else
      match cs with
      | '=' :: v :: vs => o.assign "help" helpKind (String.ofList (v :: vs))
      | _ => ofLetters { o with help := true } cs

/-- Takes the options out of arguments.  The other arguments come in order. -/
def ofArguments (known : List (String × OptionKind)) (o : Options) :
    List String → Except ArgumentError (Options × List String)
  | [] => .ok (o, [])
  | a :: rest =>
    match a.toList with
    | ['-', '-'] => .ok (o, rest)
    | '-' :: '-' :: body =>
      if body.head? = some '-' ∨ body.head? = some '=' then .error (.badForm a)
      else
        let (name, value) := splitValue body
        match known.lookup name, value with
        | none, _ => .error (.unknownOption name)
        | some kind, some v => (o.assign name kind v).bind fun o => ofArguments known o rest
        | some (.switch set), none => ofArguments known (set true o) rest
        | some kind, none =>
          match rest with
          | v :: rest => (o.assign name kind v).bind fun o => ofArguments known o rest
          | [] => .error (.noValue a)
    | '-' :: c :: cs => (o.ofLetters (c :: cs)).bind fun o => ofArguments known o rest
    | _ => (ofArguments known o rest).map fun (o, others) => (o, a :: others)

end Options
end DoomPatch
