import DoomPatch.Text.Case
import DoomPatch.Text.Distance

/-!
# Commands

The first argument that is neither an option nor the value of one names the command.

* `Command.word?` — that argument; `Command.dropWord` — the arguments without it.
* `Command.ofName?` — the command of a name.
* `Command.alike` — the names that a wrong one may be meant for.
-/

namespace DoomPatch

/-- What can be asked for. -/
inductive Command where
  /-- Converts a script. -/
  | convert
  /-- Prints one thing. -/
  | showThing
  /-- Prints a stored run. -/
  | showRun
  /-- Lists the fields of records. -/
  | fields
  /-- Prints how the program is called. -/
  | manual
deriving DecidableEq, Repr

namespace Command

/-- The commands by name, in order. -/
def names : List (String × Command) := [
  ("completion", manual), ("convert", convert), ("fields", fields), ("help", manual), ("show-run", showRun),
  ("show-thing", showThing)]

/-- The command of a name. -/
def ofName? (name : String) : Option Command := names.lookup name

/-- How far a name may be from the one that is meant. -/
def reach : Nat := 2

/-- Whether a name may be meant for another: it is the beginning of it, or close to it.  Case does not
count. -/
def isAlike (typed name : String) : Bool :=
  name.startsWith (Text.lower typed) || Text.distance (Text.lower typed) name ≤ reach

/-- The names that a wrong one may be meant for. -/
def alike (typed : String) : List String :=
  (names.map (·.1)).filter fun name => name != "help" && isAlike typed name

/-- Whether an argument is an option that takes the next argument as its value, for all that is known without
the command. -/
def takesNext (a : String) : Bool :=
  match a.toList with
  | '-' :: '-' :: body => !body.contains '='
  | ['-', c] => c != '=' && c.toNat < 0x80
  | _ => false

/-- The argument that names the command.  Behind a lone `--` there is none, nor is the last argument one if it
may be a value. -/
def word? : List String → Option String
  | [] => none
  | a :: rest =>
    if a = "--" then none
    else if takesNext a then
      match rest with
      | _ :: b :: rest => word? (b :: rest)
      | _ => none
    else if a = "" ∨ a.startsWith "-" then word? rest
    else some a

/-- The arguments without the one that names the command. -/
def dropWord (word : String) : List String → List String
  | [] => []
  | a :: rest =>
    if a = "--" then a :: rest
    else if takesNext a then
      match rest with
      | v :: rest => a :: v :: dropWord word rest
      | [] => [a]
    else if a = word then rest
    else a :: dropWord word rest

end Command
end DoomPatch
