import DoomPatch.Time.Stamp

/-!
# Configuration values

A configuration text describes a tree of named values.

* `Value` — a value; `Entries` are the names of a table with their values, oldest first.
* `Entries.table?` — the table under a path; of tables that repeat, the newest counts.
* `Entries.within?` — changes the table under a path.
* `Entries.graft?` — gives a dotted name a value, whatever it had before.
-/

namespace DoomPatch
namespace Toml

/-- A value. -/
inductive Value where
  /-- A text. -/
  | text (s : String)
  /-- A whole number. -/
  | integer (n : Int)
  /-- A number with a fraction or an exponent, as it was written. -/
  | decimal (digits : String)
  /-- A truth value. -/
  | boolean (b : Bool)
  /-- A date, a time, or both. -/
  | stamp (s : Stamp)
  /-- A list. -/
  | list (items : List Value)
  /-- A table. -/
  | table (entries : List (String × Value))
  /-- Tables under one repeated heading, the newest first. -/
  | series (tables : List (List (String × Value)))

/-- Names with their values, oldest first. -/
abbrev Entries := List (String × Value)

/-- The names on the way to a value. -/
abbrev Path := List String

namespace Entries

/-- Gives a name a value, in its place if it has one already. -/
def put (es : Entries) (name : String) (v : Value) : Entries :=
  if (es.lookup name).isSome then es.map fun e => if e.1 = name then (name, v) else e
  else es ++ [(name, v)]

/-- The table under a path. -/
def table? : Path → Entries → Option Entries
  | [], es => some es
  | name :: path, es =>
    match es.lookup name with
    | some (.table sub) | some (.series (sub :: _)) => table? path sub
    | _ => none

/-- Changes the table under a path. -/
def within? (f : Entries → Option Entries) : Path → Entries → Option Entries
  | [], es => f es
  | name :: path, es =>
    match es.lookup name with
    | some (.table sub) => (within? f path sub).map fun sub => es.put name (.table sub)
    | some (.series (t :: ts)) => (within? f path t).map fun t => es.put name (.series (t :: ts))
    | _ => none

/-- Gives a dotted name a value.  Only tables may stand on the way. -/
def graft? (v : Value) : Path → Entries → Option Entries
  | [], _ => none
  | [name], es => some (es.put name v)
  | name :: path, es =>
    match es.lookup name with
    | none => (graft? v path []).map fun sub => es ++ [(name, .table sub)]
    | some (.table sub) => (graft? v path sub).map fun sub => es.put name (.table sub)
    | some _ => none

end Entries
end Toml
end DoomPatch
