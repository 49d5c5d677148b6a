import DoomPatch.Toml.Value

/-!
# Configuration tables under construction

A configuration text is a list of statements.  A heading opens a table, a dotted name gives a value to a place
further down, and the tables on the way come to be by implication.  What has a value cannot be given another,
with two exceptions: an implied table may be opened once, and a list may be replaced.

* `Term`, `Statement` — what is written.
* `Draft` — the tables so far, with the paths of those that are implied and of the lists.
* `Draft.assign?` — gives a name a value.
* `Draft.enter?` — opens a table, or adds one to a series.
* `Draft.value?` — the value of a term.  The members of a table in braces are entered one by one, as if the
  table had a heading.
* `Draft.add?` — what a statement does.
-/

namespace DoomPatch
namespace Toml

/-- A value as it is written. -/
inductive Term where
  /-- A value without parts. -/
  | atom (v : Value)
  /-- A list in brackets. -/
  | list (items : List Term)
  /-- A table in braces. -/
  | members (pairs : List (Path × Term))

/-- Whether a term is a list. -/
def Term.isList : Term → Bool
  | .list _ => true
  | _ => false

/-- A statement of a configuration text. -/
inductive Statement where
  /-- A heading. -/
  | heading (path : Path)
  /-- A repeated heading. -/
  | repeated (path : Path)
  /-- A dotted name with its value. -/
  | assignment (path : Path) (term : Term)

/-- A table while its text is read. -/
structure Draft where
  /-- The values so far. -/
  entries : Entries := []
  /-- The paths of tables that are only implied. -/
  implied : List Path := []
  /-- The paths of lists. -/
  lists : List Path := []
  /-- The path of the present heading. -/
  here : Path := []

namespace Draft

/-- Marks a table as implied. -/
def imply (d : Draft) (path : Path) : Draft := { d with implied := path :: d.implied }

/-- Marks a table as no longer implied. -/
def settle (d : Draft) (path : Path) : Draft := { d with implied := d.implied.filter (· != path) }

/-- The path under which it is kept whether a value is a list.  An empty name stands for the table it is
in. -/
def listPath (place : Path) (name : String) : Path :=
  if name = "" then if place.isEmpty then [""] else place else place ++ [name]

/-- Keeps whether a value is a list. -/
def note (d : Draft) (place : Path) (name : String) (isList : Bool) : Draft :=
  let path := listPath place name
  let others := d.lists.filter (· != path)
  { d with lists := if isList then path :: others else others }

/-- Puts a value into the table at a place. -/
def put? (d : Draft) (place : Path) (name : String) (v : Value) : Option Draft :=
  (d.entries.within? (fun es => some (es.put name v)) place).map fun entries => { d with entries }

/-- Gives a name in the table at a place a value.  If it has one, that is replaced if it is a list, and kept if
it is an implied table. -/
def assign? (d : Draft) (place : Path) (name : String) (v : Value) : Option Draft :=
  let path := place ++ [name]
  (d.entries.table? place).bind fun es =>
    if (es.lookup name).isNone then d.put? place name v
    else if d.lists.contains path then (d.settle path).put? place name v
    else if d.implied.contains path then some (d.settle path)
    else none

/-- Sees to it that tables lead from a place down a path. -/
def establish? (place : Path) : Path → Draft → Option Draft
  | [], d => some d
  | name :: path, d =>
    let next := place ++ [name]
    (d.entries.table? place).bind fun es =>
      match es.lookup name with
      | none => ((d.imply next).put? place name (.table [])).bind (establish? next path)
      | some (.table _) | some (.series _) => establish? next path d
      | some _ => none

/-- Adds a table to the series of a name in the table at a place. -/
def append? (d : Draft) (place : Path) (name : String) : Option Draft :=
  (d.entries.table? place).bind fun es =>
    match es.lookup name with
    | none => d.put? place name (.series [[]])
    | some (.series ts) => d.put? place name (.series ([] :: ts))
    | some _ => none

/-- Opens the table under a path, or adds it to a series. -/
def enter? (d : Draft) (repeated : Bool) (path : Path) : Option Draft :=
  (establish? [] path.dropLast d).bind fun d =>
    path.getLast?.bind fun name =>
      if repeated then d.append? path.dropLast name else d.assign? path.dropLast name (.table [])

/-- Enters the tables down a path, from a place on, by implication. -/
def descend? (place : Path) : Path → Draft → Option Draft
  | [], d => some d
  | name :: path, d =>
    let next := place ++ [name]
    ((d.imply next).enter? false next).bind (descend? next path)

mutual

/-- The value of a term for a name in the table at a place. -/
def value? (place : Path) (name : String) (inList : Bool) : Term → Draft → Option (Value × Draft)
  | .atom v, d => some (v, d)
  | .list items, d => (items? place name items (d.note place name true)).map fun (vs, d) => (.list vs, d)
  | .members pairs, d =>
    let next := place ++ [name]
    ((d.imply next).enter? inList next).bind fun d =>
      (members? next [] pairs d).map fun (es, d) => (.table es, d)

/-- The values of the items of a list. -/
def items? (place : Path) (name : String) : List Term → Draft → Option (List Value × Draft)
  | [], d => some ([], d)
  | term :: rest, d =>
    (value? place name true term d).bind fun (v, d) =>
      (items? place name rest d).map fun (vs, d) => (v :: vs, d)

/-- Assigns values to dotted names, from a place on.  `done` are the values so far, as a table of its own. -/
def members? (place : Path) (done : Entries) : List (Path × Term) → Draft → Option (Entries × Draft)
  | [], d => some (done, d)
  | (path, term) :: rest, d =>
    let next := place ++ path.dropLast
    let name := path.getLastD ""
    (descend? place path.dropLast d).bind fun d =>
      (value? next name false term d).bind fun (v, d) =>
        (d.assign? next name v).bind fun d =>
          (done.graft? v path).bind fun done => members? place done rest (d.note next name term.isList)

end

/-- The tables after a statement. -/
def add? (d : Draft) : Statement → Option Draft
  | .heading path => (d.enter? false path).map fun d => { d.note path "" false with here := path }
  | .repeated path => (d.enter? true path).map fun d => { d.note path "" false with here := path }
  | .assignment path term => (members? d.here [] [(path, term)] d).map (·.2)

end Draft

/-- The table that statements describe. -/
def Statement.collect? (statements : List Statement) : Option Entries :=
  (statements.foldlM Draft.add? {}).map (·.entries)

end Toml
end DoomPatch
