import DoomPatch.Yaml.Node

/-!
# Repetition in YAML documents

Aliases of aliases let a short document stand for a huge one.  Reading a document is a tour of its nodes, on
which nodes under an alias are met again each time; a document is refused as soon as almost everything met
so far is repetition.

* `Tally.isExcessive` — when there is too much repetition.
* `Node.tour?` — the tour of a node.  Of entries that a mapping takes over, only those under new names are
  entered, but all keys are met; and a mapping that takes over others meets its own keys twice.
* `Node.isModest` — whether a document can be toured to its end.
-/

namespace DoomPatch
namespace Yaml

/-- How many nodes were met on a tour, and how many of them under an alias. -/
structure Tally where
  /-- Nodes met. -/
  met : Nat := 0
  /-- Those of them under an alias. -/
  again : Nat := 0
deriving DecidableEq, Repr

namespace Tally

/-- So many nodes may be met whatever they are. -/
def freely : Nat := 1000

/-- So many nodes may be met under aliases whatever their share is. -/
def againFreely : Nat := 100

/-- Up to so many nodes, 99 of 100 may be repetition. -/
def small : Nat := 400000

/-- From so many nodes on, 10 of 100 may be repetition.  In between, the share falls evenly. -/
def large : Nat := 4000000

/-- Whether there is too much repetition. -/
def isExcessive (t : Tally) : Bool :=
  decide (againFreely < t.again) && decide (freely < t.met) &&
    let beyond := min t.met large - small
    decide (t.met * (99 * (large - small) - 89 * beyond) < 100 * (large - small) * t.again)

/-- Meets a node, unless that is too much repetition. -/
def meet? (t : Tally) (again : Bool) : Option Tally :=
  let t := { met := t.met + 1, again := t.again + again.toNat }
  if t.isExcessive then none else some t

end Tally

/-- A tour of mappings that are taken over: what was met, and the names that are taken. -/
abbrev Takeover := Tally × List String

namespace Node

/-- The names of the keys of some entries. -/
def keyNames (entries : Layer) : List String := entries.filterMap fun e => e.1.string?.join

mutual

/-- The tour of a node. -/
def tour? (again : Bool) (t : Tally) : Node → Option Tally
  | .scalar _ _ _ | .loop _ => t.meet? again
  | .alias _ target => (t.meet? again).bind fun t => target.tour? true t
  | .sequence _ items => (t.meet? again).bind fun t => tourItems? again t items
  | .mapping _ entries => do
    let t ← t.meet? again
    let (t, _) ← tourEntries? again (t, []) entries
    if entries.any fun e => e.1.isMerge then
      let t ← tourKeys? again t entries
      let (t, _) ← tourMerged? again (t, "<<" :: keyNames entries) entries
      return t
    else return t

/-- The tour of some nodes. -/
def tourItems? (again : Bool) (t : Tally) : List Node → Option Tally
  | [] => some t
  | n :: rest => (n.tour? again t).bind fun t => tourItems? again t rest

/-- The tour of the keys of some entries. -/
def tourKeys? (again : Bool) (t : Tally) : List (Node × Node) → Option Tally
  | [] => some t
  | (key, _) :: rest => (key.tour? again t).bind fun t => tourKeys? again t rest

/-- The tour of some entries.  The merge key is left out, and so are values without a name or under a name
that is taken. -/
def tourEntries? (again : Bool) (s : Takeover) : List (Node × Node) → Option Takeover
  | [] => some s
  | (key, value) :: rest =>
    if key.isMerge then tourEntries? again s rest
    else do
      let t ← key.tour? again s.1
      match key.string?.join with
      | none => tourEntries? again (t, s.2) rest
      | some name =>
        if s.2.contains name then tourEntries? again (t, s.2) rest
        else
          let t ← value.tour? again t
          tourEntries? again (t, name :: s.2) rest

/-- The tour of what stands under the merge key of some entries. -/
def tourMerged? (again : Bool) (s : Takeover) : List (Node × Node) → Option Takeover
  | [] => some s
  | (key, value) :: rest =>
    if key.isMerge then
      match value with
      | .sequence _ items => tourSources? again s items
      | n => n.tourSource? again s
    else tourMerged? again s rest

/-- The tour of a mapping that is taken over. -/
def tourSource? (again : Bool) (s : Takeover) : Node → Option Takeover
  | .alias _ target => (s.1.meet? again).bind fun t => target.tourSource? true (t, s.2)
  | .mapping _ entries => do
    let t ← s.1.meet? again
    let s ← tourEntries? again (t, s.2) entries
    tourMerged? again s entries
  | _ => some s

/-- The tour of some mappings that are taken over. -/
def tourSources? (again : Bool) (s : Takeover) : List Node → Option Takeover
  | [] => some s
  | n :: rest => (n.tourSource? again s).bind fun s => tourSources? again s rest

end

/-- Whether a document can be toured to its end.  The document itself is met first. -/
def isModest (n : Node) : Bool := (n.tour? false { met := 1 }).isSome

end Node
end Yaml
end DoomPatch
