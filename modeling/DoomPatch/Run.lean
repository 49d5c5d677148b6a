import DoomPatch.Digest
import DoomPatch.Lump
import DoomPatch.SortedMap
import DoomPatch.Time.Stamp

/-!
# Runs

A run is the result of one conversion as it is stored: a name, the time it was made, and its lumps.
-/

namespace DoomPatch

/-- The stored result of a conversion. -/
structure Run where
  /-- Its name. -/
  id : String
  /-- When it was made. -/
  created : Stamp
  /-- Its lumps. -/
  lumps : List Lump
deriving DecidableEq

namespace Run

/-- The digests of the lumps by name; of two lumps of one name the later counts. -/
def digests (r : Run) : SortedMap String UInt64 :=
  SortedMap.ofList (r.lumps.map fun l => (l.name, Digest.ofText l.text))

/-- The lump of a kind. -/
def lump? (r : Run) (kind : LumpKind) : Option Lump := r.lumps.find? fun l => l.kind = kind

end Run

/-- Names for runs: a stem, if there is one, and a tag that differs from run to run.  Names are counted in words of 64
bits. -/
structure RunNames where
  /-- The stem. -/
  stem : String := ""
  /-- How many names were given out. -/
  count : UInt64 := 0
  /-- The tag of the name of a number, counted from 1. -/
  tag : UInt64 → String := fun n => String.ofList (Numeral.render 10 n.toNat)

namespace RunNames

/-- The name of a number. -/
def name (r : RunNames) (n : UInt64) : String := if r.stem = "" then r.tag n else r.stem ++ "_" ++ r.tag n

/-- The next name. -/
def next (r : RunNames) : String × RunNames := (r.name (r.count + 1), { r with count := r.count + 1 })

/-- The names that would come next. -/
def take (r : RunNames) : Nat → List String
  | 0 => []
  | n + 1 =>
    let (name, r) := r.next
    name :: r.take n

end RunNames
end DoomPatch
