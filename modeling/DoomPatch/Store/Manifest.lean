import DoomPatch.Run
import DoomPatch.Settings
import DoomPatch.Toml.Printer

/-!
# Manifests

A run in a directory comes with a manifest: its name, its time, and the digest of each lump.

* `Manifest.text` — the written form.
* `Manifest.read?` — reads one; what is left out is empty, and a time left out is the beginning of the year 1.
-/

namespace DoomPatch

/-- The manifest of a run. -/
structure Manifest where
  /-- The name of the run. -/
  id : String
  /-- When the run was made. -/
  created : Stamp
  /-- The written digests by lump name. -/
  digests : SortedMap String String
deriving DecidableEq

namespace Manifest

/-- The manifest of a run. -/
def ofRun (r : Run) : Manifest where
  id := r.id
  created := r.created.utc
  digests := SortedMap.ofList (r.lumps.map fun l => (l.name, Digest.text (Digest.ofText l.text)))

/-- The line of one digest. -/
def digestLine (name digest : String) : String := "  " ++ Toml.nameText name ++ " = " ++ Toml.quoted digest ++ "\n"

/-- The written form. -/
def text (m : Manifest) : String :=
  "id = " ++ Toml.quoted m.id ++ "\ncreated_at = " ++ m.created.text ++ "\n\n[digests]\n"
    ++ String.join (m.digests.entries.map fun e => digestLine e.1 e.2)

/-- The time of a value: a time, or a text that holds one. -/
def stampOf? : Toml.Value → Option Stamp
  | .stamp s => if s.offset.natAbs < 24 * 60 then some s else none
  | .text s => Stamp.read? s
  | _ => none

/-- Adds the written digests of a table. -/
def addDigests? (m : Manifest) (es : Toml.Entries) : Option Manifest :=
  es.foldlM (fun m e =>
    match e.2 with
    | .text s => some { m with digests := m.digests.insert e.1 s }
    | _ => none) m

/-- Takes over a value.  Digests that are no table do not count. -/
def set? (m : Manifest) : String → Toml.Value → Option Manifest
  | "id", .text s => some { m with id := s }
  | "created_at", v => (stampOf? v).map fun created => { m with created }
  | "digests", .table es => m.addDigests? es
  | "digests", _ => some m
  | _, _ => none

/-- Reads a manifest. -/
def read? (text : String) : Option Manifest :=
  (Toml.read? text).bind fun es =>
    es.overlay? ["id", "created_at", "digests"] set? ⟨"", Stamp.zero, SortedMap.empty⟩

end Manifest
end DoomPatch
