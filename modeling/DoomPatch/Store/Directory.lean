import DoomPatch.Store.Error
import DoomPatch.Store.FileTree
import DoomPatch.Store.Manifest

/-!
# Runs in a directory

Each run has a directory below a common one, with a file for each lump and the manifest.  The name of a run
is a path from the common directory.

* `Directory.save` — replaces a run.
* `Directory.load` — reads a run back and checks each lump against its digest.
-/

namespace DoomPatch

/-- A store of runs in a directory. -/
structure Directory where
  /-- The common directory. -/
  root : String

namespace Directory

/-- The directory of a run. -/
def place (d : Directory) (id : String) : Path := (Path.ofText d.root).join id

/-- The file of a lump. -/
def lumpFile (dir : Path) (name : String) : Path := dir.join (name ++ ".txt")

/-- The manifest of a run. -/
def manifestFile (dir : Path) : Path := dir.join "run.toml"

/-- Writes lumps in order, up to the first that cannot be written, whose file is returned. -/
def writeLumps (dir : Path) (t : FileTree) : List Lump → FileTree × Option Path
  | [] => (t, none)
  | l :: ls =>
    match t.write? (lumpFile dir l.name) l.text with
    | some t => writeLumps dir t ls
    | none => (t, some (lumpFile dir l.name))

/-- Replaces a run.  The answer is its place. -/
def save (d : Directory) (t : FileTree) (r : Run) : FileTree × Except StoreError String :=
  let dir := d.place r.id
  match t.clear dir with
  | .refused => (t, .error (.clear dir.text))
  | .emptied t => (t, .error (.clear dir.text))
  | .gone t =>
    match t.make dir with
    | (t, false) => (t, .error (.create dir.text))
    | (t, true) =>
      match writeLumps dir t r.lumps with
      | (t, some path) => (t, .error (.writeLump path.text))
      | (t, none) =>
        match t.write? (manifestFile dir) (Manifest.ofRun r).text with
        | some t => (t, .ok dir.text)
        | none => (t, .error .writeManifest)

/-- Reads the lumps of a list of kinds that have a digest. -/
def loadLumps (id : String) (dir : Path) (t : FileTree) (digests : SortedMap String String) :
    List LumpKind → Except StoreError (List Lump)
  | [] => .ok []
  | kind :: kinds =>
    match digests.get? kind.name with
    | none => loadLumps id dir t digests kinds
    | some stored =>
      match t.read (lumpFile dir kind.name) with
      | .error _ => .error (.readLump id kind.name)
      | .ok text =>
        match StoreError.check id kind.name text stored with
        | .error e => .error e
        | .ok () => (loadLumps id dir t digests kinds).map fun ls => ⟨kind, kind.name, text⟩ :: ls

/-- Reads a run back.  Its name is the one in the manifest. -/
def load (d : Directory) (t : FileTree) (id : String) : Except StoreError Run :=
  let dir := d.place id
  match t.read (manifestFile dir) with
  | .error .missing => .error (.unknown id)
  | .error .blocked => .error (.manifest id)
  | .ok text =>
    match Manifest.read? text with
    | none => .error (.manifest id)
    | some m => (loadLumps id dir t m.digests LumpKind.all).map fun lumps => ⟨m.id, m.created, lumps⟩

end Directory
end DoomPatch
