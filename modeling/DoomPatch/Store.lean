import DoomPatch.Store.Directory
import DoomPatch.Store.Hash

/-!
# Stores

A store keeps runs by name, in a directory or on a hash server.

* `Medium` — what stores write to.
* `Store.save`, `Store.load` — the operations; a request without a run or a name is refused by either store.
-/

namespace DoomPatch

/-- What stores write to. -/
structure Medium where
  /-- The files. -/
  files : FileTree := {}
  /-- The hash server. -/
  server : HashServer := {}

/-- A store of runs. -/
inductive Store where
  /-- In a directory. -/
  | directory (d : Directory)
  /-- On a hash server. -/
  | hashes (h : HashStore)

namespace Store

/-- Replaces a run.  The answer is its place. -/
def save (s : Store) (m : Medium) (run : Option Run) : Medium × Except StoreError String :=
  match run with
  | none => (m, .error .noRun)
  | some r =>
    if r.id = "" then (m, .error .noName)
    else
      match s with
      | .directory d =>
        let (files, answer) := d.save m.files r
        ({ m with files }, answer)
      | .hashes h =>
        let (server, answer) := h.save m.server r
        ({ m with server }, answer)

/-- Reads a run back. -/
def load (s : Store) (m : Medium) (id : Option String) : Except StoreError Run :=
  match id with
  | none | some "" => .error .noName
  | some id =>
    match s with
    | .directory d => d.load m.files id
    | .hashes h => h.load m.server id

end Store
end DoomPatch
