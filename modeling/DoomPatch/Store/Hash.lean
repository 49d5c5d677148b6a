import DoomPatch.Run
import DoomPatch.Store.Error
import DoomPatch.Store.HashServer
import DoomPatch.Time.Duration

/-!
# Runs on a hash server

Each run is one key with named texts: the time, and for each lump its text and its digest.

* `HashStore.commands`, `HashStore.save` — replaces a run and lets its time begin anew.
* `HashStore.load` — reads a run back and checks each lump against its digest.
-/

namespace DoomPatch

/-- A store of runs on a hash server. -/
structure HashStore where
  /-- What keys begin with. -/
  stem : String := ""
  /-- How long a run is kept, in nanoseconds; zero means a week. -/
  keep : Nat := 0
  /-- Whether the server can be reached. -/
  reachable : Bool := true

namespace HashStore

/-- The seconds for which a run is kept; a part of a second counts as one. -/
def seconds (h : HashStore) : Int :=
  let ns : Int := if h.keep = 0 then Duration.week else h.keep
  if 0 < ns ∧ ns < Duration.second then 1 else ns.tdiv Duration.second

/-- The key of a run. -/
def key (h : HashStore) (id : String) : String := h.stem ++ "run:" ++ id

/-- The name of the text of a lump. -/
def lumpField (name : String) : String := "lump:" ++ name

/-- The name of the digest of a lump. -/
def digestField (name : String) : String := "digest:" ++ name

/-- The named texts of a run. -/
def fieldsOf (r : Run) : SortedMap String String :=
  SortedMap.ofList <| ("created_at", r.created.utc.text) :: r.lumps.flatMap fun l =>
    [(lumpField l.name, l.text), (digestField l.name, Digest.text (Digest.ofText l.text))]

/-- The commands that replace a run: what its key had is dropped, the named texts of the run are set, and its time
begins. -/
def commands (h : HashStore) (r : Run) : List HashCommand :=
  [.delete (h.key r.id), .set (h.key r.id) (fieldsOf r), .expire (h.key r.id) h.seconds]

/-- Replaces a run.  The answer is its key. -/
def save (h : HashStore) (s : HashServer) (r : Run) : HashServer × Except StoreError String :=
  match if h.reachable then s.transact (h.commands r) else (s, false) with
  | (s, true) => (s, .ok (h.key r.id))
  | (s, false) => (s, .error (.send r.id))

/-- Reads the lumps of a list of kinds that have a text. -/
def loadLumps (id : String) (values : SortedMap String String) : List LumpKind → Except StoreError (List Lump)
  | [] => .ok []
  | kind :: kinds =>
    match values.get? (lumpField kind.name) with
    | none => loadLumps id values kinds
    | some text =>
      match StoreError.check id kind.name text ((values.get? (digestField kind.name)).getD "") with
      | .error e => .error e
      | .ok () => (loadLumps id values kinds).map fun ls => ⟨kind, kind.name, text⟩ :: ls

/-- Reads a run back. -/
def load (h : HashStore) (s : HashServer) (id : String) : Except StoreError Run :=
  match if h.reachable then s.fetch? (h.key id) else none with
  | none => .error (.fetch id)
  | some values =>
    if values.isEmpty then .error (.unknown id)
    else
      match Stamp.read? ((values.get? "created_at").getD "") with
      | none => .error (.stamp id)
      | some created => (loadLumps id values LumpKind.all).map fun lumps => ⟨id, created, lumps⟩

end HashStore
end DoomPatch
