import DoomPatch.Digest
import DoomPatch.Fault

/-!
# Faults of stores

Why a run was not stored or not loaded.
-/

namespace DoomPatch

/-- Why a run was not stored or not loaded. -/
inductive StoreError where
  /-- No run was given. -/
  | noRun
  /-- The run has no name. -/
  | noName
  /-- The directory of the run cannot be cleared. -/
  | clear (path : String)
  /-- The directory of the run cannot be made. -/
  | create (path : String)
  /-- The file of a lump cannot be written. -/
  | writeLump (path : String)
  /-- The manifest cannot be written. -/
  | writeManifest
  /-- There is no run of the name. -/
  | unknown (id : String)
  /-- The manifest cannot be read. -/
  | manifest (id : String)
  /-- The file of a lump cannot be read. -/
  | readLump (id name : String)
  /-- A lump has no digest that can be read. -/
  | noDigest (id name : String)
  /-- A lump differs from what was stored. -/
  | damaged (id name : String)
  /-- The hash server did not take the run. -/
  | send (id : String)
  /-- The hash server did not give an answer. -/
  | fetch (id : String)
  /-- The stored time cannot be read. -/
  | stamp (id : String)
deriving DecidableEq, Repr

namespace StoreError

/-- A fault that concerns a run. -/
def ofRun (code : Code) (id message : String) : Fault := (Fault.new code message).note "run_id" (.text id)

/-- The fault that reports the error. -/
def fault : StoreError → Fault
  | noRun => Fault.invalid "run cannot be nil"
  | noName => Fault.invalid "run ID cannot be empty"
  | clear path => Fault.new Code.internal s!"failed to clear run directory {path}"
  | create path => Fault.new Code.internal s!"failed to create run directory {path}"
  | writeLump path => Fault.new Code.internal s!"failed to write lump {path}"
  | writeManifest => Fault.new Code.internal "failed to write run manifest"
  | unknown id => ofRun Code.notFound id s!"run {id} not found"
  | manifest id => Fault.new Code.internal s!"failed to read manifest of run {id}"
  | readLump id name => ofRun Code.internal id s!"failed to read lump {name}"
  | noDigest id name => ofRun Code.internal id s!"lump {name} has no valid digest"
  | damaged id name => ofRun Code.internal id s!"lump {name} does not match its digest"
  | send id => ofRun Code.internal id "failed to store run in Redis"
  | fetch id => ofRun Code.internal id "failed to get run from Redis"
  | stamp id => ofRun Code.internal id "failed to parse run timestamp"

/-- Checks a lump against its written digest. -/
def check (id name text stored : String) : Except StoreError Unit :=
  match Digest.read? stored with
  | none => .error (.noDigest id name)
  | some d => if Digest.ofText text = d then .ok () else .error (.damaged id name)

end StoreError
end DoomPatch
