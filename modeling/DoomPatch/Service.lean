import DoomPatch.Script
import DoomPatch.Store
import DoomPatch.Workbench

/-!
# The conversion service

Applies edits, converts what they modify, and stores the result as a run.

* `Service.convert` — converts everything that edits modify, and stores it if asked to.
* `Service.showThing` — converts one thing under edits.
* `Service.getRun` — loads a stored run.
-/

namespace DoomPatch

/-- A store of runs, names for new ones, and the time. -/
structure Service where
  /-- The store. -/
  store : Store
  /-- What the store writes to. -/
  medium : Medium := {}
  /-- Names for runs. -/
  names : RunNames := {}
  /-- The time at which runs are made. -/
  now : Stamp

/-- Edits of a patch in a format. -/
structure Patch where
  /-- The version of the format. -/
  version : Int := 0
  /-- The edits. -/
  edits : List Edit := []

/-- What a conversion gives. -/
structure Converted where
  /-- The stored run, if there is one: its name and its place. -/
  stored : Option (String × String) := none
  /-- The lumps. -/
  lumps : List Lump
  /-- The warnings. -/
  warnings : List Warning

/-- Why a request was not fulfilled. -/
inductive ServiceError where
  /-- There was no request. -/
  | noRequest
  /-- The number of a thing is negative. -/
  | negativeThing (id : Int)
  /-- No run was named. -/
  | noRunName
  /-- The session cannot be opened. -/
  | session (cause : Fault)
  /-- An edit failed. -/
  | edits (cause : EditError)
  /-- The conversion failed. -/
  | conversion (cause : ConversionError)
  /-- The conversion of one thing failed. -/
  | thing (id : Int) (cause : ConversionError)
  /-- The run was not stored. -/
  | save (id : String) (cause : StoreError)
  /-- The run was not loaded. -/
  | load (id : String) (cause : StoreError)

/-- The fault that reports the error. -/
def ServiceError.fault : ServiceError → Fault
  | noRequest => Fault.invalid "input is required"
  | negativeThing id => Fault.invalid s!"thing id must not be negative, got {id}"
  | noRunName => Fault.invalid "run id is required"
  | session cause => cause.under "failed to create session"
  | edits cause => cause.fault.under "failed to apply edits"
  | conversion cause => cause.fault.under "failed to convert"
  | thing id cause => cause.fault.under s!"failed to convert thing {id}"
  | save id cause => cause.fault.under s!"failed to save run {id}"
  | load id cause => cause.fault.under s!"failed to load run {id}"

namespace Patch

/-- The workbench on which the edits have been carried out. -/
def prepare (p : Patch) : Except ServiceError Workbench :=
  match Session.create p.version with
  | .error f => .error (.session f)
  | .ok s =>
    match s.applyAll p.edits with
    | (_, some e) => .error (.edits e)
    | (s, none) => .ok (Workbench.ofSession s)

/-- What a workbench holds after a conversion. -/
def collect (b : Workbench) : Converted := { lumps := b.press.buffer.lumps, warnings := b.session.warnings }

/-- Converts everything that the edits modify. -/
def convert (p : Patch) : Except ServiceError Converted := do
  match (← p.prepare).convertAll with
  | (_, some e) => .error (.conversion e)
  | (b, none) => .ok (collect b)

/-- Converts one thing under the edits. -/
def convertThing (p : Patch) (id : Int) : Except ServiceError Converted := do
  match (← p.prepare).convertThing id with
  | (_, some e) => .error (.thing id e)
  | (b, none) => .ok (collect b)

end Patch

namespace Service

/-- Stores lumps under a new name. -/
def persist (s : Service) (c : Converted) : Service × Except ServiceError Converted :=
  let (id, names) := s.names.next
  let (medium, answer) := s.store.save s.medium (some ⟨id, s.now, c.lumps⟩)
  let s := { s with medium, names }
  match answer with
  | .ok place => (s, .ok { c with stored := some (id, place) })
  | .error e => (s, .error (.save id e))

/-- Converts everything that edits modify, and stores it if asked to. -/
def convert (s : Service) (request : Option (Patch × Bool)) : Service × Except ServiceError Converted :=
  match request with
  | none => (s, .error .noRequest)
  | some (patch, keep) =>
    match patch.convert with
    | .error e => (s, .error e)
    | .ok c => if keep then s.persist c else (s, .ok c)

/-- Converts one thing under edits. -/
def showThing (request : Option (Patch × Int)) : Except ServiceError Converted :=
  match request with
  | none => .error .noRequest
  | some (patch, id) => if id < 0 then .error (.negativeThing id) else patch.convertThing id

/-- Loads a stored run. -/
def getRun (s : Service) (request : Option String) : Except ServiceError Run :=
  match request with
  | none => .error .noRequest
  | some id =>
    if id = "" then .error .noRunName
    else (s.store.load s.medium (some id)).mapError (.load id)

end Service
end DoomPatch
