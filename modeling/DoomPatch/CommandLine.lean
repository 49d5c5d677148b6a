import DoomPatch.CommandLine.Options
import DoomPatch.Field.Ammo
import DoomPatch.Field.Frame
import DoomPatch.Field.Misc
import DoomPatch.Field.Sound
import DoomPatch.Field.Thing
import DoomPatch.Field.Weapon
import DoomPatch.Logging
import DoomPatch.Service
import DoomPatch.Settings

/-!
# The command line

A call of the program: its arguments, the files and the environment it sees, and what it prints.

* `World` — what a call sees and changes.
* `Outcome` — what a call prints, and the fault it ends with.
* `CommandLine.run` — carries out a call.
-/

namespace DoomPatch

/-- What a call sees and changes. -/
structure World where
  /-- Files and hash server. -/
  medium : Medium := {}
  /-- The environment. -/
  env : Settings.Environment := []
  /-- Names for new runs. -/
  names : RunNames := { stem := "run" }
  /-- The time. -/
  now : Stamp
  /-- Whether the hash server can be reached. -/
  reachable : Bool := true

/-- What a call prints, and the fault it ends with. -/
structure Outcome where
  /-- The output. -/
  out : String := ""
  /-- The warnings. -/
  err : String := ""
  /-- The fault. -/
  fault : Option Fault := none

namespace CommandLine

/-- The fault of arguments. -/
def argumentFault (e : ArgumentError) : Fault := .plain e.message

/-- A text filled up to a width with spaces. -/
def padRight (width : Nat) (s : String) : String := s ++ String.ofList (List.replicate (width - s.length) ' ')

/-! ### Fields -/

/-- The lines of a table of fields. -/
def fieldLines {φ ρ : Type} (t : FieldTable φ ρ) : String :=
  String.join <| t.names.map fun name =>
    "  " ++ padRight 24 name ++ " " ++ (((t.find? name).map t.kind).getD .any).name ++ "\n"

/-- The lines of each table, by the name of its records. -/
def fieldListing : List (String × String) := [
  ("ammo", fieldLines AmmoField.table), ("frames", fieldLines FrameField.table),
  ("misc", fieldLines MiscField.table), ("sounds", fieldLines SoundField.table),
  ("things", fieldLines ThingField.table), ("weapons", fieldLines WeaponField.table)]

/-- Lists the fields of one type of record, or of all. -/
def listFields : Option String → Except Fault String
  | none => .ok (String.join (fieldListing.map fun e => s!"[{e.1}]\n{e.2}\n"))
  | some name =>
    match fieldListing.lookup (Text.lower name) with
    | some lines => .ok lines
    | none => .error (argumentFault (.unknownRecord name))

/-! ### Lumps and warnings -/

/-- Lumps under their names. -/
def lumpText (lumps : List Lump) : String :=
  String.join (lumps.map fun l => s!"// ---- {l.name} ----\n{l.text}")

/-- The lines of warnings. -/
def warningText (warnings : List Warning) : String :=
  String.join (warnings.map fun w => s!"warning: {w.entity} {w.id}: {w.message}\n")

/-! ### Calls -/

/-- The text of a file, or nothing if it cannot be read. -/
def fileText? (w : World) (path : String) : Option String :=
  match w.medium.files.reach path with
  | .ok (.file text) => some text
  | _ => none

/-- The settings of a call: those of file and environment, and options over them. -/
def settings (w : World) (o : Options) : Except Fault Settings := do
  let file := if o.config = "" then none else some (o.config, fileText? w o.config)
  let s ← (Settings.load file w.env).mapError (·.fault)
  let s := { s with
    level := if o.logLevel = "" then s.level else o.logLevel
    dir := if o.out = "" then s.dir else o.out
    server := if o.server = "" then s.server else o.server }
  let s ← s.checked.mapError fun e => e.fault.under "invalid flags"
  let _ ← (Logging.create s.level s.format).mapError (·.fault)
  return s

/-- The store that settings name.  Settings that passed their check keep no run for less than no time. -/
def store (w : World) (s : Settings) : Store :=
  if s.usesServer then .hashes { stem := s.keyStem, keep := s.keep.toNat, reachable := w.reachable }
  else .directory ⟨s.dir⟩

/-- The service of a call. -/
def service (w : World) (s : Settings) : Service :=
  { store := store w s, medium := w.medium, names := w.names, now := w.now }

/-- The script of a file.  A directory is no script. -/
def script (w : World) (path : String) : Except Fault Script :=
  match w.medium.files.reach path with
  | .ok (.file text) => (Script.read text).mapError (·.fault)
  | .ok .directory => .error ScriptError.unreadable.fault
  | .error _ => .error (Fault.new Code.internal s!"failed to open edit script {path}")

/-- The patch of a script, if one is named.  Its version is the one that is asked for, else the one of the script,
else the one of the settings. -/
def patch (w : World) (s : Settings) (path : String) (version : Int) : Except Fault Patch := do
  let (own, edits) ←
    if path = "" then pure (none, [])
    else (script w path).map fun sc => (if sc.hasVersion then some sc.version else none, sc.edits)
  return ⟨if 0 ≤ version then version else own.getD s.version, edits⟩

/-- Converts a script. -/
def convert (w : World) (o : Options) (path : String) : World × Except Fault Outcome :=
  match settings w o with
  | .error f => (w, .error f)
  | .ok s =>
    match patch w s path o.version with
    | .error f => (w, .error f)
    | .ok p =>
      let (served, answer) := (service w s).convert (some (p, !o.noStore))
      let w := { w with medium := served.medium, names := served.names }
      match answer with
      | .error e => (w, .error (.within s!"failed to convert {path}" e.fault))
      | .ok c =>
        let summary :=
          match c.stored with
          | some (id, place) => s!"Run {id}: {c.lumps.length} lumps stored at {place}\n"
          | none => if o.print then "" else s!"{c.lumps.length} lumps converted\n"
        (w, .ok { out := (if o.print then lumpText c.lumps else "") ++ summary, err := warningText c.warnings })

/-- The positive number that names a thing. -/
def thingNumber (given : String) : Except Fault Int :=
  match Numeral.readSigned? given.toList with
  | some n => if 1 ≤ n then .ok n else .error (argumentFault (.thingNumber given))
  | none => .error (argumentFault (.thingNumber given))

/-- Prints one thing.  Things are counted from 1 here. -/
def showThing (w : World) (o : Options) (given : String) : Except Fault Outcome := do
  let n ← thingNumber given
  let s ← settings w o
  let p ← patch w s o.script o.version
  let c ← (Service.showThing (some (p, n - 1))).mapError fun e => .within s!"failed to show thing {n}" e.fault
  return { out := lumpText c.lumps, err := warningText c.warnings }

/-- Prints a stored run. -/
def showRun (w : World) (o : Options) (id : String) : Except Fault Outcome := do
  let s ← settings w o
  let r ← ((service w s).getRun (some id)).mapError fun e => .within "failed to load run" e.fault
  return { out := s!"// run {r.id} created {r.created.line}\n" ++ lumpText r.lumps }

/-- Carries out a command. -/
def runCommand (w : World) (c : Command) (o : Options) (args : List String) : World × Except Fault Outcome :=
  match c, args with
  | .convert, [path] => convert w o path
  | .showThing, [given] => (w, showThing w o given)
  | .showRun, [id] => (w, showRun w o id)
  | .fields, [] => (w, (listFields none).map fun out => { out })
  | .fields, [name] => (w, (listFields (some name)).map fun out => { out })
  | .fields, _ => (w, .error (argumentFault (.count "at most 1" args.length)))
  | _, _ => (w, .error (argumentFault (.count "1" args.length)))

/-- The command of a call, its options and its other arguments. -/
def parse (args : List String) : Except ArgumentError (Command × Options × List String) :=
  match Command.word? args with
  | none => (Options.ofArguments Options.shared {} args).bind fun _ => .error .help
  | some word =>
    match Command.ofName? word with
    | none => .error (.unknownCommand word)
    | some c => do
      let (o, others) ← Options.ofArguments (Options.ofCommand c) {} (Command.dropWord word args)
      if o.help || c == .manual then .error .help else .ok (c, o, others)

/-- How the program is called. -/
def usage : String :=
  "Usage:\n  dehconv convert [script.yaml]\n  dehconv show-thing [number]\n"
    ++ "  dehconv show-run [run-id]\n  dehconv fields [things|frames|weapons|ammo|sounds|misc]\n"

/-- Carries out a call. -/
def run (w : World) (args : List String) : World × Outcome :=
  match parse args with
  | .error .help => (w, { out := usage })
  | .error e => (w, { fault := some (argumentFault e) })
  | .ok (c, o, others) =>
    match runCommand w c o others with
    | (w, .ok outcome) => (w, outcome)
    | (w, .error f) => (w, { fault := some f })

/-! ### What a call looks at -/

/-- The directory of the run that a call prints or stores, as far as the files that are known tell. -/
def runPlace? (w : World) (args : List String) : Option Path :=
  match parse args with
  | .error _ => none
  | .ok (c, o, others) =>
    match settings w o with
    | .error _ => none
    | .ok s =>
      if s.usesServer then none
      else
        match c, others with
        | .showRun, [id] => some (Directory.place ⟨s.dir⟩ id)
        | .convert, [_] => if o.noStore then none else some (Directory.place ⟨s.dir⟩ w.names.next.1)
        | _, _ => none

/-- The places of the files that the arguments of a call name, and those on the way. -/
def namedFiles (args : List String) : List Path :=
  match parse args with
  | .error _ => []
  | .ok (c, o, others) => (o.config :: o.script :: if c = .convert then others else []).flatMap Path.stops

end CommandLine
end DoomPatch
