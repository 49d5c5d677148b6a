import DoomPatch.Fault.Validation
import DoomPatch.Field
import DoomPatch.Text.Case
import DoomPatch.Time.Duration
import DoomPatch.Toml.Reader

/-!
# Settings

What a run of the command line is set up with.  Settings start from fixed values; a configuration file
overrides them, the environment overrides both, and the result is checked.

* `Settings.overlay?` — the tables `conversion`, `output` and `logging` of a configuration file.
* `Settings.overlayEnv?` — variables; one that is empty counts as not set.
* `Settings.problems` — the checks.
* `Settings.load` — all of it.
-/

namespace DoomPatch

/-- Settings of a run. -/
structure Settings where
  /-- The patch format of scripts that name none. -/
  version : Int := 21
  /-- The directory runs are written to. -/
  dir : String := "ddf_out"
  /-- The address of the hash server that runs are written to instead, if it is not empty. -/
  server : String := ""
  /-- What keys on the hash server begin with. -/
  keyStem : String := "dehconv:"
  /-- How long the hash server keeps a run, in nanoseconds. -/
  keep : Int := Duration.week
  /-- The least level of log lines. -/
  level : String := "info"
  /-- The form of log lines. -/
  format : String := "console"
deriving DecidableEq, Repr

/-- Why there are no settings. -/
inductive SettingsError where
  /-- The configuration file cannot be read. -/
  | unreadable (path : String)
  /-- The configuration file is malformed, or a value is of the wrong kind. -/
  | malformed (path : String)
  /-- A variable is malformed. -/
  | environment
  /-- A value is not admitted. -/
  | refused (problems : Problems)

namespace SettingsError

/-- The fault that reports the error. -/
def fault : SettingsError → Fault
  | unreadable path => Fault.new Code.internal s!"failed to read config {path}"
  | malformed path => Fault.invalid s!"failed to parse config {path}"
  | environment => Fault.invalid "failed to parse environment"
  | refused p => Fault.invalid p.text |>.note "validation_errors" (.problems p.fields)

end SettingsError

namespace Toml

/-- Which of some names is meant: the same one, or else the first that differs in case only. -/
def meaning? (names : List String) (name : String) : Option String :=
  if names.contains name then some name else names.find? fun known => Text.sameFold name known

/-- Takes over the entries whose names mean one of some names, in order.  Others are passed over. -/
def Entries.overlay? {σ : Type} (names : List String) (set? : σ → String → Value → Option σ) (start : σ)
    (es : Entries) : Option σ :=
  es.foldlM (fun s e =>
    match meaning? names e.1 with
    | none => some s
    | some name => set? s name e.2) start

end Toml

namespace Settings

/-- Takes over a value of the table `conversion`. -/
def setConversion? (s : Settings) : String → Toml.Value → Option Settings
  | "doom_version", .integer n => some { s with version := n }
  | _, _ => none

/-- Takes over a value of the table `output`.  A duration is written out, or given in nanoseconds. -/
def setOutput? (s : Settings) : String → Toml.Value → Option Settings
  | "dir", .text t => some { s with dir := t }
  | "redis_addr", .text t => some { s with server := t }
  | "key_prefix", .text t => some { s with keyStem := t }
  | "ttl", .text t => (Duration.read? t).map fun n => { s with keep := n }
  | "ttl", .integer n => some { s with keep := n }
  | _, _ => none

/-- Takes over a value of the table `logging`. -/
def setLogging? (s : Settings) : String → Toml.Value → Option Settings
  | "level", .text t => some { s with level := t }
  | "format", .text t => some { s with format := t }
  | _, _ => none

/-- Takes over a table of a configuration file. -/
def setTable? (s : Settings) : String → Toml.Value → Option Settings
  | "conversion", .table es => Toml.Entries.overlay? ["doom_version"] setConversion? s es
  | "output", .table es => Toml.Entries.overlay? ["dir", "redis_addr", "key_prefix", "ttl"] setOutput? s es
  | "logging", .table es => Toml.Entries.overlay? ["level", "format"] setLogging? s es
  | _, _ => none

/-- The settings after those of a configuration file.  Names without meaning are passed over. -/
def overlay? (s : Settings) (es : Toml.Entries) : Option Settings :=
  Toml.Entries.overlay? ["conversion", "output", "logging"] setTable? s es

/-- The environment. -/
abbrev Environment := List (String × String)

/-- What variables begin with. -/
def variableStem : String := "DEHCONV_"

/-- The variables that count. -/
def variableNames : List String :=
  ["CONVERSION_DOOM_VERSION", "OUTPUT_DIR", "OUTPUT_REDIS_ADDR", "OUTPUT_KEY_PREFIX", "OUTPUT_TTL",
    "LOGGING_LEVEL", "LOGGING_FORMAT"].map (variableStem ++ ·)

/-- The value of a variable, or another if it is empty or not set. -/
def setting (env : Environment) (name old : String) : String :=
  match env.lookup (variableStem ++ name) with
  | some "" | none => old
  | some v => v

/-- A variable read in some way, or another value if it is empty or not set. -/
def readSetting? (env : Environment) (name : String) (read? : String → Option Int) (old : Int) : Option Int :=
  let v := setting env name ""
  if v = "" then some old else read? v

/-- Reads a whole number of 32 bits. -/
def int32? (text : String) : Option Int :=
  (Numeral.readSigned? text.toList).bind fun n =>
    if Int32.minValue.toInt ≤ n ∧ n ≤ Int32.maxValue.toInt then some n else none

/-- The settings after those of the environment. -/
def overlayEnv? (s : Settings) (env : Environment) : Option Settings := do
  return {
    version := ← readSetting? env "CONVERSION_DOOM_VERSION" int32? s.version
    dir := setting env "OUTPUT_DIR" s.dir
    server := setting env "OUTPUT_REDIS_ADDR" s.server
    keyStem := setting env "OUTPUT_KEY_PREFIX" s.keyStem
    keep := ← readSetting? env "OUTPUT_TTL" Duration.read? s.keep
    level := setting env "LOGGING_LEVEL" s.level
    format := setting env "LOGGING_FORMAT" s.format }

/-- Whether runs are kept on a hash server. -/
def usesServer (s : Settings) : Bool := s.server != ""

/-- What is wrong with the settings. -/
def problems (s : Settings) : Problems :=
  let p := Problems.none.check (0 ≤ s.version && s.version ≤ Limits.extendedVersion) "conversion.doom_version"
    s!"must be between 0 and {Limits.extendedVersion}, got {s.version}"
  let p := if s.usesServer then p else p.required "output.dir" s.dir
  let p := p.check (0 ≤ s.keep) "output.ttl" "must not be negative"
  let p := p.oneOf "logging.level" (Text.lower s.level) ["debug", "info", "warn", "error"]
  p.oneOf "logging.format" (Text.lower s.format) ["console", "json"]

/-- The settings, if nothing is wrong with them. -/
def checked (s : Settings) : Except SettingsError Settings :=
  if s.problems.any then .error (.refused s.problems) else .ok s

/-- A configuration file: its path, and its text if it can be read. -/
abbrev File := String × Option String

/-- The settings of a configuration file, if one is named. -/
def ofFile (file : Option File) : Except SettingsError Settings :=
  match file with
  | none => .ok {}
  | some (path, none) => .error (.unreadable path)
  | some (path, some text) =>
    match (Toml.read? text).bind ({} : Settings).overlay? with
    | some s => .ok s
    | none => .error (.malformed path)

/-- The settings of a configuration file and the environment. -/
def load (file : Option File) (env : Environment) : Except SettingsError Settings := do
  let s ← ofFile file
  match s.overlayEnv? env with
  | some s => s.checked
  | none => .error .environment

end Settings
end DoomPatch
