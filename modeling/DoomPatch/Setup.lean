import DoomPatch.Session

/-!
# Parts

A component is put together from parts.  It is refused, with all that is wrong in one fault, if a part is
missing or a plain setting of it is not admitted.
-/

namespace DoomPatch

/-- A component with its plain settings. -/
inductive Component where
  /-- A patch session of a format version. -/
  | session (version : Int)
  /-- A converter. -/
  | converter
  /-- The conversion service. -/
  | service
  /-- A store of runs in a directory. -/
  | directory (root : String)
  /-- A store of runs on a hash server that keeps them for some time. -/
  | server (keep : Int)

namespace Component

/-- The parts that a component needs. -/
def parts : Component → List String
  | session _ => ["Logger"]
  | converter => ["Source", "Logger"]
  | service => ["Repository", "IDGen", "Clock", "Logger"]
  | directory _ => []
  | server _ => ["Client"]

/-- What is wrong with the plain settings. -/
def settingProblems (p : Problems) : Component → Problems
  | session version => p.check (0 ≤ version) "Version" s!"must not be negative, got {version}"
  | directory root => p.required "Root" root
  | server keep => p.check (0 ≤ keep) "TTL" "must not be negative"
  | converter | service => p

/-- What is wrong with a component that is put together from given parts. -/
def problems (c : Component) (given : List String) : Problems :=
  c.settingProblems <| c.parts.foldl (fun p part => p.check (given.contains part) part "is required") Problems.none

/-- Puts a component together; nothing is to be put together if it is not described. -/
def assemble (c : Option Component) (given : List String) : Except Fault Unit :=
  match c with
  | none => .error (Fault.invalid "config cannot be nil")
  | some c => ((c.problems given).orElse ()).mapError fun f => f.under "invalid config"

end Component

/-- Why a hash server cannot be addressed. -/
def serverAddress (endpoint : String) : Except Fault String :=
  if endpoint = "" then .error (.plain "redis: endpoint is required") else .ok endpoint

end DoomPatch
