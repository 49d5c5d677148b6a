/-!
# Sounds
-/

namespace DoomPatch

/-- A sound effect. -/
structure Sound where
  /-- The name, in lower case. -/
  name : String := ""
  /-- The rank when channels run out. -/
  priority : Int := 0
  /-- The group of which only one plays at a time. -/
  singularity : Int := 0
deriving DecidableEq, Inhabited

end DoomPatch
