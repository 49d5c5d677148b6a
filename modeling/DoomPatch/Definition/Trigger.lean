import DoomPatch.Definition.View

/-!
# Triggers of bosses

On some levels something happens when all bosses of the level are dead.  A patch that makes other things
bosses of such a level gets a radius trigger for it.
-/

namespace DoomPatch

/-- The event of a level. -/
structure BossTrigger where
  /-- The flag that makes a thing a boss of the level. -/
  flag : UInt32
  /-- The level. -/
  level : String
  /-- What happens. -/
  action : String

namespace BossTrigger

/-- The events in the order in which they are written. -/
def all : List BossTrigger := [
  ⟨ExtendedFlag.map07Boss1, "MAP07", "ACTIVATE_LINETYPE 38 666"⟩,
  ⟨ExtendedFlag.map07Boss2, "MAP07", "ACTIVATE_LINETYPE 30 667"⟩,
  ⟨ExtendedFlag.e1m8Boss, "E1M8", "ACTIVATE_LINETYPE 38 666"⟩,
  ⟨ExtendedFlag.e2m8Boss, "E2M8", "EXIT_LEVEL 5"⟩,
  ⟨ExtendedFlag.e3m8Boss, "E3M8", "EXIT_LEVEL 5"⟩,
  ⟨ExtendedFlag.e4m6Boss, "E4M6", "ACTIVATE_LINETYPE 109 666"⟩,
  ⟨ExtendedFlag.e4m8Boss, "E4M8", "ACTIVATE_LINETYPE 38 666"⟩]

/-- The trigger that waits for some things to die. -/
def text (e : BossTrigger) (names : List String) : String :=
  s!"START_MAP {e.level}\n"
    ++ "  RADIUSTRIGGER 0 0 -1\n"
    ++ "    WAIT_UNTIL_DEAD " ++ " ".intercalate names ++ "\n"
    ++ s!"    {e.action}\n"
    ++ "  END_RADIUSTRIGGER\n"
    ++ "END_MAP\n\n"

/-- The names of the new bosses of a level. -/
def bosses (v : View) (e : BossTrigger) : List String := (v.session.carriers e.flag).map v.thingName

/-- All triggers that have a new boss; nothing if there are none. -/
def script? (v : View) : Option String :=
  let texts := all.filterMap fun e =>
    let names := e.bosses v
    if names.isEmpty then none else some (e.text names)
  if texts.isEmpty then none else some ("// boss death triggers\n\n" ++ String.join texts)

end BossTrigger
end DoomPatch
