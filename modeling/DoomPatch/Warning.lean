/-!
# Warnings

A problem that does not stop a run: an edit that was skipped, or a definition that was left out or made up.
-/

namespace DoomPatch

/-- What a warning is about. -/
inductive WarningKind where
  /-- A field that does not exist. -/
  | unknownField
  /-- A number outside its range. -/
  | outOfRange
  /-- A flag name that does not exist. -/
  | unknownMnemonic
  /-- A code pointer that does not exist. -/
  | unknownPointer
  /-- A text that nothing matches. -/
  | unknownText
  /-- A thing without animation. -/
  | missingStates
  /-- An attack that was written before. -/
  | duplicateAttack
deriving DecidableEq, Repr

/-- The name of the kind in reports. -/
def WarningKind.name : WarningKind → String
  | unknownField => "unknown_field"
  | outOfRange => "out_of_range"
  | unknownMnemonic => "unknown_mnemonic"
  | unknownPointer => "unknown_pointer"
  | unknownText => "unknown_text"
  | missingStates => "missing_states"
  | duplicateAttack => "duplicate_attack"

/-- One warning. -/
structure Warning where
  /-- What it is about. -/
  kind : WarningKind
  /-- The type of the entity concerned. -/
  entity : String
  /-- Its number. -/
  id : Int := 0
  /-- The field concerned, if any. -/
  field : String := ""
  /-- The wording. -/
  message : String
deriving DecidableEq, Repr

end DoomPatch
