import DoomPatch.Conversion
import DoomPatch.Session.Apply

/-!
# Workbenches

A workbench holds a session and a press side by side, so that edits and conversions can alternate.  The
warnings of conversions join those of edits in the session, in the order in which they arise.
-/

namespace DoomPatch

/-- A session and what is made from it. -/
structure Workbench extends View where
  /-- The press. -/
  press : Press := {}

namespace Workbench

/-- A workbench with nothing written yet. -/
def ofSession (session : Session) : Workbench := { session }

/-- Carries out one edit. -/
def apply (b : Workbench) (e : Edit) : Workbench × Option EditError :=
  match b.session.apply e with
  | .ok session => ({ b with session }, none)
  | .error err => (b, some err)

/-- Carries out edits in order, up to the first fault. -/
def applyAll (b : Workbench) (edits : List Edit) : Workbench × Option EditError :=
  let (session, err) := b.session.applyAll edits
  ({ b with session }, err)

/-- Changes the session. -/
def mapSession (b : Workbench) (f : Session → Session) : Workbench := { b with session := f b.session }

/-- Hides a thing from conversions. -/
def hide (b : Workbench) (id : Int) : Workbench := { b with hidden := id :: b.hidden }

/-- Gives a thing another name in conversions. -/
def rename (b : Workbench) (id : Int) (name : String) : Workbench :=
  { b with names := b.names.insert id name }

/-- Takes a new press. -/
def renew (b : Workbench) : Workbench := { b with press := {} }

/-- Puts the press back after a conversion and hands its warnings to the session. -/
def settle (b : Workbench) (p : Press) : Workbench :=
  { b with
    session := { b.session with warnings := b.session.warnings ++ p.warnings }
    press := { p with warnings := [] } }

/-- Converts everything that is modified. -/
def convertAll (b : Workbench) : Workbench × Option ConversionError :=
  let (p, err) := b.press.convertAll b.toView
  (b.settle p, err)

/-- Settles a conversion of one entity; nothing changes if it failed. -/
def settleOne (b : Workbench) : Except ConversionError Press → Workbench × Option ConversionError
  | .ok p => (b.settle p, none)
  | .error e => (b, some e)

/-- Converts one thing or projectile. -/
def convertThing (b : Workbench) (id : Int) : Workbench × Option ConversionError :=
  b.settleOne (b.press.convertThing b.toView id)

/-- Converts one weapon. -/
def convertWeapon (b : Workbench) (id : Int) : Workbench × Option ConversionError :=
  b.settleOne (b.press.convertWeapon b.toView id)

end Workbench
end DoomPatch
