import DoomPatch.Animation
import DoomPatch.Definition.Block
import DoomPatch.Definition.View

/-!
# Actions of frames

A code pointer becomes an action of the definition language.  Some take their target from the arguments of
the frame.  A code pointer for close combat has no attack of its own to name, so it is given one: a scratch
attack, named after its owner and the frame.
-/

namespace DoomPatch

/-- A close attack made up for one frame. -/
structure Scratch where
  /-- The name of the attack. -/
  name : String
  /-- The frame. -/
  frame : Int
  /-- The least damage. -/
  damage : Int
  /-- The greatest damage. -/
  most : Int
  /-- The sound it makes, if any. -/
  sound : Int
  /-- How far it reaches; an arm's length unless positive. -/
  reach : Int
deriving DecidableEq

namespace Scratch

/-- The name of the attack for a frame of an owner. -/
def nameOf (owner : String) (frame : Int) : String := s!"SCRATCH_{owner}_{frame}"

/-- The definition of the attack. -/
def block (s : Scratch) : Block where
  name := s.name
  clauses :=
    [⟨"ATTACKTYPE", "CLOSECOMBAT"⟩,
     ⟨"DAMAGE.VAL", toString s.damage⟩,
     ⟨"DAMAGE.MAX", toString s.most⟩,
     ⟨"ATTACKRANGE", if 0 < s.reach then Definition.fixed s.reach else "64"⟩]
    ++ Definition.clauseIf (0 < s.sound) "ENGAGED_SOUND" (Definition.quote (View.soundRef s.sound))

end Scratch

/-- What a frame does. -/
inductive Action where
  /-- Strikes with a scratch attack. -/
  | scratch (s : Scratch)
  /-- Fires a projectile. -/
  | range (name : String)
  /-- Creates a thing. -/
  | spawn (name : String)
  /-- Plays a sound. -/
  | sound (ref : String)
  /-- Something that takes no target. -/
  | plain (text : String)
deriving DecidableEq

namespace Action

/-- The text of an action. -/
def text : Action → String
  | scratch s => s!"CLOSE_ATTACK({s.name})"
  | range name => s!"RANGE_ATTACK({name})"
  | spawn name => s!"SPAWN({name})"
  | sound ref => s!"PLAYSOUND({ref})"
  | plain text => text

/-- The scratch attack that an action strikes with. -/
def scratch? : Action → Option Scratch
  | scratch s => some s
  | _ => none

/-- A value, or another one instead of zero. -/
def orDefault (n default : Int) : Int := if n = 0 then default else n

/-- The action of a frame of an owner. -/
def ofFrame (v : View) (owner : String) (id : Int) (f : Frame) : Action :=
  match CodePointer.ofAction? f.action with
  | none => plain "NOTHING"
  | some p =>
    match p.mnemonic with
    | "Scratch" =>
      scratch ⟨Scratch.nameOf owner id, id, f.misc1, f.misc1, f.misc2, 0⟩
    | "MonsterMeleeAttack" =>
      let base := orDefault (f.arg 0) 3
      let dice := orDefault (f.arg 1) 8
      scratch ⟨Scratch.nameOf owner id, id, base, Word.mul base dice, f.arg 2, f.arg 3⟩
    | "MonsterProjectile" => ((v.referred? (f.arg 0)).map range).getD (plain p.ddf)
    | "Spawn" => ((v.referred? f.misc1).map spawn).getD (plain p.ddf)
    | "SpawnObject" => ((v.referred? (f.arg 0)).map spawn).getD (plain p.ddf)
    | "PlaySound" => if 0 < f.misc1 then sound (View.soundRef f.misc1) else plain p.ddf
    | _ => plain p.ddf

end Action

/-- The state lists of an animation, with the scratch attacks of its frames in order. -/
structure Storyboard where
  /-- The state lists. -/
  states : List Clause
  /-- The scratch attacks. -/
  scratches : List Scratch

namespace Storyboard

/-- The state lists of an animation whose frames act as given. -/
def ofAnimation (v : View) (act : Int → Frame → Action) (groups : Animation) : Storyboard where
  states :=
    let display : Display := ⟨v.session.spriteName, fun id f => (act id f).text⟩
    (display.allStates v.reel groups).map fun e => ⟨e.1, e.2⟩
  scratches :=
    groups.flatMap fun g => g.frames.filterMap fun id => (act id ((v.reel.frame? id).getD {})).scratch?

end Storyboard
end DoomPatch
