import DoomPatch.Chain
import DoomPatch.Flag
import DoomPatch.Thing

/-!
# Monsters

No flag says that a thing is a monster, so it is judged by its record: a thing with a map number that counts
as a kill is one, an item is none, and otherwise a weighted score decides.  Once the animations are known,
chasing and falling count too and the bar is higher.
-/

namespace DoomPatch

/-- What the animations of a thing reveal. -/
structure Conduct where
  /-- It chases its target. -/
  chase : Bool
  /-- It falls when it dies. -/
  fall : Bool
deriving DecidableEq

namespace Monster

/-- Looks for chasing while moving and for falling while dying. -/
def conduct (r : Reel) (t : Thing) : Conduct where
  chase := Word.hasAll (r.chainFlags t.see) Behaviour.chase
  fall := Word.hasAll (r.chainFlags t.death ||| r.chainFlags t.xdeath) Behaviour.fall

/-- A weight that counts if a test holds. -/
def weigh (test : Bool) (weight : Int) : Int := if test then weight else 0

/-- The weighted score. -/
def score (t : Thing) (c : Option Conduct) : Int :=
  weigh (t.has ThingFlag.solid) 25
    + weigh (t.has ThingFlag.shootable) 72
    + weigh (t.pain != 0) 91
    + weigh (t.melee != 0 || t.missile != 0) 91
    + weigh (t.death != 0) 72
    + weigh (t.raise != 0) 31
    + weigh (t.speed != 0) 87
    + weigh (c.any (·.chase)) 78
    + weigh (c.any (·.fall)) 61

/-- The bar without and with knowledge of the animations. -/
def threshold (c : Option Conduct) : Int := if c.isNone then 300 else 370

/-- Whether a thing counts as a monster. -/
def judge (t : Thing) (c : Option Conduct) : Bool :=
  if t.doomedNum ≤ 0 || t.isAttack || t.player != 0 then false
  else if t.has ThingFlag.countKill then true
  else if t.has ThingFlag.special || t.has ThingFlag.countItem then false
  else threshold c ≤ score t c

end Monster
end DoomPatch
