import DoomPatch.Role
import DoomPatch.Word

/-!
# Things

A thing is one kind of map object: a monster, a projectile, a pickup, a decoration.  Its record refers to
frames and sounds by number; frame 0 and sound 0 mean none.  A thing whose name starts with a star is a
projectile that becomes an attack definition.
-/

namespace DoomPatch

/-- The record of a thing. -/
structure Thing where
  /-- The name, with a star in front for an attack. -/
  name : String := ""
  /-- The number that places the thing on a map; none unless positive. -/
  doomedNum : Int := 0
  /-- The first frame of standing by. -/
  spawn : Int := 0
  /-- The first frame of moving. -/
  see : Int := 0
  /-- The first frame of the close attack. -/
  melee : Int := 0
  /-- The first frame of the far attack. -/
  missile : Int := 0
  /-- The first frame of being hurt. -/
  pain : Int := 0
  /-- The first frame of dying. -/
  death : Int := 0
  /-- The first frame of being blown apart. -/
  xdeath : Int := 0
  /-- The first frame of rising again. -/
  raise : Int := 0
  /-- The sound of noticing the player, or of a launch. -/
  seeSound : Int := 0
  /-- The sound of an attack. -/
  attackSound : Int := 0
  /-- The sound of being hurt. -/
  painSound : Int := 0
  /-- The sound of dying, or of an impact. -/
  deathSound : Int := 0
  /-- The sound of being around. -/
  activeSound : Int := 0
  /-- The sound of passing through something. -/
  ripSound : Int := 0
  /-- Hit points. -/
  health : Int := 0
  /-- Tics before the first attack. -/
  reaction : Int := 0
  /-- The chance of being hurt, out of 256. -/
  painChance : Int := 0
  /-- Speed, in map units or for projectiles in fixed point. -/
  speed : Int := 0
  /-- Radius in fixed point. -/
  radius : Int := 0
  /-- Height in fixed point. -/
  height : Int := 0
  /-- Mass; negative for what hangs from the ceiling. -/
  mass : Int := 0
  /-- Damage of a projectile. -/
  damage : Int := 0
  /-- The classic flag word. -/
  flags : UInt32 := 0
  /-- The extended flag word. -/
  mbf21 : UInt32 := 0
  /-- The group whose members do not fight each other. -/
  infightGroup : Option Int := none
  /-- The group whose members are immune to each other's projectiles. -/
  projectileGroup : Option Int := none
  /-- The group whose members are immune to each other's explosions. -/
  splashGroup : Option Int := none
  /-- Speed on the hardest level. -/
  fastSpeed : Option Int := none
  /-- Reach of the close attack in fixed point. -/
  meleeRange : Option Int := none
  /-- The number of a player; 0 for all others. -/
  player : Int := 0
  /-- Hit points at which the thing is blown apart. -/
  gibHealth : Int := 0
  /-- The number of the dropped thing: 0 for nothing, negative for what it always dropped. -/
  dropped : Int := 0
  /-- The number of the thing that is its blood. -/
  blood : Int := 0
deriving DecidableEq, Inhabited

namespace Thing

/-- The record of a thing that no table lists. -/
def neutral (name : String) : Thing := { name, doomedNum := -1, dropped := -1, blood := -1 }

/-- Whether the thing becomes an attack definition. -/
def isAttack (t : Thing) : Bool := t.name.toList.head? == some '*'

/-- The name in definitions: without the star. -/
def ddfName (t : Thing) : String :=
  match t.name.toList with
  | '*' :: rest => String.ofList rest
  | _ => t.name

/-- The first frame of a role; 0 for the roles of weapons. -/
def start (t : Thing) : Role → Int
  | .spawn => t.spawn
  | .see => t.see
  | .melee => t.melee
  | .missile => t.missile
  | .pain => t.pain
  | .death => t.death
  | .xdeath => t.xdeath
  | .raise => t.raise
  | _ => 0

/-- Whether the classic word has all the bits. -/
def has (t : Thing) (flag : UInt32) : Bool := Word.hasAll t.flags flag

/-- The number a patch reads for an optional quantity: -2 stands for none. -/
def rawOf (q : Option Int) : Int := q.getD (-2)

/-- The optional quantity a patch number means: -2 stands for none. -/
def ofRaw (n : Int) : Option Int := if n = -2 then none else some n

end Thing
end DoomPatch
