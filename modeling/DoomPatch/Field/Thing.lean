import DoomPatch.Field
import DoomPatch.Flag

/-!
# Fields of things

Flag words keep their low 32 bits, and a number written to the classic word loses the bits that only a
mnemonic can set.  The optional quantities read and write -2 when they are unset.
-/

namespace DoomPatch

/-- The fields of a thing that a patch can write. -/
inductive ThingField where
  /-- The field called ID #. -/
  | doomedNum
  /-- The field called Initial frame. -/
  | spawn
  /-- The field called Hit points. -/
  | health
  /-- The field called First moving frame. -/
  | see
  /-- The field called Alert sound. -/
  | seeSound
  /-- The field called Reaction time. -/
  | reaction
  /-- The field called Attack sound. -/
  | attackSound
  /-- The field called Injury frame. -/
  | pain
  /-- The field called Pain chance. -/
  | painChance
  /-- The field called Pain sound. -/
  | painSound
  /-- The field called Close attack frame. -/
  | melee
  /-- The field called Far attack frame. -/
  | missile
  /-- The field called Death frame. -/
  | death
  /-- The field called Exploding frame. -/
  | xdeath
  /-- The field called Death sound. -/
  | deathSound
  /-- The field called Speed. -/
  | speed
  /-- The field called Width. -/
  | radius
  /-- The field called Height. -/
  | height
  /-- The field called Mass. -/
  | mass
  /-- The field called Missile damage. -/
  | damage
  /-- The field called Action sound. -/
  | activeSound
  /-- The field called Bits. -/
  | flags
  /-- The field called MBF21 Bits. -/
  | mbf21
  /-- The field called Respawn frame. -/
  | raise
  /-- The field called Infighting group. -/
  | infightGroup
  /-- The field called Projectile group. -/
  | projectileGroup
  /-- The field called Splash group. -/
  | splashGroup
  /-- The field called Fast speed. -/
  | fastSpeed
  /-- The field called Melee range. -/
  | meleeRange
  /-- The field called Rip sound. -/
  | ripSound
  /-- The field called Dropped item. -/
  | dropped
  /-- The field called Blood thing. -/
  | blood
  /-- The field called Gib health. -/
  | gibHealth
deriving DecidableEq, Repr

namespace ThingField

/-- The fields in order. -/
def all : List ThingField := [
  doomedNum, spawn, health, see, seeSound, reaction, attackSound, pain, painChance, painSound,
  melee, missile, death, xdeath, deathSound, speed, radius, height, mass, damage, activeSound,
  flags, mbf21, raise, infightGroup, projectileGroup, splashGroup, fastSpeed, meleeRange, ripSound,
  dropped, blood, gibHealth]

/-- What a field is called. -/
def name : ThingField → String
  | doomedNum => "ID #"
  | spawn => "Initial frame"
  | health => "Hit points"
  | see => "First moving frame"
  | seeSound => "Alert sound"
  | reaction => "Reaction time"
  | attackSound => "Attack sound"
  | pain => "Injury frame"
  | painChance => "Pain chance"
  | painSound => "Pain sound"
  | melee => "Close attack frame"
  | missile => "Far attack frame"
  | death => "Death frame"
  | xdeath => "Exploding frame"
  | deathSound => "Death sound"
  | speed => "Speed"
  | radius => "Width"
  | height => "Height"
  | mass => "Mass"
  | damage => "Missile damage"
  | activeSound => "Action sound"
  | flags => "Bits"
  | mbf21 => "MBF21 Bits"
  | raise => "Respawn frame"
  | infightGroup => "Infighting group"
  | projectileGroup => "Projectile group"
  | splashGroup => "Splash group"
  | fastSpeed => "Fast speed"
  | meleeRange => "Melee range"
  | ripSound => "Rip sound"
  | dropped => "Dropped item"
  | blood => "Blood thing"
  | gibHealth => "Gib health"

/-- What the numbers of a field mean. -/
def kind : ThingField → FieldKind
  | doomedNum | mass | infightGroup | projectileGroup | splashGroup
  | fastSpeed | meleeRange | dropped | blood | gibHealth => .any
  | spawn | see | pain | melee | missile | death | xdeath | raise => .frame
  | health => .positive
  | seeSound | attackSound | painSound | deathSound | activeSound | ripSound => .sound
  | reaction | painChance | speed | radius | height | damage => .nonNegative
  | flags | mbf21 => .bits

/-- The bits that a number cannot set. -/
def mask : ThingField → UInt32
  | flags => ThingFlag.mnemonicOnly
  | _ => 0

/-- Reads a field. -/
def get (f : ThingField) (r : Thing) : Int :=
  match f with
  | doomedNum => r.doomedNum
  | spawn => r.spawn
  | health => r.health
  | see => r.see
  | seeSound => r.seeSound
  | reaction => r.reaction
  | attackSound => r.attackSound
  | pain => r.pain
  | painChance => r.painChance
  | painSound => r.painSound
  | melee => r.melee
  | missile => r.missile
  | death => r.death
  | xdeath => r.xdeath
  | deathSound => r.deathSound
  | speed => r.speed
  | radius => r.radius
  | height => r.height
  | mass => r.mass
  | damage => r.damage
  | activeSound => r.activeSound
  | flags => Int.ofNat r.flags.toNat
  | mbf21 => Int.ofNat r.mbf21.toNat
  | raise => r.raise
  | infightGroup => Thing.rawOf r.infightGroup
  | projectileGroup => Thing.rawOf r.projectileGroup
  | splashGroup => Thing.rawOf r.splashGroup
  | fastSpeed => Thing.rawOf r.fastSpeed
  | meleeRange => Thing.rawOf r.meleeRange
  | ripSound => r.ripSound
  | dropped => r.dropped
  | blood => r.blood
  | gibHealth => r.gibHealth

/-- Writes a field. -/
def set (f : ThingField) (v : Int) (r : Thing) : Thing :=
  match f with
  | doomedNum => { r with doomedNum := v }
  | spawn => { r with spawn := v }
  | health => { r with health := v }
  | see => { r with see := v }
  | seeSound => { r with seeSound := v }
  | reaction => { r with reaction := v }
  | attackSound => { r with attackSound := v }
  | pain => { r with pain := v }
  | painChance => { r with painChance := v }
  | painSound => { r with painSound := v }
  | melee => { r with melee := v }
  | missile => { r with missile := v }
  | death => { r with death := v }
  | xdeath => { r with xdeath := v }
  | deathSound => { r with deathSound := v }
  | speed => { r with speed := v }
  | radius => { r with radius := v }
  | height => { r with height := v }
  | mass => { r with mass := v }
  | damage => { r with damage := v }
  | activeSound => { r with activeSound := v }
  | flags => { r with flags := Word.low32 v }
  | mbf21 => { r with mbf21 := Word.low32 v }
  | raise => { r with raise := v }
  | infightGroup => { r with infightGroup := Thing.ofRaw v }
  | projectileGroup => { r with projectileGroup := Thing.ofRaw v }
  | splashGroup => { r with splashGroup := Thing.ofRaw v }
  | fastSpeed => { r with fastSpeed := Thing.ofRaw v }
  | meleeRange => { r with meleeRange := Thing.ofRaw v }
  | ripSound => { r with ripSound := v }
  | dropped => { r with dropped := v }
  | blood => { r with blood := v }
  | gibHealth => { r with gibHealth := v }

/-- The fields of a thing. -/
def table : FieldTable ThingField Thing := ⟨all, name, kind, mask, get, set⟩

end ThingField
end DoomPatch
