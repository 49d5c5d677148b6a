import DoomPatch.Definition.Attack
import DoomPatch.Definition.Sound
import DoomPatch.Definition.Trigger
import DoomPatch.Definition.Weapon
import DoomPatch.Lump

/-!
# Conversion

Modified entities are written to lumps as definitions.  The name of an attack can be written once only:
a press remembers the names it has used, and what would write one again is left out with a warning.

* `Draft` — one definition before it is written: the block and the scratch attacks it needs.
* `Press.publish` — writes a draft.
* `Press.convertThing`, `Press.convertWeapon` — one entity, modified or not.
* `Press.convertAll` — all modified entities, sounds, messages and triggers.
-/

namespace DoomPatch

/-- Why something cannot be converted. -/
inductive ConversionError where
  /-- The thing does not exist. -/
  | noThing (id : Int)
  /-- The weapon does not exist. -/
  | noWeapon (id : Int)
  /-- The thing is named like an attack and has no entry as one. -/
  | noAttack (name : String) (id : Int)
  /-- The exit of a teleport needs the fog. -/
  | noFog (id : Int)
  /-- The cube needs the thing that flies. -/
  | noSpawnShot
  /-- The cube needs the thing that burns. -/
  | noSpawnFire
deriving DecidableEq

/-- The fault. -/
def ConversionError.fault : ConversionError → Fault
  | noThing id => (Fault.new Code.notFound s!"thing {id} does not exist").about "thing" id
  | noWeapon id => (Fault.new Code.notFound s!"weapon {id} does not exist").about "weapon" id
  | noAttack name id => (Fault.new Code.notFound s!"no attack entry for {name}").about "thing" id
  | noFog id =>
    (Fault.new Code.failedPrecondition s!"teleport fog thing {ThingDefinition.teleportFog} missing").about
      "thing" id
  | noSpawnShot =>
    (Fault.new Code.failedPrecondition
      s!"boss cube needs spawn shot thing {AttackEntry.spawnShot}").about "thing" AttackEntry.spawnShot
  | noSpawnFire =>
    (Fault.new Code.failedPrecondition
      s!"boss cube needs spawn fire thing {AttackEntry.spawnFire}").about "thing" AttackEntry.spawnFire

/-- A definition before it is written. -/
structure Draft where
  /-- The lump it belongs to. -/
  kind : LumpKind
  /-- The number under which the name of an attack is used; none if the definition is no attack. -/
  attack : Option Int := none
  /-- The definition. -/
  block : Block
  /-- The scratch attacks of its frames, in order. -/
  scratches : List Scratch
  /-- What is to be warned of. -/
  warnings : List Warning := []

namespace Draft

/-- The definition of a thing. -/
def thing (v : View) (id : Int) (t : Thing) : Except ConversionError Draft :=
  match ThingDefinition.shown? v id t with
  | none => .error (.noFog id)
  | some starts =>
    let b := ThingDefinition.storyboard v t.ddfName starts
    .ok {
      kind := .things
      block := ThingDefinition.block v id t b
      scratches := b.scratches
      warnings :=
        if b.states.isEmpty then
          [{ kind := .missingStates, entity := "thing", id, message := s!"thing {t.ddfName} has no states" }]
        else [] }

/-- The definition of the cube. -/
def cube (v : View) : Except ConversionError Draft :=
  match v.thing? AttackEntry.spawnShot, v.thing? AttackEntry.spawnFire with
  | none, _ => .error .noSpawnShot
  | some _, none => .error .noSpawnFire
  | some shot, some fire =>
    let b := ThingDefinition.storyboard v shot.ddfName (AttackDefinition.cubeStarts shot fire)
    .ok {
      kind := .attacks
      attack := some AttackEntry.spawnShot
      block := AttackDefinition.block v AttackEntry.cube shot fire.seeSound b
      scratches := b.scratches }

/-- The definition of a projectile. -/
def attackThing (v : View) (id : Int) (t : Thing) : Except ConversionError Draft :=
  if id = AttackEntry.spawnShot then cube v
  else
    match AttackEntry.ofThing? id with
    | none => .error (.noAttack t.name id)
    | some e =>
      let b := ThingDefinition.storyboard v t.ddfName (AttackDefinition.starts t)
      .ok {
        kind := .attacks
        attack := some id
        block := AttackDefinition.block v e t t.deathSound b
        scratches := b.scratches }

/-- The definition of something that is no projectile. -/
def plainThing (v : View) (id : Int) (t : Thing) : Except ConversionError Draft :=
  if id = AttackEntry.spawnFire then cube v else thing v id t

/-- The definition of a thing or projectile. -/
def ofThing (v : View) (id : Int) : Except ConversionError Draft :=
  match v.thing? id with
  | none => .error (.noThing id)
  | some t => if t.isAttack then attackThing v id t else plainThing v id t

/-- The definition of a weapon. -/
def ofWeapon (v : View) (id : Int) : Except ConversionError Draft :=
  match v.session.weapon? id with
  | none => .error (.noWeapon id)
  | some w =>
    let b := WeaponDefinition.storyboard v w
    .ok { kind := .weapons, block := WeaponDefinition.block v w b, scratches := b.scratches }

end Draft

/-- Lumps being written, with the attack names used so far. -/
structure Press where
  /-- The names of the attacks written. -/
  used : List String := []
  /-- The lumps. -/
  buffer : Buffer := {}
  /-- The warnings of conversions, oldest first. -/
  warnings : List Warning := []

namespace Press

/-- Leaves warnings. -/
def warn (p : Press) (ws : List Warning) : Press := { p with warnings := p.warnings ++ ws }

/-- Reserves the name of an attack, or warns that it is taken. -/
def reserve (p : Press) (name : String) (id : Int) : Bool × Press :=
  if p.used.contains name then
    (false, p.warn
      [{ kind := .duplicateAttack, entity := "attack", id, message := s!"attack {name} already written" }])
  else (true, { p with used := p.used ++ [name] })

/-- Reserves the names of scratch attacks and gives those that are to be written. -/
def reserveAll (p : Press) : List Scratch → List Scratch × Press
  | [] => ([], p)
  | s :: rest =>
    let (fresh, p) := p.reserve s.name s.frame
    let (others, p) := p.reserveAll rest
    (if fresh then s :: others else others, p)

/-- Writes text to a lump. -/
def write (p : Press) (k : LumpKind) (text : String) : Press := { p with buffer := p.buffer.write k text }

/-- Writes scratch attacks, unless there are none. -/
def writeScratches (p : Press) (scratches : List Scratch) : Press :=
  if scratches.isEmpty then p
  else p.write .attacks (String.join (scratches.map fun s => s.block.text))

/-- Writes a definition and then its scratch attacks. -/
def writeDraft (p : Press) (d : Draft) : Press :=
  let (fresh, p) := p.reserveAll d.scratches
  ((p.warn d.warnings).write d.kind d.block.text).writeScratches fresh

/-- Writes a definition, unless it is an attack whose name is taken. -/
def publish (p : Press) (d : Draft) : Press :=
  match d.attack with
  | none => p.writeDraft d
  | some id =>
    let (fresh, p) := p.reserve d.block.name id
    if fresh then p.writeDraft d else p

/-- Writes one thing or projectile. -/
def convertThing (p : Press) (v : View) (id : Int) : Except ConversionError Press :=
  (Draft.ofThing v id).map p.publish

/-- Writes one weapon. -/
def convertWeapon (p : Press) (v : View) (id : Int) : Except ConversionError Press :=
  (Draft.ofWeapon v id).map p.publish

/-- Writes drafts in order up to the first that cannot be made. -/
def publishAll (p : Press) : List (Except ConversionError Draft) → Press × Option ConversionError
  | [] => (p, none)
  | .ok d :: rest => (p.publish d).publishAll rest
  | .error e :: _ => (p, some e)

end Press

namespace Conversion

/-- A thing as conversions of the whole game see it; a hidden one counts as a record without any values. -/
def record (v : View) (id : Int) : Thing := (v.thing? id).getD {}

/-- The modified things that are defined as things. -/
def things (v : View) : List (Except ConversionError Draft) :=
  (v.session.things.keys.filter fun id => !(record v id).isAttack && id != AttackEntry.spawnFire).map
    fun id => Draft.plainThing v id (record v id)

/-- The modified things that are defined as attacks. -/
def projectiles (v : View) : List (Except ConversionError Draft) :=
  (v.session.things.keys.filter fun id => (record v id).isAttack && id != AttackEntry.spawnShot).map
    fun id => Draft.attackThing v id (record v id)

/-- The cube, if one of the things it is made of is modified. -/
def cubes (v : View) : List (Except ConversionError Draft) :=
  if v.session.things.contains AttackEntry.spawnShot || v.session.things.contains AttackEntry.spawnFire then
    [Draft.cube v]
  else []

/-- The modified weapons. -/
def weapons (v : View) : List (Except ConversionError Draft) :=
  v.session.weapons.keys.map (Draft.ofWeapon v)

/-- All modified entities in the order in which they are written. -/
def drafts (v : View) : List (Except ConversionError Draft) :=
  things v ++ projectiles v ++ cubes v ++ weapons v

end Conversion

namespace Press

/-- Writes the modified sounds. -/
def convertSounds (p : Press) (s : Session) : Press :=
  if s.sounds.isEmpty then p
  else p.write .sounds (String.join ((SoundDefinition.all s).map Block.text))

/-- Writes the replaced messages. -/
def convertLanguage (p : Press) (s : Session) : Press :=
  if s.texts.isEmpty then p else p.write .language (LanguageDefinition.block s.texts.entries).text

/-- Writes the triggers of bosses. -/
def convertTriggers (p : Press) (v : View) : Press :=
  match BossTrigger.script? v with
  | none => p
  | some text => p.write .triggers text

/-- Writes everything that is modified.  If an entity cannot be converted, what was written before it is
kept. -/
def convertAll (p : Press) (v : View) : Press × Option ConversionError :=
  match p.publishAll (Conversion.drafts v) with
  | (p, some e) => (p, some e)
  | (p, none) => (((p.convertSounds v.session).convertLanguage v.session).convertTriggers v, none)

end Press
end DoomPatch
