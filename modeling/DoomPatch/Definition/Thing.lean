import DoomPatch.Definition.Action
import DoomPatch.Definition.Cast
import DoomPatch.Definition.Pickup
import DoomPatch.Definition.Special

/-!
# Definitions of things

The definition of a thing lists its measures, sounds, animations, specials, attacks, damage, what it gives
and drops, and its place in the finale.

* `ThingDefinition.starts` — the first frame of each role.
* `ThingDefinition.block` — the definition, and `ThingDefinition.scratches` the attacks it needs.
-/

namespace DoomPatch
namespace ThingDefinition

/-- The player. -/
def player : Int := 0

/-- The place where teleported things arrive. -/
def teleportExit : Int := 41

/-- The fog of a teleport. -/
def teleportFog : Int := 39

/-- The first frames of the roles. -/
def starts (t : Thing) : List (Role × Int) := Role.ofThing.map fun role => (role, t.start role)

/-- A thing with the frames that its definition shows: the exit of a teleport borrows those of the fog.
Without a fog there are none to borrow. -/
def shown? (v : View) (id : Int) (t : Thing) : Option (List (Role × Int)) :=
  if id = teleportExit then (v.thing? teleportFog).map fun fog => starts { t with spawn := fog.spawn }
  else some (starts t)

/-- The animations and the scratch attacks in them. -/
def storyboard (v : View) (owner : String) (starts : List (Role × Int)) : Storyboard :=
  .ofAnimation v (Action.ofFrame v owner) (Animation.build v.reel starts)

/-- A speed; projectiles move in fractions of a unit. -/
def speed (t : Thing) (n : Int) : String :=
  if t.has ThingFlag.missile then Definition.fixed n else toString n

/-- The measures. -/
def measures (v : View) (t : Thing) : List Clause :=
  [⟨"SPAWNHEALTH", toString t.health⟩,
   ⟨"RADIUS", Definition.fixed t.radius⟩,
   ⟨"HEIGHT", Definition.fixed t.height⟩,
   ⟨"MASS", toString (Word.magnitude t.mass)⟩]
  ++ Definition.clauseIf (t.speed != 0) "SPEED" (speed t t.speed)
  ++ Definition.clauseFor "FAST_SPEED" (speed t) t.fastSpeed
  ++ Definition.clauseIf (t.reaction != 0) "REACTION_TIME" s!"{t.reaction}T"
  ++ Definition.clauseIf (t.painChance != 0) "PAINCHANCE" (Definition.percent t.painChance)
  ++ Definition.clauseFor "MELEE_RANGE" Definition.fixed t.meleeRange
  ++ Definition.clauseIf (t.player != 0) "PLAYER" (toString t.player)
  ++ Definition.clauseIf (t.gibHealth != 0) "GIB_HEALTH" (toString t.gibHealth)
  ++ Definition.clauseFor "INFIGHT_GROUP" toString t.infightGroup
  ++ Definition.clauseFor "PROJECTILE_GROUP" toString t.projectileGroup
  ++ Definition.clauseFor "SPLASH_GROUP" toString t.splashGroup
  ++ Definition.clauseFor "BLOOD" id (v.referred? t.blood)

/-- What the player starts with: room for ammunition, bullets and hit points. -/
def initialBenefit (v : View) (t : Thing) : Clause :=
  ⟨"INITIAL_BENEFIT", Definition.list
    (v.ammoTypes.map (fun a => s!"{a.name}.LIMIT({a.max})")
      ++ ((v.session.ammo? 0).map fun a => s!"{a.name}({v.session.misc.initialBullets})").toList
      ++ [s!"HEALTH({t.health})"])⟩

/-- The clause of a sound. -/
def soundClause (key : String) (id : Int) : List Clause :=
  Definition.clauseIf (0 < id) key (Definition.quote (View.soundRef id))

/-- The sounds. -/
def sounds (t : Thing) : List Clause :=
  soundClause "SIGHTING_SOUND" t.seeSound
    ++ soundClause "STARTCOMBAT_SOUND" t.attackSound
    ++ soundClause "PAIN_SOUND" t.painSound
    ++ soundClause "DEATH_SOUND" t.deathSound
    ++ soundClause "ACTIVE_SOUND" t.activeSound
    ++ soundClause "RIP_SOUND" t.ripSound

/-- What stands for the animations of a thing that has none. -/
def invisible : Clause := ⟨"STATES(IDLE)", "NULL:A:-1:NORMAL:NOTHING"⟩

/-- The animations. -/
def states (b : Storyboard) : List Clause := if b.states.isEmpty then [invisible] else b.states

/-- The specials, and what else the flags say. -/
def specials (v : View) (id : Int) (t : Thing) : List Clause :=
  Definition.listClause "SPECIAL" (Special.ofThing v id t)
    ++ Definition.clauseIf
      (Word.hasAll (Special.adjusted t) ThingFlag.translucent || id == teleportExit) "TRANSLUCENCY" "50%"
    ++ Definition.clauseFor "PALETTE_REMAP" (fun s => s) (Special.palette? (Special.adjusted t))

/-- The attacks that a frame of an owner fires. -/
def frameAttacks (v : View) (owner : String) (id : Int) : Attacks :=
  let f := (v.reel.frame? id).getD {}
  match CodePointer.ofAction? f.action with
  | none => {}
  | some p =>
    if p.has Behaviour.meleeScratch then { close := Scratch.nameOf owner id }
    else if p.mnemonic = "MonsterProjectile" then { ranged := (v.referred? (f.arg 0)).getD "" }
    else p.attacks

/-- The first name that is not empty. -/
def firstNamed (names : List String) : Option String := names.find? (· != "")

/-- The attacks: the first of each slot while attacking, and for the spare one also while dying. -/
def attacks (v : View) (t : Thing) : List Clause :=
  let fired := fun start => (v.reel.chain start).map (frameAttacks v t.ddfName)
  let fighting := fired t.melee ++ fired t.missile
  let dying := fired t.death ++ fired t.xdeath
  Definition.clauseFor "CLOSE_ATTACK" id (firstNamed (fighting.map (·.close)))
    ++ Definition.clauseFor "RANGE_ATTACK" id (firstNamed (fighting.map (·.ranged)))
    ++ Definition.clauseFor "SPARE_ATTACK" id (firstNamed ((fighting ++ dying).map (·.spare)))

/-- The damage of an explosion in a frame: 128 unless the frame says more. -/
def blast (v : View) (id : Int) : Int :=
  let f := (v.reel.frame? id).getD {}
  if CodePointer.normalize f.action = "RADIUSDAMAGE" ∧ 0 < f.arg 0 then f.arg 0 else 128

/-- The damage of explosions. -/
def explosion? (v : View) (t : Thing) : Option Int :=
  let frames := v.session.thingChains t
  if frames.any fun id => Word.hasAll (v.reel.flags id) Behaviour.detonate then some t.damage
  else (frames.find? fun id => Word.hasAll (v.reel.flags id) Behaviour.explode).map (blast v)

/-- The damage. -/
def damage (v : View) (t : Thing) : List Clause :=
  Definition.clauseFor "EXPLODE_DAMAGE.VAL" toString (explosion? v t)
    ++ (if t.has ThingFlag.missile ∧ 0 < t.damage then
        [⟨"PROJECTILE_DAMAGE.VAL", toString t.damage⟩,
         ⟨"PROJECTILE_DAMAGE.MAX", toString (Word.mul t.damage 8)⟩]
      else [])

/-- What a thing drops unless the patch says otherwise. -/
def standardDrop? (id : Int) : Option Int :=
  match id with
  | 1 => some 63
  | 2 => some 77
  | 10 => some 73
  | 23 => some 63
  | _ => none

/-- The name of what a thing drops: a negative number means the standard drop, zero nothing. -/
def drop? (v : View) (id : Int) (t : Thing) : Option String :=
  if t.dropped < 0 then (standardDrop? id).map v.thingName else v.referred? t.dropped

/-- The clauses in order. -/
def clauses (v : View) (id : Int) (t : Thing) (b : Storyboard) : List Clause :=
  measures v t
    ++ (if id = player then [initialBenefit v t] else [])
    ++ sounds t
    ++ states b
    ++ specials v id t
    ++ attacks v t
    ++ damage v t
    ++ ((Pickup.ofThing? v t).map (Pickup.clauses v)).getD []
    ++ Definition.clauseFor "DROPITEM" (fun s => s) (drop? v id t)
    ++ Definition.clauseFor "CASTORDER" toString (Cast.standard.place? id)

/-- The definition. -/
def block (v : View) (id : Int) (t : Thing) (b : Storyboard) : Block where
  name := t.ddfName
  number := if 0 < t.doomedNum then some t.doomedNum else none
  clauses := clauses v id t b

end ThingDefinition
end DoomPatch
