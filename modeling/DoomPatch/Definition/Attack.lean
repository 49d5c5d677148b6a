import DoomPatch.Definition.Thing

/-!
# Definitions of attacks

Projectiles are things whose definition is an attack.  Each has an entry here with what its record does not
say.  The cube of the last boss is put together from two things: one flies, the other burns where it lands.
-/

namespace DoomPatch

/-- What an attack needs beyond the record of its thing. -/
structure AttackEntry where
  /-- How it is carried out. -/
  type : String
  /-- The height it is fired from; 0 for none. -/
  height : Nat := 0
  /-- What is special about it. -/
  special : Option String := none

namespace AttackEntry

/-- The thing that flies when the last boss spits. -/
def spawnShot : Int := 28

/-- The thing that burns where the cube lands. -/
def spawnFire : Int := 29

/-- A projectile fired from a height. -/
def projectile (height : Nat) : AttackEntry := { type := "PROJECTILE", height }

/-- The entry of the cube. -/
def cube : AttackEntry := { type := "SHOOTTOSPOT" }

/-- The entry of a thing. -/
def ofThing? (id : Int) : Option AttackEntry :=
  match id with
  | 6 => some { projectile 48 with special := some "SMOKING_TRACER" }
  | 9 | 16 | 31 | 32 | 33 | 34 => some (projectile 32)
  | 28 => some cube
  | 35 => some { projectile 32 with special := some "SPRAY" }
  | 36 => some (projectile 16)
  | _ => none

end AttackEntry

namespace AttackDefinition

/-- Whether something explodes while dying. -/
def explodes (v : View) (t : Thing) : Bool :=
  (v.reel.chain t.death).any fun id => Word.hasAll (v.reel.flags id) Behaviour.explode

/-- The damage. -/
def damage (t : Thing) : List Clause :=
  if 0 < t.damage then
    [⟨"DAMAGE.VAL", toString t.damage⟩, ⟨"DAMAGE.MAX", toString (Word.mul t.damage 8)⟩]
  else []

/-- The clauses before the animations. -/
def clauses (v : View) (e : AttackEntry) (t : Thing) (deathSound : Int) : List Clause :=
  [⟨"ATTACKTYPE", e.type⟩]
    ++ Definition.clauseIf (e.height != 0) "ATTACK_HEIGHT" (toString e.height)
    ++ Definition.clauseFor "ATTACK_SPECIAL" id e.special
    ++ damage t
    ++ [⟨"SPEED", Definition.fixed t.speed⟩]
    ++ Definition.clauseFor "FAST" Definition.fixed t.fastSpeed
    ++ [⟨"RADIUS", Definition.fixed t.radius⟩, ⟨"HEIGHT", Definition.fixed t.height⟩]
    ++ ThingDefinition.soundClause "LAUNCH_SOUND" t.seeSound
    ++ ThingDefinition.soundClause "DEATH_SOUND" deathSound
    ++ Definition.listClause "PROJECTILE_SPECIAL" (Special.names Special.ofFlags (Special.adjusted t))
    ++ Definition.clauseIf (explodes v t) "EXPLODE_DAMAGE.VAL" "128"

/-- The definition. -/
def block (v : View) (e : AttackEntry) (t : Thing) (deathSound : Int) (b : Storyboard) : Block where
  name := t.ddfName
  clauses := clauses v e t deathSound ++ b.states

/-- The first frames of the roles of a projectile. -/
def starts (t : Thing) : List (Role × Int) := Role.ofAttack.map fun role => (role, t.start role)

/-- The first frames of the roles of the cube: it flies as one thing and ends as the other begins. -/
def cubeStarts (shot fire : Thing) : List (Role × Int) := [(.spawn, shot.spawn), (.death, fire.spawn)]

end AttackDefinition
end DoomPatch
