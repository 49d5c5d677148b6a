import DoomPatch.Definition.Thing

/-!
# Definitions of weapons

A weapon can fire up to four different attacks.  Each has a slot with clauses and a shooting action of its
own; the slots are given out in the order in which the attacks are first fired.
-/

namespace DoomPatch

/-- A slot for an attack of a weapon. -/
inductive AttackSlot where
  /-- The main attack. -/
  | first
  /-- The second attack. -/
  | second
  /-- The third attack. -/
  | third
  /-- The fourth attack. -/
  | fourth
deriving DecidableEq, Repr

namespace AttackSlot

/-- The slots in order. -/
def all : List AttackSlot := [first, second, third, fourth]

/-- What stands before the keys and the shooting action of a slot. -/
def mark : AttackSlot → String
  | first => ""
  | second => "SEC_"
  | third => "3RD_"
  | fourth => "4TH_"

/-- The shooting action. -/
def shoot (s : AttackSlot) : String := s.mark ++ "SHOOT"

end AttackSlot

namespace WeaponDefinition

/-- The attack that a frame fires, if any. -/
def frameAttack? (v : View) (f : Frame) : Option String :=
  match CodePointer.ofAction? f.action with
  | none => none
  | some p =>
    if !p.has Behaviour.weapon then none
    else
      let name := if p.has Behaviour.weaponProjectile then (v.referred? (f.arg 0)).getD "" else p.attacks.ranged
      if name = "" then none else some name

/-- The distinct attacks in the order in which they are first fired, as many as there are slots. -/
def attacks (v : View) (w : Weapon) : List String :=
  let fired := fun start => (v.reel.chain start).filterMap fun id => (v.reel.frame? id).bind (frameAttack? v)
  (Special.distinct (fired w.attack ++ fired w.flash)).take AttackSlot.all.length

/-- The attacks with their slots. -/
def slots (v : View) (w : Weapon) : List (AttackSlot × String) := AttackSlot.all.zip (attacks v w)

/-- The action of a frame.  An attack without a slot is fired with the main one. -/
def action (v : View) (w : Weapon) (id : Int) (f : Frame) : Action :=
  match frameAttack? v f with
  | some name =>
    .plain (((slots v w).find? (·.2 == name)).map (·.1.shoot) |>.getD AttackSlot.first.shoot)
  | none => .ofFrame v w.name id f

/-- The animations and the scratch attacks in them. -/
def storyboard (v : View) (w : Weapon) : Storyboard :=
  .ofAnimation v (action v w)
    (Animation.build v.reel (Role.ofWeapon.map fun role => (role, w.start role)))

/-- The clauses on ammunition. -/
def ammoClauses (v : View) (w : Weapon) (mark : String) : List Clause :=
  [⟨mark ++ "AMMOTYPE", v.ammoName w.ammo⟩, ⟨mark ++ "AMMOPERSHOT", toString w.perShot⟩]

/-- The clauses of a slot. -/
def slotClauses (v : View) (w : Weapon) (e : AttackSlot × String) : List Clause :=
  ammoClauses v w e.1.mark ++ [⟨e.1.mark ++ "ATTACK", e.2⟩]

/-- The clauses of all slots.  A weapon without attacks still uses ammunition. -/
def attackClauses (v : View) (w : Weapon) : List Clause :=
  if (slots v w).isEmpty then ammoClauses v w "" else (slots v w).flatMap (slotClauses v w)

/-- What stands for the animations of a weapon that has none. -/
def invisible : Clause := ⟨"STATES(READY)", "NULL:A:-1:NORMAL:NOTHING"⟩

/-- The definition. -/
def block (v : View) (w : Weapon) (b : Storyboard) : Block where
  name := w.name
  clauses :=
    attackClauses v w
      ++ [⟨"BINDKEY", toString w.slot⟩, ⟨"PRIORITY", toString w.priority⟩]
      ++ Definition.listClause "SPECIAL" (Special.names Special.ofWeaponFlags w.flags)
      ++ (if b.states.isEmpty then [invisible] else b.states)

end WeaponDefinition
end DoomPatch
