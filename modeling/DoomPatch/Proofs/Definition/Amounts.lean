import Mathlib.Data.List.Basic
import Std.Data.String.ToInt
import DoomPatch.Definition.Attack
import DoomPatch.Proofs.Definition.Keys
import DoomPatch.Proofs.Word

/-!
# Amounts in definitions

Some numbers in definitions are worked out: the mass without its sign, the greatest damage, and what pickups give.  The
arithmetic is that of words, so such a number is the exact amount if that is a word, and another number otherwise.

* `ThingDefinition.worked`, `AttackDefinition.worked`, `Scratch.worked` — the clauses in question, with the amounts
  written in a given way: as they are, or brought back into the range of words.  The two ways give the same exactly if
  the `amounts` are words.
* `workedOf` — the clauses with amounts among others.
* `ThingDefinition.workedOf_clauses`, `AttackDefinition.workedOf_clauses`, `Storyboard.worked_of_mem_scratches` —
  definitions have the amounts brought back into range, and no other clauses of the kind.
-/

namespace DoomPatch

/-! ### Clauses with amounts -/

/-- The keys of the clauses whose numbers are worked out, and of the damage that the greatest one is worked out from. -/
def workedKeys : List String :=
  ["MASS", "PROJECTILE_DAMAGE.VAL", "PROJECTILE_DAMAGE.MAX", "DAMAGE.VAL", "DAMAGE.MAX", "PICKUP_BENEFIT"]

/-- Whether a clause has such a key. -/
def Clause.isWorked (c : Clause) : Bool := workedKeys.contains c.key

namespace Benefit

/-- An amount of an ammunition type, written in a given way. -/
def ammoWorked (word : Int → Int) (v : View) (type factor : Int) : String :=
  let a := (v.session.ammo? type).getD {}
  s!"{a.name}({word (factor * a.per)})"

/-- The text of a benefit with its amounts written in a given way. -/
def worked (word : Int → Int) (v : View) : Benefit → String
  | ammo type factor => ammoWorked word v type factor
  | weapon name type => s!"{name}," ++ ammoWorked word v type 2
  | greenArmour => s!"GREEN_ARMOUR({word (100 * v.session.misc.greenClass)})"
  | blueArmour => s!"BLUE_ARMOUR({word (100 * v.session.misc.blueClass)})"
  | backpack =>
    Definition.list
      (v.ammoTypes.map (fun a => s!"{a.name}.LIMIT({word (2 * a.max)})")
        ++ v.ammoTypes.map (fun a => s!"{a.name}({a.per})"))
  | fixed text => text
  | healthBonus => healthBonus.text v
  | armourBonus => armourBonus.text v
  | soulsphere => soulsphere.text v
  | megasphere => megasphere.text v

/-- The amounts that are worked out. -/
def amounts (v : View) : Benefit → List Int
  | ammo type factor => [factor * ((v.session.ammo? type).getD {}).per]
  | weapon _ type => [2 * ((v.session.ammo? type).getD {}).per]
  | greenArmour => [100 * v.session.misc.greenClass]
  | blueArmour => [100 * v.session.misc.blueClass]
  | backpack => v.ammoTypes.map fun a => 2 * a.max
  | fixed _ | healthBonus | armourBonus | soulsphere | megasphere => []

theorem ammoText_eq_ammoWorked (v : View) (type factor : Int) :
    ammoText v type factor = ammoWorked Word.wrap64 v type factor := by
  simp only [ammoText, ammoWorked, Word.mul_eq_wrap64]

theorem ammoWorked_eq_iff (v : View) (type factor : Int) :
    ammoWorked Word.wrap64 v type factor = ammoWorked (fun n => n) v type factor ↔
      Word.Fits (factor * ((v.session.ammo? type).getD {}).per) := by
  unfold ammoWorked
  simp [Word.wrap64_eq_self_iff]

theorem text_eq_worked (v : View) (b : Benefit) : b.text v = b.worked Word.wrap64 v := by
  cases b with
  | ammo type factor => exact ammoText_eq_ammoWorked v type factor
  | weapon name type => exact congrArg (s!"{name}," ++ ·) (ammoText_eq_ammoWorked v type 2)
  | greenArmour => exact congrArg (fun n : Int => s!"GREEN_ARMOUR({n})") (Word.mul_eq_wrap64 _ 100)
  | blueArmour => exact congrArg (fun n : Int => s!"BLUE_ARMOUR({n})") (Word.mul_eq_wrap64 _ 100)
  | backpack =>
      change Definition.list (_ ++ _) = Definition.list (_ ++ _)
      simp only [Word.mul_eq_wrap64]
  | _ => rfl

/-- The text has the exact amounts exactly if they are words.  The limits of a backpack always are. -/
theorem worked_eq_iff {v : View} (hlimits : ∀ a ∈ v.ammoTypes, Word.Fits (2 * a.max)) (b : Benefit) :
    b.worked Word.wrap64 v = b.worked (fun n => n) v ↔ ∀ n ∈ b.amounts v, Word.Fits n := by
  cases b with
  | ammo type factor => exact (ammoWorked_eq_iff v type factor).trans List.forall_mem_singleton.symm
  | weapon name type =>
      change s!"{name}," ++ _ = s!"{name}," ++ _ ↔ _
      rw [String.append_right_inj, ammoWorked_eq_iff]
      exact List.forall_mem_singleton.symm
  | greenArmour =>
      change s!"GREEN_ARMOUR({_})" = s!"GREEN_ARMOUR({_})" ↔ ∀ n ∈ [_], _
      simp [Word.wrap64_eq_self_iff]
  | blueArmour =>
      change s!"BLUE_ARMOUR({_})" = s!"BLUE_ARMOUR({_})" ↔ ∀ n ∈ [_], _
      simp [Word.wrap64_eq_self_iff]
  | backpack =>
      have hexact : v.ammoTypes.map (fun a => s!"{a.name}.LIMIT({Word.wrap64 (2 * a.max)})") =
          v.ammoTypes.map (fun a => s!"{a.name}.LIMIT({2 * a.max})") :=
        List.map_congr_left fun a ha => by rw [Word.wrap64_of_fits (hlimits a ha)]
      have hamounts : ∀ n ∈ v.ammoTypes.map fun a => 2 * a.max, Word.Fits n := List.forall_mem_map.2 hlimits
      refine iff_of_true ?_ hamounts
      exact congrArg (fun limits => Definition.list (limits ++ _)) hexact
  | _ => exact iff_of_true rfl (List.forall_mem_nil _)

end Benefit

namespace ThingDefinition

/-- The clauses of a thing with amounts, written in a given way. -/
def worked (word : Int → Int) (v : View) (t : Thing) : List Clause :=
  [⟨"MASS", toString (word t.mass.natAbs)⟩]
    ++ (if t.has ThingFlag.missile ∧ 0 < t.damage then
        [⟨"PROJECTILE_DAMAGE.VAL", toString t.damage⟩,
         ⟨"PROJECTILE_DAMAGE.MAX", toString (word (8 * t.damage))⟩]
      else [])
    ++ Definition.clauseFor "PICKUP_BENEFIT" (fun p => p.benefit.worked word v) (Pickup.ofThing? v t)

/-- The amounts of a thing. -/
def amounts (v : View) (t : Thing) : List Int :=
  [(t.mass.natAbs : Int)]
    ++ (if t.has ThingFlag.missile ∧ 0 < t.damage then [8 * t.damage] else [])
    ++ ((Pickup.ofThing? v t).map (·.benefit.amounts v)).getD []

theorem worked_eq_iff {v : View} (hlimits : ∀ a ∈ v.ammoTypes, Word.Fits (2 * a.max)) (t : Thing) :
    worked Word.wrap64 v t = worked (fun n => n) v t ↔ ∀ n ∈ amounts v t, Word.Fits n := by
  have hbenefit : ∀ p : Pickup, p.benefit.worked Word.wrap64 v = p.benefit.worked (fun n => n) v ↔
      ∀ n ∈ p.benefit.amounts v, Word.Fits n := fun p => p.benefit.worked_eq_iff hlimits
  unfold worked amounts
  by_cases hmissile : t.has ThingFlag.missile ∧ 0 < t.damage <;> cases Pickup.ofThing? v t <;>
    simp [hmissile, Definition.clauseFor, hbenefit, Word.wrap64_eq_self_iff, or_imp, forall_and]

end ThingDefinition

namespace AttackDefinition

/-- The clauses of a projectile with amounts, written in a given way. -/
def worked (word : Int → Int) (t : Thing) : List Clause :=
  if 0 < t.damage then [⟨"DAMAGE.VAL", toString t.damage⟩, ⟨"DAMAGE.MAX", toString (word (8 * t.damage))⟩] else []

/-- The amounts of a projectile. -/
def amounts (t : Thing) : List Int := if 0 < t.damage then [8 * t.damage] else []

theorem worked_eq_iff (t : Thing) :
    worked Word.wrap64 t = worked (fun n => n) t ↔ ∀ n ∈ amounts t, Word.Fits n := by
  unfold worked amounts
  by_cases hdamage : 0 < t.damage <;> simp [hdamage, Word.wrap64_eq_self_iff]

end AttackDefinition

namespace Scratch

/-- The clauses of the scratch attack of a frame with amounts, written in a given way.  Those of a melee attack come
from the dice; the other code pointer strikes with one number only. -/
def worked (word : Int → Int) (p : CodePointer) (f : Frame) : List Clause :=
  if p.mnemonic = "MonsterMeleeAttack" then
    let base := Action.orDefault (f.arg 0) 3
    [⟨"DAMAGE.VAL", toString base⟩, ⟨"DAMAGE.MAX", toString (word (base * Action.orDefault (f.arg 1) 8))⟩]
  else [⟨"DAMAGE.VAL", toString f.misc1⟩, ⟨"DAMAGE.MAX", toString f.misc1⟩]

/-- The amounts of the scratch attack of a frame. -/
def amounts (p : CodePointer) (f : Frame) : List Int :=
  if p.mnemonic = "MonsterMeleeAttack" then [Action.orDefault (f.arg 0) 3 * Action.orDefault (f.arg 1) 8] else []

theorem worked_eq_iff (p : CodePointer) (f : Frame) :
    worked Word.wrap64 p f = worked (fun n => n) p f ↔ ∀ n ∈ amounts p f, Word.Fits n := by
  unfold worked amounts
  by_cases hmelee : p.mnemonic = "MonsterMeleeAttack" <;> simp [hmelee, Word.wrap64_eq_self_iff]

end Scratch

/-! ### Definitions have these clauses -/

/-- The clauses with amounts. -/
def workedOf (cs : List Clause) : List Clause := cs.filter Clause.isWorked

theorem workedOf_eq (cs : List Clause) : workedOf cs = clausesUnder workedKeys.contains cs := rfl

theorem workedOf_append (cs cs' : List Clause) : workedOf (cs ++ cs') = workedOf cs ++ workedOf cs' :=
  clausesUnder_append cs cs'

theorem workedKeys_states (role : Role) : workedKeys.contains s!"STATES({role.tag})" = false := by
  have hinitial : ∀ key ∈ workedKeys, key.toList.head? ≠ some 'S' := by decide
  have hhead : s!"STATES({role.tag})".toList.head? = some 'S' := by simp [toString]
  exact Bool.eq_false_iff.2 fun hmem => hinitial _ (List.contains_iff_mem.1 hmem) hhead

/-- State lists have no amounts. -/
theorem Storyboard.workedOf_states (v : View) (act : Int → Frame → Action) (groups : Animation) :
    workedOf (ofAnimation v act groups).states = [] :=
  clausesUnder_states workedKeys_states v act groups

namespace ThingDefinition

/-- The clauses with amounts in the definition of a thing. -/
theorem workedOf_clauses (v : View) (id : Int) {t : Thing} (hmass : Word.Fits t.mass) (owner : String)
    (starts : List (Role × Int)) :
    workedOf (clauses v id t (storyboard v owner starts)) = worked Word.wrap64 v t := by
  have hmeasures : clausesUnder workedKeys.contains (measures v t) =
      [⟨"MASS", toString (Word.wrap64 t.mass.natAbs)⟩] := by
    unfold measures
    rw [Word.magnitude_eq_wrap64 hmass]
    simp (disch := decide) only [clausesUnder_append, clausesUnder_cons, clausesUnder_cons_of_other,
      clausesUnder_nil, clausesUnder_clauseIf, clausesUnder_clauseFor, List.append_nil]
  have hspecials : clausesUnder workedKeys.contains (specials v id t) = [] := by
    unfold specials
    simp (disch := decide) only [clausesUnder_append, clausesUnder_listClause, clausesUnder_clauseIf,
      clausesUnder_clauseFor, List.append_nil]
  have hdamage : clausesUnder workedKeys.contains (damage v t) = if t.has ThingFlag.missile ∧ 0 < t.damage then
      [⟨"PROJECTILE_DAMAGE.VAL", toString t.damage⟩,
       ⟨"PROJECTILE_DAMAGE.MAX", toString (Word.wrap64 (8 * t.damage))⟩] else [] := by
    unfold damage
    rw [clausesUnder_append, clausesUnder_clauseFor (by decide), List.nil_append, Word.mul_eq_wrap64]
    split
    · simp (disch := decide) only [clausesUnder_cons, clausesUnder_nil]
    · rfl
  have hpickup : clausesUnder workedKeys.contains (((Pickup.ofThing? v t).map (Pickup.clauses v)).getD []) =
      Definition.clauseFor "PICKUP_BENEFIT" (fun p => p.benefit.worked Word.wrap64 v) (Pickup.ofThing? v t) := by
    cases Pickup.ofThing? v t with
    | none => rfl
    | some p =>
        rw [Option.map_some, Option.getD_some]
        unfold Pickup.clauses
        rw [Benefit.text_eq_worked]
        simp (disch := decide) only [clausesUnder_append, clausesUnder_cons, clausesUnder_cons_of_other,
          clausesUnder_nil, clausesUnder_clauseFor, List.append_nil]
        rfl
  rw [workedOf_eq, clausesUnder_clauses (by decide) workedKeys_states, hmeasures, hspecials, hdamage, hpickup,
    List.append_nil]
  rfl

end ThingDefinition

/-- The clauses with amounts in the definition of a projectile. -/
theorem AttackDefinition.workedOf_clauses (v : View) (e : AttackEntry) (t : Thing) (deathSound : Int) :
    workedOf (clauses v e t deathSound) = worked Word.wrap64 t := by
  have hdamage : clausesUnder workedKeys.contains (damage t) = worked Word.wrap64 t := by
    unfold damage worked
    rw [Word.mul_eq_wrap64]
    split
    · simp (disch := decide) only [clausesUnder_cons, clausesUnder_nil]
    · rfl
  rw [workedOf_eq]
  unfold clauses
  simp (disch := decide) only [clausesUnder_append, clausesUnder_cons_of_other, clausesUnder_nil,
    clausesUnder_clauseIf, clausesUnder_clauseFor, clausesUnder_listClause, clausesUnder_soundClause, hdamage,
    List.append_nil, List.nil_append]

theorem Scratch.workedOf_block (a : Scratch) :
    workedOf a.block.clauses = [⟨"DAMAGE.VAL", toString a.damage⟩, ⟨"DAMAGE.MAX", toString a.most⟩] := by
  rw [workedOf_eq]
  unfold block
  simp (disch := decide) only [clausesUnder_append, clausesUnder_cons, clausesUnder_cons_of_other, clausesUnder_nil,
    clausesUnder_clauseIf, List.append_nil]

/-- The clauses with amounts in the definition of a scratch attack are those of its frame. -/
theorem Action.worked_of_scratch? {v : View} {owner : String} {id : Int} {f : Frame} {a : Scratch}
    (ha : (ofFrame v owner id f).scratch? = some a) :
    a.frame = id ∧ ∃ p, CodePointer.ofAction? f.action = some p ∧
      workedOf a.block.clauses = Scratch.worked Word.wrap64 p f := by
  rw [Scratch.workedOf_block]
  unfold ofFrame at ha
  split at ha
  · cases ha
  · next p hp =>
    have htarget : ∀ (o : Option String) (make : String → Action), (∀ name, (make name).scratch? = none) →
        ((o.map make).getD (plain p.ddf)).scratch? = none := by
      intro o make hmake
      cases o with
      | none => rfl
      | some name => exact hmake name
    split at ha
    · next hmnemonic =>
      cases ha
      exact ⟨rfl, p, hp, by simp [Scratch.worked, hmnemonic]⟩
    · next hmnemonic =>
      cases ha
      exact ⟨rfl, p, hp, by simp [Scratch.worked, hmnemonic, Word.mul]⟩
    · rw [htarget _ range fun _ => rfl] at ha
      cases ha
    · rw [htarget _ spawn fun _ => rfl] at ha
      cases ha
    · rw [htarget _ spawn fun _ => rfl] at ha
      cases ha
    · split at ha <;> cases ha
    · cases ha

theorem Storyboard.worked_of_mem_scratches {v : View} {act : Int → Frame → Action} {groups : Animation} {a : Scratch}
    (hact : ∀ id f, (act id f).scratch? = none ∨ ∃ owner, act id f = .ofFrame v owner id f)
    (ha : a ∈ (ofAnimation v act groups).scratches) :
    ∃ f p, v.session.frame? a.frame = some f ∧ CodePointer.ofAction? f.action = some p ∧
      workedOf a.block.clauses = Scratch.worked Word.wrap64 p f := by
  obtain ⟨g, -, ha⟩ := List.mem_flatMap.1 ha
  obtain ⟨id, -, ha⟩ := List.mem_filterMap.1 ha
  rcases hact id ((v.reel.frame? id).getD {}) with hnone | ⟨owner, hframe⟩
  · rw [hnone] at ha
    cases ha
  · rw [hframe] at ha
    obtain ⟨rfl, p, hp, hworked⟩ := Action.worked_of_scratch? ha
    -- What stands for a missing frame has no code pointer.
    cases hread : v.reel.frame? a.frame with
    | none =>
        rw [hread] at hp
        cases hp
    | some f =>
        rw [hread] at hp hworked
        exact ⟨f, p, hread, hp, hworked⟩

end DoomPatch
