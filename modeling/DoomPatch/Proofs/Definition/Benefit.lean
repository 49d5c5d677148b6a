import Mathlib.Data.List.Basic
import Std.Data.String.ToInt
import DoomPatch.Definition.Pickup
import DoomPatch.Proofs.Baseline.Things
import DoomPatch.Proofs.Session.Marked

/-!
# What a pickup is measured by

The benefit of a pickup quotes types of ammunition and global values.  This module lists which, and compares the
lists with the marks that edits set.

* `Benefit.ammoRead`, `Benefit.miscRead` — what a benefit quotes.
* `Benefit.text_congr` — its text depends on nothing else.
* `ammoText_eq_iff` — an amount of ammunition reads the same exactly if it is the same.
* `users_of_pickup` — the tables mark a pickup for all it quotes, except a weapon for its ammunition.
-/

namespace DoomPatch
namespace Benefit

/-- The types of ammunition that a benefit quotes. -/
def ammoRead : Benefit → List Int
  | ammo type _ => [type]
  | weapon _ type => [type]
  | backpack => (List.range Baseline.numAmmo).map Int.ofNat
  | _ => []

/-- The global values that a benefit quotes. -/
def miscRead : Benefit → List MiscField
  | greenArmour => [.greenClass]
  | blueArmour => [.blueClass]
  | healthBonus => [.maxHealth]
  | armourBonus => [.maxArmor]
  | soulsphere => [.soulsphereHealth, .maxSoulsphere]
  | megasphere => [.megasphereHealth]
  | _ => []

/-- Whether a benefit is a weapon. -/
def isWeapon : Benefit → Bool
  | weapon _ _ => true
  | _ => false

end Benefit

/-- Sessions with the same ammunition list the same types. -/
theorem View.ammoTypes_congr {v v' : View}
    (hammo : ∀ a ∈ (List.range Baseline.numAmmo).map Int.ofNat, v'.session.ammo? a = v.session.ammo? a) :
    v'.ammoTypes = v.ammoTypes :=
  List.filterMap_congr fun n hn => hammo (Int.ofNat n) (List.mem_map_of_mem hn)

/-- The text of a benefit depends only on what it quotes. -/
theorem Benefit.text_congr {v v' : View} {b : Benefit}
    (hammo : ∀ a ∈ b.ammoRead, v'.session.ammo? a = v.session.ammo? a)
    (hmisc : ∀ f ∈ b.miscRead, f.get v'.session.misc = f.get v.session.misc) : b.text v' = b.text v := by
  unfold Benefit.text
  cases b with
  | fixed text => rfl
  | ammo type factor =>
      have htype := hammo type (by simp [ammoRead])
      dsimp only [ammoText]
      rw [htype]
  | weapon name type =>
      have htype := hammo type (by simp [ammoRead])
      dsimp only [ammoText]
      rw [htype]
  | greenArmour =>
      have hclass : v'.session.misc.greenClass = v.session.misc.greenClass := hmisc .greenClass (by decide)
      dsimp only
      rw [hclass]
  | blueArmour =>
      have hclass : v'.session.misc.blueClass = v.session.misc.blueClass := hmisc .blueClass (by decide)
      dsimp only
      rw [hclass]
  | healthBonus =>
      have hmax : v'.session.misc.maxHealth = v.session.misc.maxHealth := hmisc .maxHealth (by decide)
      dsimp only
      rw [hmax]
  | armourBonus =>
      have hmax : v'.session.misc.maxArmor = v.session.misc.maxArmor := hmisc .maxArmor (by decide)
      dsimp only
      rw [hmax]
  | soulsphere =>
      have hgives : v'.session.misc.soulsphereHealth = v.session.misc.soulsphereHealth :=
        hmisc .soulsphereHealth (by decide)
      have hmax : v'.session.misc.maxSoulsphere = v.session.misc.maxSoulsphere := hmisc .maxSoulsphere (by decide)
      dsimp only
      rw [hgives, hmax]
  | megasphere =>
      have hgives : v'.session.misc.megasphereHealth = v.session.misc.megasphereHealth :=
        hmisc .megasphereHealth (by decide)
      dsimp only
      rw [hgives]
  | backpack =>
      have htypes := View.ammoTypes_congr hammo
      dsimp only
      rw [htypes]

/-- An amount of ammunition that goes by one name reads the same exactly if it is the same. -/
theorem Benefit.ammoText_eq_iff {v v' : View} {type : Int} (factor : Int)
    (hname : ((v'.session.ammo? type).getD {}).name = ((v.session.ammo? type).getD {}).name) :
    ammoText v' type factor = ammoText v type factor ↔
      Word.mul ((v'.session.ammo? type).getD {}).per factor = Word.mul ((v.session.ammo? type).getD {}).per factor := by
  constructor
  · intro htext
    simp only [ammoText, hname, String.append_left_inj, String.append_right_inj] at htext
    exact Int.repr_injective htext
  · intro hamount
    simp only [ammoText, hname, hamount]

namespace Session

/-- The tables mark a pickup for everything that it quotes, except a weapon for its ammunition. -/
theorem users_of_pickup {id : Int} {t : Thing} (hbase : Baseline.thing? id = some t) {version : Int} {p : Pickup}
    (hpickup : Pickup.ofThing? { session := new version } t = some p) :
    (∀ f ∈ p.benefit.miscRead, id ∈ miscThings f) ∧
      (p.benefit.isWeapon = true ∨ ∀ a ∈ p.benefit.ammoRead, id ∈ ammoUsers a) := by
  have hid := Baseline.forall_things
    (fun id t => (Pickup.ofThing? { session := new 0 } t).all fun p =>
      (p.benefit.miscRead.all fun f => (miscThings f).contains id) &&
        (p.benefit.isWeapon || p.benefit.ammoRead.all fun a => (ammoUsers a).contains id))
    (by decide +kernel) hbase
  rw [show Pickup.ofThing? { session := new 0 } t = some p from hpickup] at hid
  simpa using hid

end Session
end DoomPatch
