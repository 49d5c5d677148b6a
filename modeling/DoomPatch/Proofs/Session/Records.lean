import DoomPatch.Proofs.Session.Move
import DoomPatch.Proofs.Session.Overlay

/-!
# What holds of every record

A record of an overlay starts as the record of the tables, or as a neutral one, and is altered field by field.
What holds at the start and survives every alteration holds of all records at all times.

* `ThingLaw` — a property of things that edits cannot break.
* `ThingLaw.of_reachable` — it holds of all modified things in every session that can be reached.
* `Reachable.thing_name`, `Reachable.ammo_name` — no edit renames a thing of the tables or a type of
  ammunition.
-/

namespace DoomPatch
namespace Session

/-- A property of numbered things that edits cannot break. -/
structure ThingLaw (law : Int → Thing → Prop) : Prop where
  /-- It holds of the tables. -/
  table : ∀ id t, Baseline.thing? id = some t → law id t
  /-- It holds of the records beyond the tables, where there can be any. -/
  neutral : ∀ id, Baseline.thing? id = none → 0 ≤ id ∧ id ≤ Limits.extendedMax → law id (Thing.neutral (Baseline.extraThingName id))
  /-- Alterations keep it. -/
  alters : ∀ lim id t t', AltersThing lim t t' → law id t → law id t'
  /-- So does a new number of hit points. -/
  health : ∀ id t v, law id t → law id { t with health := v }

/-- All modified things have a property. -/
def Lawful (s : Session) (law : Int → Thing → Prop) : Prop := ∀ id t, s.things.get? id = some t → law id t

namespace ThingLaw

variable {law : Int → Thing → Prop} {s : Session}

/-- The record that a change starts from has the property. -/
theorem of_openThing (hlaw : ThingLaw law) (hs : s.Lawful law) {id : Int} {t : Thing}
    (hopen : s.openThing id = .ok t) : law id t := by
  unfold openThing at hopen
  cases hget : s.things.get? id with
  | some t' =>
      rw [hget] at hopen
      cases hopen
      exact hs id t hget
  | none =>
      rw [hget] at hopen
      dsimp only at hopen
      cases hcheck : s.checkId "thing" id Baseline.numThings with
      | error e =>
          rw [hcheck] at hopen
          cases hopen
      | ok _ =>
          rw [hcheck] at hopen
          cases hopen
          cases hbase : Baseline.thing? id with
          | some t => exact hlaw.table id t hbase
          | none => exact hlaw.neutral id hbase (bounds_of_checkId (by decide) hcheck)

theorem putThing (hs : s.Lawful law) {id : Int} {t : Thing} (ht : law id t) : (s.putThing id t).Lawful law := by
  intro i t' hget
  unfold Session.putThing at hget
  rw [SortedMap.get?_insert] at hget
  split at hget
  · next heq =>
    cases hget
    exact heq ▸ ht
  · exact hs i t' hget

theorem touchThings (hlaw : ThingLaw law) (hs : s.Lawful law) (ids : List Int) : (s.touchThings ids).Lawful law := by
  unfold Session.touchThings
  induction ids generalizing s with
  | nil => exact hs
  | cons id ids ih =>
      apply ih
      unfold touchThing
      cases hopen : s.openThing id with
      | ok t => exact putThing hs (hlaw.of_openThing hs hopen)
      | error e => exact hs

theorem touchUsers (hlaw : ThingLaw law) (hs : s.Lawful law) (uses : List Int → Bool) :
    (s.touchUsers uses).Lawful law := by
  intro id t hget
  unfold Session.touchUsers at hget
  rw [things_touchWeapons] at hget
  exact hlaw.touchThings hs _ id t hget

theorem touchMiscUsers (hlaw : ThingLaw law) (hs : s.Lawful law) (f : MiscField) (v : Int) :
    (s.touchMiscUsers f v).Lawful law := by
  have htouch := hlaw.touchThings hs (miscThings f)
  unfold Session.touchMiscUsers
  dsimp only
  split
  · split
    · next t hopen => exact putThing htouch (hlaw.health _ t v (hlaw.of_openThing htouch hopen))
    · exact htouch
  · split <;> exact htouch
  · split
    · exact hlaw.touchThings htouch _
    · exact htouch
  · exact htouch

/-- Moves keep the property. -/
theorem move (hlaw : ThingLaw law) (hs : s.Lawful law) {s' : Session} (hmove : Move s s') : s'.Lawful law := by
  cases hmove with
  | warn w => exact hs
  | thing id t t' hopen halters => exact putThing hs (hlaw.alters _ id t t' halters (hlaw.of_openThing hs hopen))
  | frame id f f' => exact hlaw.touchUsers (s := s.putFrame id f') hs _
  | weapon id w w' => exact hs
  | ammo id a a' => exact hlaw.touchThings (s := s.putAmmo id a') hs _
  | misc f v => exact hlaw.touchMiscUsers (by exact hs) f v
  | sound id snd snd' => exact hs
  | sprite id name => exact hlaw.touchUsers (by exact hs) _
  | text ref value => exact hs

/-- The property holds of all modified things. -/
theorem of_reachable (hlaw : ThingLaw law) (hs : Reachable s) : s.Lawful law :=
  hs.invariant (fun _ _ _ hget => by cases hget) (fun _ _ hs hmove => hlaw.move hs hmove) (fun _ _ hs => hs)

end ThingLaw

/-! ### Names -/

theorem AltersThing.name_eq {lim : Limits} {t t' : Thing} (halters : AltersThing lim t t') : t'.name = t.name := by
  cases halters with
  | field hstores => exact hstores.keeps (·.name) fun f v r => by cases f <;> rfl
  | flags word => rfl
  | extended word => rfl

/-- A thing of the tables keeps its name. -/
theorem thingLaw_name : ThingLaw fun id t => ∀ t₀, Baseline.thing? id = some t₀ → t.name = t₀.name where
  table := by
    intro id t hbase t₀ hbase₀
    rw [hbase] at hbase₀
    cases hbase₀
    rfl
  neutral := by
    intro id hnone _ t₀ hbase
    rw [hnone] at hbase
    cases hbase
  alters := by
    intro lim id t t' halters hname t₀ hbase
    rw [halters.name_eq, hname t₀ hbase]
  health := fun _ _ _ hname => hname

/-- No edit renames a thing of the tables. -/
theorem Reachable.thing_name {s : Session} (hs : Reachable s) {id : Int} {t₀ : Thing}
    (hbase : Baseline.thing? id = some t₀) : ∃ t, s.thing? id = some t ∧ t.name = t₀.name := by
  cases hget : s.things.get? id with
  | some t => exact ⟨t, thing?_of_get? hget, thingLaw_name.of_reachable hs id t hget t₀ hbase⟩
  | none => exact ⟨t₀, (thing?_of_get?_eq_none hget).trans hbase, rfl⟩

/-- Ammunition goes by the names of the tables. -/
def AmmoNamed (s : Session) : Prop := ∀ id, (s.ammo? id).map (·.name) = (Baseline.ammo? id).map (·.name)

theorem AmmoNamed.move {s s' : Session} (hs : s.AmmoNamed) (hmove : Move s s') : s'.AmmoNamed := by
  -- All moves but one leave ammunition alone.
  have hkeep : ∀ {s' : Session}, s'.ammo = s.ammo → s'.AmmoNamed := by
    intro s' hsame id
    rw [ammo?_congr hsame]
    exact hs id
  cases hmove with
  | ammo id a a' hopen hstores =>
      have hname : a'.name = a.name := hstores.keeps (·.name) fun f v r => by cases f <;> rfl
      intro i
      rw [ammo?_congr (Marks.touchThings _ _).ammo_eq, ammo?_putAmmo]
      split
      · next heq =>
        rw [heq, ← hs id, ammo?_of_openAmmo hopen, Option.map_some, Option.map_some, hname]
      · exact hs i
  | warn w => exact hkeep rfl
  | thing id t t' => exact hkeep rfl
  | frame id f f' => exact hkeep (Marks.touchFrameUsers _ _).ammo_eq
  | weapon id w w' => exact hkeep rfl
  | misc f v => exact hkeep (Marks.touchMiscUsers _ _ _).ammo_eq
  | sound id snd snd' => exact hkeep rfl
  | sprite id name => exact hkeep (Marks.touchSpriteUsers _ _).ammo_eq
  | text ref value => exact hkeep rfl

/-- No edit renames a type of ammunition. -/
theorem Reachable.ammo_name {s : Session} (hs : Reachable s) : s.AmmoNamed :=
  hs.invariant (fun _ _ => rfl) (fun _ _ hs hmove => hs.move hmove) (fun _ _ hs => hs)

end Session
end DoomPatch
