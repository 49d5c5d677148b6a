import DoomPatch.Proofs.Baseline.Names
import DoomPatch.Proofs.Session.Records
import DoomPatch.Proofs.Session.Users

/-!
# The names in a session

Edits do not rename things or weapons, and what they can rename stays within limits: sprites have short names, and
messages are replaced under the references of the table.

* `thingLaw_named` — things go by the names of their numbers.
* `WeaponNamed` — weapons go by the names of the tables.
* `Fair` — the limits of sounds, sprites and messages.
* `Named`, `Named.apply`, `Reachable.named` — all of that together, kept by edits.
-/

namespace DoomPatch
namespace Session

variable {s s' : Session}

/-! ### Things -/

/-- A thing goes by the name of its number, and the number is small. -/
theorem thingLaw_named :
    ThingLaw fun id t => t.name = Baseline.thingName id ∧ 0 ≤ id ∧ id ≤ Limits.extendedMax where
  table := by
    intro id t hbase
    have hbounds := Baseline.bounds_of_at? hbase
    rw [Baseline.size_things] at hbounds
    have hsize : (Baseline.numThings : Int) ≤ Limits.extendedMax := by decide
    refine ⟨?_, hbounds.1, by omega⟩
    unfold Baseline.thingName
    rw [hbase]
    rfl
  neutral := by
    intro id hnone hbounds
    refine ⟨?_, hbounds⟩
    unfold Baseline.thingName
    rw [hnone]
    rfl
  alters := by
    intro lim id t t' halters hlaw
    rw [halters.name_eq]
    exact hlaw
  health := fun _ _ _ hlaw => hlaw

/-! ### Weapons -/

/-- Weapons go by the names of the tables. -/
def WeaponNamed (s : Session) : Prop := ∀ id, (s.weapon? id).map (·.name) = (Baseline.weapon? id).map (·.name)

namespace WeaponNamed

theorem congr (hs : s.WeaponNamed) (hsame : ∀ id, s'.weapon? id = s.weapon? id) : s'.WeaponNamed := by
  intro id
  rw [hsame]
  exact hs id

theorem putWeapon (hs : s.WeaponNamed) {id : Int} {w w' : Weapon} (hopen : s.openWeapon id = .ok w)
    (hname : w'.name = w.name) : (s.putWeapon id w').WeaponNamed := by
  have hweapon : s.weapon? id = some w := by
    unfold openWeapon at hopen
    cases hw : s.weapon? id with
    | none =>
        rw [hw] at hopen
        cases hopen
    | some w =>
        rw [hw] at hopen
        cases hopen
        rfl
  intro i
  have hread : (s.putWeapon id w').weapon? i = if i = id then some w' else s.weapon? i := by
    unfold weapon? Session.putWeapon
    rw [SortedMap.get?_insert]
    split <;> rfl
  rw [hread]
  split
  · next heq =>
    rw [heq, ← hs id, hweapon, Option.map_some, Option.map_some, hname]
  · exact hs i

theorem touchThings (hs : s.WeaponNamed) (ids : List Int) : (s.touchThings ids).WeaponNamed := by
  refine hs.congr fun id => ?_
  unfold weapon?
  rw [weapons_touchThings]

theorem touchMiscUsers (hs : s.WeaponNamed) (f : MiscField) (v : Int) : (s.touchMiscUsers f v).WeaponNamed := by
  have htouch := hs.touchThings (miscThings f)
  unfold Session.touchMiscUsers
  dsimp only
  split
  · split <;> exact htouch
  · split
    · next w hopen => exact htouch.putWeapon hopen rfl
    · exact htouch
  · split
    · exact htouch.touchThings _
    · exact htouch
  · exact htouch

theorem move (hs : s.WeaponNamed) (hmove : Move s s') : s'.WeaponNamed := by
  cases hmove with
  | warn w => exact hs
  | thing id t t' => exact hs
  | frame id f f' => exact hs.congr (weapon?_touchUsers (s.putFrame id f') _)
  | weapon id w w' hopen halters =>
      refine hs.putWeapon hopen ?_
      cases halters with
      | field hstores => exact hstores.keeps (·.name) fun f v r => by cases f <;> rfl
      | flags word => rfl
  | ammo id a a' =>
      have hput : (s.putAmmo id a').WeaponNamed := hs
      exact hput.touchThings _
  | misc f v =>
      have hstore : ({ s with misc := MiscField.table.store f v s.misc, miscModified := true } : Session).WeaponNamed :=
        hs
      exact hstore.touchMiscUsers f v
  | sound id snd snd' => exact hs
  | sprite id name => exact hs.congr (weapon?_touchUsers { s with sprites := s.sprites.insert id name } _)
  | text ref value => exact hs

end WeaponNamed

/-! ### Sounds, sprites and messages -/

/-- What edits have renamed or replaced stays within limits. -/
structure Fair (s : Session) : Prop where
  /-- Only small numbers of sounds are used. -/
  sounds : ∀ id snd, s.sounds.get? id = some snd → 0 ≤ id ∧ id ≤ Limits.extendedMax
  /-- Sprites have short names. -/
  sprites : ∀ id name, s.sprites.get? id = some name → name.toList.length ≤ 4
  /-- Messages are replaced under the references of the table. -/
  texts : ∀ ref value, s.texts.get? ref = some value → ref ∈ Baseline.phrases.map (·.ref)

namespace Fair

theorem congr (hs : s.Fair) (hsounds : s'.sounds = s.sounds) (hsprites : s'.sprites = s.sprites)
    (htexts : s'.texts = s.texts) : s'.Fair where
  sounds := hsounds ▸ hs.sounds
  sprites := hsprites ▸ hs.sprites
  texts := htexts ▸ hs.texts

/-- Marks on things and weapons make no difference. -/
theorem marks (hs : s.Fair) (hmarks : Marks s s') : s'.Fair :=
  hs.congr hmarks.sounds_eq hmarks.sprites_eq hmarks.texts_eq

theorem putSound (hs : s.Fair) {id : Int} {snd snd' : Sound} (hopen : s.openSound id = .ok snd) :
    (s.putSound id snd').Fair where
  sounds := by
    intro i snd₁ hget
    unfold Session.putSound at hget
    rw [SortedMap.get?_insert] at hget
    split at hget
    · next heq =>
      subst heq
      unfold openSound at hopen
      cases hold : s.sounds.get? i with
      | some snd₀ => exact hs.sounds i snd₀ hold
      | none =>
          rw [hold] at hopen
          dsimp only at hopen
          cases hcheck : s.checkId "sound" i Baseline.numSounds with
          | error e =>
              rw [hcheck] at hopen
              cases hopen
          | ok _ => exact bounds_of_checkId (by decide) hcheck
    · exact hs.sounds i snd₁ hget
  sprites := hs.sprites
  texts := hs.texts

theorem rename (hs : s.Fair) {id : Int} {name : String} (hshort : name.toList.length ≤ 4) :
    ({ s with sprites := s.sprites.insert id name } : Session).Fair where
  sounds := hs.sounds
  sprites := by
    intro i name' hget
    rw [SortedMap.get?_insert] at hget
    split at hget
    · cases hget
      exact hshort
    · exact hs.sprites i name' hget
  texts := hs.texts

theorem setText (hs : s.Fair) {ref : String} (href : ref ∈ Baseline.phrases.map (·.ref)) (value : String) :
    (s.setText ref value).Fair where
  sounds := hs.sounds
  sprites := hs.sprites
  texts := by
    intro r v hget
    unfold Session.setText at hget
    rw [SortedMap.get?_insert] at hget
    split at hget
    · next heq => exact heq ▸ href
    · exact hs.texts r v hget

theorem move (hs : s.Fair) (hmove : Move s s') : s'.Fair := by
  cases hmove with
  | warn w => exact hs.congr rfl rfl rfl
  | thing id t t' => exact hs.congr rfl rfl rfl
  | frame id f f' =>
      have hput : (s.putFrame id f').Fair := hs.congr rfl rfl rfl
      exact hput.marks (Marks.touchFrameUsers _ id)
  | weapon id w w' => exact hs.congr rfl rfl rfl
  | ammo id a a' =>
      have hput : (s.putAmmo id a').Fair := hs.congr rfl rfl rfl
      exact hput.marks (Marks.touchThings _ _)
  | misc f v =>
      have hstore : ({ s with misc := MiscField.table.store f v s.misc, miscModified := true } : Session).Fair :=
        hs.congr rfl rfl rfl
      exact hstore.marks (Marks.touchMiscUsers _ f v)
  | sound id snd snd' hopen => exact hs.putSound hopen
  | sprite id name hshort => exact (hs.rename hshort).marks (Marks.touchSpriteUsers _ id)
  | text ref value href => exact hs.setText href value

end Fair

theorem fair_new (version : Int) : (new version).Fair where
  sounds := fun _ _ hget => by cases hget
  sprites := fun _ _ hget => by cases hget
  texts := fun _ _ hget => by cases hget

/-! ### All names -/

/-- Everything goes by the names it may have. -/
structure Named (s : Session) : Prop where
  /-- Modified things go by the names of their numbers. -/
  things : s.Lawful fun id t => t.name = Baseline.thingName id ∧ 0 ≤ id ∧ id ≤ Limits.extendedMax
  /-- Weapons go by the names of the tables. -/
  weapons : s.WeaponNamed
  /-- The rest stays within limits. -/
  fair : s.Fair

namespace Named

theorem move (hs : s.Named) (hmove : Move s s') : s'.Named :=
  ⟨thingLaw_named.move hs.things hmove, hs.weapons.move hmove, hs.fair.move hmove⟩

theorem apply (hs : s.Named) {e : Edit} (happly : s.apply e = .ok s') : s'.Named :=
  (apply_moves happly).keeps (fun _ _ hs hmove => hs.move hmove) hs

/-- Names do not depend on the version of the patch format or on warnings. -/
theorem congr (hs : s.Named) (hthings : s'.things = s.things) (hweapons : s'.weapons = s.weapons)
    (hsounds : s'.sounds = s.sounds) (hsprites : s'.sprites = s.sprites) (htexts : s'.texts = s.texts) : s'.Named where
  things := by
    unfold Lawful
    rw [hthings]
    exact hs.things
  weapons := by
    refine hs.weapons.congr fun id => ?_
    unfold weapon?
    rw [hweapons]
  fair := hs.fair.congr hsounds hsprites htexts

theorem setVersion (hs : s.Named) (version : Int) : (s.setVersion version).Named := hs.congr rfl rfl rfl rfl rfl

theorem law_of_thing? (hs : s.Named) {id : Int} {t : Thing} (hthing : s.thing? id = some t) :
    t.name = Baseline.thingName id ∧ 0 ≤ id ∧ id ≤ Limits.extendedMax := by
  cases hget : s.things.get? id with
  | some t' =>
      rw [thing?_of_get? hget] at hthing
      cases hthing
      exact hs.things id t hget
  | none =>
      rw [thing?_of_get?_eq_none hget] at hthing
      exact thingLaw_named.table id t hthing

theorem bare_thing (hs : s.Named) {id : Int} {t : Thing} (hthing : s.thing? id = some t) : Bare t.ddfName := by
  apply Thing.bare_ddfName
  rw [(hs.law_of_thing? hthing).1]
  unfold Baseline.thingName
  cases hbase : Baseline.thing? id with
  | some t₀ => exact Baseline.bare_thing? hbase
  | none => exact Baseline.bare_extraThingName id

theorem exists_weapon (hs : s.Named) {id : Int} {w : Weapon} (hweapon : s.weapon? id = some w) :
    ∃ w₀, Baseline.weapon? id = some w₀ ∧ w₀.name = w.name := by
  have hnamed := hs.weapons id
  rw [hweapon, Option.map_some] at hnamed
  exact Option.map_eq_some_iff.1 hnamed.symm

end Named

theorem named_new (version : Int) : (new version).Named where
  things := fun _ _ hget => by cases hget
  weapons := fun _ => rfl
  fair := fair_new version

/-- In every session that can be reached, everything goes by the names it may have. -/
theorem Reachable.named (hs : Reachable s) : s.Named :=
  hs.invariant named_new (fun _ _ hs hmove => hs.move hmove) (fun _ version hs => hs.setVersion version)

end Session
end DoomPatch
