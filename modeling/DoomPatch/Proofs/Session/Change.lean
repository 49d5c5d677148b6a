import DoomPatch.Proofs.Session.Move
import DoomPatch.Proofs.Session.Rewrite

/-!
# What an edit comes down to

Every edit is decided first and carried out then.  What is decided is a list of changes: warnings, and at most
one alteration of a record or value.  A change rewrites overlays, and which entities it touches beside its own is
read off the session it is carried out in.

* `Change`, `carry` — a single change and its effect.
* `changes`, `apply_eq_carryAll` — the changes of an edit; carrying them out in order is applying the edit.
* `thingWrites`, `weaponWrites` — what a change writes to the overlays of things and weapons, touched entities
  included.
* `carry_eq` — the whole effect of a change: overlays rewritten, warnings added, nothing else.
* `Reachable.of_changes` — what changes and changes of version keep holds of every session that can be reached.
-/

namespace DoomPatch

open Overlay

/-- What an edit asks for: a warning, or an alteration.  Records are altered under the name of a field, which a
refusal reports. -/
inductive Change where
  | warn (w : Warning)
  | thing (id : Int) (field : String) (alter : Thing → Thing)
  | frame (id : Int) (field : String) (alter : Frame → Frame)
  | weapon (id : Int) (field : String) (alter : Weapon → Weapon)
  | ammo (id : Int) (field : String) (alter : Ammo → Ammo)
  | misc (field : MiscField) (value : Int)
  | sound (id : Int) (field : String) (alter : Sound → Sound)
  | sprite (id : Int) (name : String)
  | text (ref value : String)

namespace Session

/-! ### Changes -/

/-- Goes on with the record that was opened, or leaves the warning of the refusal. -/
def onOpened {ρ : Type} (s : Session) (entity : String) (id : Int) (field : String) (found : Except RangeError ρ)
    (finish : ρ → Session) : Session :=
  match found with
  | .error e => s.refuse entity id field e
  | .ok r => finish r

/-- Carries out a change. -/
def carry (s : Session) : Change → Session
  | .warn w => s.warn w
  | .thing id field alter => s.onOpened "thing" id field (s.openThing id) fun t => s.putThing id (alter t)
  | .frame id field alter =>
    s.onOpened "frame" id field (s.openFrame id) fun f => (s.putFrame id (alter f)).touchFrameUsers id
  | .weapon id field alter => s.onOpened "weapon" id field (s.openWeapon id) fun w => s.putWeapon id (alter w)
  | .ammo id field alter =>
    s.onOpened "ammo" id field (s.openAmmo id) fun a => (s.putAmmo id (alter a)).touchThings (ammoUsers id)
  | .misc field value =>
    ({ s with misc := MiscField.table.store field value s.misc, miscModified := true } : Session).touchMiscUsers
      field value
  | .sound id field alter => s.onOpened "sound" id field (s.openSound id) fun snd => s.putSound id (alter snd)
  | .sprite id name => ({ s with sprites := s.sprites.insert id name } : Session).touchSpriteUsers id
  | .text ref value => s.setText ref value

/-- Carries out changes in order. -/
def carryAll (s : Session) (cs : List Change) : Session := cs.foldl carry s

/-- The change that writing a field comes down to. -/
def fieldChange {φ ρ : Type} (s : Session) (table : FieldTable φ ρ) (entity : String) (id : Int) (field : String)
    (value : Int) (change : String → (ρ → ρ) → Change) : Change :=
  match s.resolve table entity id field value with
  | .error w => .warn w
  | .ok f => change (table.name f) (table.store f value)

/-- The change that writing a global value comes down to. -/
def miscChange (s : Session) (id : Int) (field : String) (value : Int) : Change :=
  match s.resolve MiscField.table "misc" id field value with
  | .error w => .warn w
  | .ok f => .misc f value

/-- The warning of a token that is no flag. -/
def tokenWarning (v : Vocabulary) (entity : String) (id : Int) (token : String) : Warning :=
  { kind := .unknownMnemonic, entity, id, field := v.name,
    message := s!"unknown {v.name} mnemonic " ++ Text.quoted token }

/-- The changes that replacing a flag word comes down to: a warning for each token that is no flag, and the new
word unless nothing is known of it. -/
def bitsChanges (v : Vocabulary) (entity : String) (id : Int) (tokens : String) (change : UInt32 → Change) :
    List Change :=
  let (word, unknown) := FlagExpression.parse v tokens
  (unknown.map (tokenWarning v entity id)).map .warn ++ if word = 0 ∧ unknown ≠ [] then [] else [change word]

/-- The change that a new action of a frame comes down to. -/
def actionChange (id : Int) (action : String) : Change := .frame id "Codep" fun f => { f with action }

/-- The change that a code pointer comes down to. -/
def pointerChange (id : Int) (mnemonic : String) : Change :=
  if mnemonic = "" ∨ Text.sameFold mnemonic "NULL" then actionChange id ""
  else
    match CodePointer.lookup? mnemonic with
    | some p => actionChange id p.action
    | none => .warn { kind := .unknownPointer, entity := "frame", id, field := "Codep",
                      message := "unknown code pointer " ++ Text.quoted mnemonic }

/-- The change that copying a code pointer comes down to. -/
def copyChange (s : Session) (id source : Int) : Change :=
  match s.frame? source with
  | none => .warn { kind := .outOfRange, entity := "frame", id, field := "Codep Frame",
                    message := (RangeError.noSource source).message }
  | some f => actionChange id f.action

/-- The change that a new text comes down to. -/
def textChange (old new : String) : Change :=
  match renamedSprite? old new with
  | some id => .sprite id (Text.upper new)
  | none =>
    match renamedSound? old new with
    | some id => .sound id "name" fun snd => { snd with name := Text.lower new }
    | none =>
      match Baseline.phraseRef? old with
      | some ref => .text ref new
      | none => .warn { kind := .unknownText, entity := "text",
                        message := "no sprite, sound or string matches " ++ Text.quoted old }

/-- The change that a new message comes down to. -/
def phraseChange (mnemonic new : String) : Change :=
  match Baseline.mnemonicRef? mnemonic with
  | some ref => .text ref new
  | none => .warn { kind := .unknownText, entity := "text", field := mnemonic,
                    message := "unknown string mnemonic " ++ Text.quoted mnemonic }

/-- The changes of an edit. -/
def changes (s : Session) : Edit → List Change
  | .thingField id field value => [s.fieldChange ThingField.table "thing" id field value (.thing id)]
  | .thingBits id tokens =>
    bitsChanges .thing "thing" id tokens fun word => .thing id Vocabulary.thing.name fun t => { t with flags := word }
  | .thingExtendedBits id tokens =>
    bitsChanges .extended "thing" id tokens fun word =>
      .thing id Vocabulary.extended.name fun t => { t with mbf21 := word }
  | .frameField id field value => [s.fieldChange FrameField.table "frame" id field value (.frame id)]
  | .pointer id mnemonic => [pointerChange id mnemonic]
  | .pointerCopy id source => [s.copyChange id source]
  | .weaponField id field value => [s.fieldChange WeaponField.table "weapon" id field value (.weapon id)]
  | .weaponBits id tokens =>
    bitsChanges .weapon "weapon" id tokens fun word =>
      .weapon id Vocabulary.weapon.name fun w => { w with flags := word }
  | .ammoField id field value => [s.fieldChange AmmoField.table "ammo" id field value (.ammo id)]
  | .miscField id field value => [s.miscChange id field value]
  | .soundField id field value => [s.fieldChange SoundField.table "sound" id field value (.sound id)]
  | .text old new => [textChange old new]
  | .phrase mnemonic new => [phraseChange mnemonic new]
  | .unknown _ => []

theorem find?_of_resolve {φ ρ : Type} {s : Session} {table : FieldTable φ ρ} {entity field : String} {id value : Int}
    {f : φ} (hresolve : s.resolve table entity id field value = .ok f) : table.find? field = some f := by
  unfold resolve at hresolve
  cases hfind : table.find? field with
  | none =>
      rw [hfind] at hresolve
      cases hresolve
  | some g =>
      rw [hfind] at hresolve
      dsimp only at hresolve
      split at hresolve
      · cases hresolve
      · cases hresolve
        rfl

theorem carryAll_append (s : Session) (cs cs' : List Change) :
    s.carryAll (cs ++ cs') = (s.carryAll cs).carryAll cs' := List.foldl_append

theorem carryAll_warn (s : Session) (ws : List Warning) :
    s.carryAll (ws.map .warn) = { s with warnings := s.warnings ++ ws } := by
  unfold carryAll
  induction ws generalizing s with
  | nil => simp
  | cons w ws ih =>
      rw [List.map_cons, List.foldl_cons, ih]
      simp [carry, warn]

@[simp] theorem carryAll_singleton (s : Session) (c : Change) : s.carryAll [c] = s.carry c := rfl

theorem editRecord_eq_carry {φ ρ : Type} (s : Session) (table : FieldTable φ ρ) (entity : String)
    (start : Int → Except RangeError ρ) (finish : Int → ρ → Session) (change : String → (ρ → ρ) → Change)
    (id : Int) (field : String) (value : Int)
    (hcarry : ∀ name alter, s.carry (change name alter) =
      s.onOpened entity id name (start id) fun r => finish id (alter r)) :
    s.editRecord table entity start finish id field value =
      s.carry (s.fieldChange table entity id field value change) := by
  unfold editRecord fieldChange
  cases s.resolve table entity id field value with
  | error w => rfl
  | ok f =>
      dsimp only
      rw [hcarry]
      rfl

theorem editBits_eq_carryAll {ρ : Type} (s : Session) (v : Vocabulary) (entity : String)
    (start : Session → Int → Except RangeError ρ) (finish : Session → Int → ρ → UInt32 → Session)
    (change : UInt32 → Change) (id : Int) (tokens : String)
    (hcarry : ∀ (s : Session) word, s.carry (change word) =
      s.onOpened entity id v.name (start s id) fun r => finish s id r word) :
    s.editBits v entity start finish id tokens = s.carryAll (bitsChanges v entity id tokens change) := by
  unfold editBits bitsChanges
  obtain ⟨word, unknown⟩ := FlagExpression.parse v tokens
  dsimp only
  have hwarned : s.warnTokens v entity id unknown =
      s.carryAll ((unknown.map (tokenWarning v entity id)).map .warn) := by
    unfold warnTokens carryAll
    rw [List.foldl_map, List.foldl_map]
    rfl
  rw [carryAll_append, ← hwarned]
  split
  · rfl
  · change _ = (s.warnTokens v entity id unknown).carry (change word)
    rw [hcarry]
    rfl

theorem setAction_eq_carry (s : Session) (id : Int) (action : String) :
    s.setAction id action = s.carry (actionChange id action) := by
  change s.setAction id action = s.onOpened "frame" id "Codep" (s.openFrame id) _
  unfold setAction
  cases s.openFrame id <;> rfl

theorem editPointer_eq_carry (s : Session) (id : Int) (mnemonic : String) :
    s.editPointer id mnemonic = s.carry (pointerChange id mnemonic) := by
  unfold editPointer pointerChange
  by_cases hclears : mnemonic = "" ∨ Text.sameFold mnemonic "NULL"
  · rw [if_pos hclears, if_pos hclears, setAction_eq_carry]
  · rw [if_neg hclears, if_neg hclears]
    cases CodePointer.lookup? mnemonic with
    | some p => exact s.setAction_eq_carry id p.action
    | none => rfl

theorem copyPointer_eq_carry (s : Session) (id source : Int) :
    s.copyPointer id source = s.carry (s.copyChange id source) := by
  unfold copyPointer copyChange
  cases s.frame? source with
  | some f => exact s.setAction_eq_carry id f.action
  | none => rfl

theorem renameSound_eq_carry (s : Session) (id : Int) (name : String) :
    s.renameSound id name = s.carry (.sound id "name" fun snd => { snd with name := Text.lower name }) := by
  change s.renameSound id name = s.onOpened "sound" id "name" (s.openSound id) _
  unfold renameSound
  cases s.openSound id <;> rfl

theorem editText_eq_carry (s : Session) (old new : String) :
    s.editText old new = s.carry (textChange old new) := by
  unfold editText textChange
  cases renamedSprite? old new with
  | some id => rfl
  | none =>
      cases renamedSound? old new with
      | some id => exact s.renameSound_eq_carry id new
      | none => cases Baseline.phraseRef? old <;> rfl

/-- Applying an edit is carrying out its changes in order. -/
theorem apply_eq_carryAll {s s' : Session} {e : Edit} (happly : s.apply e = .ok s') :
    s' = s.carryAll (s.changes e) := by
  cases e with
  | thingField id field value =>
      cases happly
      rw [changes, carryAll_singleton]
      exact s.editRecord_eq_carry _ _ _ _ _ id field value fun _ _ => rfl
  | thingBits id tokens =>
      cases happly
      rw [changes]
      exact s.editBits_eq_carryAll _ _ _ _ _ id tokens fun _ _ => rfl
  | thingExtendedBits id tokens =>
      cases happly
      rw [changes]
      exact s.editBits_eq_carryAll _ _ _ _ _ id tokens fun _ _ => rfl
  | frameField id field value =>
      cases happly
      rw [changes, carryAll_singleton]
      exact s.editRecord_eq_carry _ _ _ _ _ id field value fun _ _ => rfl
  | pointer id mnemonic =>
      cases happly
      rw [changes, carryAll_singleton]
      exact s.editPointer_eq_carry id mnemonic
  | pointerCopy id source =>
      cases happly
      rw [changes, carryAll_singleton]
      exact s.copyPointer_eq_carry id source
  | weaponField id field value =>
      cases happly
      rw [changes, carryAll_singleton]
      exact s.editRecord_eq_carry _ _ _ _ _ id field value fun _ _ => rfl
  | weaponBits id tokens =>
      cases happly
      rw [changes]
      exact s.editBits_eq_carryAll _ _ _ _ _ id tokens fun _ _ => rfl
  | ammoField id field value =>
      cases happly
      rw [changes, carryAll_singleton]
      exact s.editRecord_eq_carry _ _ _ _ _ id field value fun _ _ => rfl
  | miscField id field value =>
      cases happly
      rw [changes, carryAll_singleton]
      unfold editMisc miscChange
      cases s.resolve MiscField.table "misc" id field value <;> rfl
  | soundField id field value =>
      cases happly
      rw [changes, carryAll_singleton]
      exact s.editRecord_eq_carry _ _ _ _ _ id field value fun _ _ => rfl
  | text old new =>
      cases happly
      rw [changes, carryAll_singleton]
      exact s.editText_eq_carry old new
  | phrase mnemonic new =>
      cases happly
      rw [changes, carryAll_singleton]
      unfold editPhrase phraseChange
      cases Baseline.mnemonicRef? mnemonic <;> rfl
  | unknown kind => cases happly

/-- What changes and changes of version keep holds of every session that can be reached. -/
theorem Reachable.of_changes {P : Session → Prop} (hnew : ∀ version, P (Session.new version))
    (hcarry : ∀ s c, P s → P (s.carry c)) (hversion : ∀ s version, P s → P (s.setVersion version))
    {s : Session} (hs : Reachable s) : P s := by
  have hall : ∀ (cs : List Change) (s : Session), P s → P (s.carryAll cs) := by
    intro cs
    induction cs with
    | nil => exact fun s hs => hs
    | cons c cs ih => exact fun s hs => ih _ (hcarry s c hs)
  induction hs with
  | new version => exact hnew version
  | apply hs happly ih => exact apply_eq_carryAll happly ▸ hall _ _ ih
  | setVersion hs version ih => exact hversion _ version ih
  | reset hs ih => exact hnew _

/-! ### Opening -/

/-- The record that a change of an unmodified thing starts from. -/
def thingBase (version id : Int) : Except RangeError Thing :=
  ((new version).checkId "thing" id Baseline.numThings).map fun _ =>
    (Baseline.thing? id).getD (Thing.neutral (Baseline.extraThingName id))

/-- The record that a change of an unmodified frame starts from. -/
def frameBase (version id : Int) : Except RangeError Frame :=
  ((new version).checkId "frame" id Baseline.numFrames).map fun _ => (Baseline.frame? id).getD (Frame.neutral id)

/-- The record that a change of an unmodified weapon starts from. -/
def weaponBase (id : Int) : Except RangeError Weapon :=
  match Baseline.weapon? id with
  | some w => .ok w
  | none => .error (.outside "weapon" id (Baseline.numWeapons - 1))

/-- The record that a change of an unmodified ammunition type starts from. -/
def ammoBase (id : Int) : Except RangeError Ammo :=
  match Baseline.ammo? id with
  | some a => .ok a
  | none => .error (.outside "ammo" id (Baseline.numAmmo - 1))

/-- The record that a change of an unmodified sound starts from. -/
def soundBase (version id : Int) : Except RangeError Sound :=
  ((new version).checkId "sound" id Baseline.numSounds).map fun _ =>
    (Baseline.sound? id).getD { name := Baseline.extraSoundName id, priority := 64 }

theorem openThing_eq (s : Session) (id : Int) : s.openThing id = opened (thingBase s.version) s.things id := by
  unfold openThing opened
  cases s.things.get? id <;> rfl

theorem openFrame_eq (s : Session) (id : Int) : s.openFrame id = opened (frameBase s.version) s.frames id := by
  unfold openFrame opened
  cases s.frames.get? id <;> rfl

theorem openSound_eq (s : Session) (id : Int) : s.openSound id = opened (soundBase s.version) s.sounds id := by
  unfold openSound opened
  cases s.sounds.get? id <;> rfl

theorem openWeapon_eq (s : Session) (id : Int) : s.openWeapon id = opened weaponBase s.weapons id := by
  unfold openWeapon opened weapon?
  cases s.weapons.get? id <;> rfl

theorem openAmmo_eq (s : Session) (id : Int) : s.openAmmo id = opened ammoBase s.ammo id := by
  unfold openAmmo opened ammo?
  cases s.ammo.get? id <;> rfl

/-! ### Touching -/

theorem touchThings_eq (s : Session) (ids : List Int) :
    s.touchThings ids = { s with things := rewriteAll (thingBase s.version) s.things (touches ids) } := by
  have hone : ∀ (s : Session) (id : Int),
      s.touchThing id = { s with things := rewrite (thingBase s.version) s.things ⟨id, fun r => r⟩ } := by
    intro s id
    unfold touchThing rewrite
    rw [openThing_eq]
    cases opened (thingBase s.version) s.things id <;> rfl
  unfold touchThings
  induction ids generalizing s with
  | nil => rfl
  | cons id ids ih =>
      rw [List.foldl_cons, hone, ih]
      rfl

theorem touchWeapons_eq (s : Session) (ids : List Int) :
    s.touchWeapons ids = { s with weapons := rewriteAll weaponBase s.weapons (touches ids) } := by
  have hone : ∀ (s : Session) (id : Int),
      s.touchWeapon id = { s with weapons := rewrite weaponBase s.weapons ⟨id, fun r => r⟩ } := by
    intro s id
    unfold touchWeapon rewrite
    rw [openWeapon_eq]
    cases opened weaponBase s.weapons id <;> rfl
  unfold touchWeapons
  induction ids generalizing s with
  | nil => rfl
  | cons id ids ih =>
      rw [List.foldl_cons, hone, ih]
      rfl

theorem touchUsers_eq (s : Session) (uses : List Int → Bool) :
    s.touchUsers uses =
      { s with
        things := rewriteAll (thingBase s.version) s.things (touches (s.thingsWith uses))
        weapons := rewriteAll weaponBase s.weapons (touches (s.weaponsWith uses)) } := by
  unfold touchUsers
  rw [touchThings_eq, touchWeapons_eq]

/-- What a global value writes to things. -/
def miscThingWrites (s : Session) (field : MiscField) (value : Int) : List (Write Thing) :=
  touches (miscThings field) ++
    match field with
    | .initialHealth => [⟨player, fun t => { t with health := value }⟩]
    | .infight => if value = Misc.infightOn then touches s.monsters else []
    | _ => []

/-- What a global value writes to weapons. -/
def miscWeaponWrites (field : MiscField) (value : Int) : List (Write Weapon) :=
  match field with
  | .bfgCells => [⟨bfg, fun w => { w with perShot := value }⟩]
  | _ => []

theorem touchMiscUsers_eq (s : Session) (field : MiscField) (value : Int) :
    s.touchMiscUsers field value =
      { s with
        things := rewriteAll (thingBase s.version) s.things (s.miscThingWrites field value)
        weapons := rewriteAll weaponBase s.weapons (miscWeaponWrites field value) } := by
  unfold touchMiscUsers miscThingWrites
  dsimp only
  rw [touchThings_eq, rewriteAll_append]
  cases field with
  | initialHealth =>
      dsimp only
      rw [openThing_eq]
      change _ = { s with things := rewrite _ _ _ }
      unfold rewrite
      dsimp only
      cases opened (thingBase s.version) (rewriteAll (thingBase s.version) s.things _) player <;> rfl
  | bfgCells =>
      dsimp only
      rw [openWeapon_eq]
      change _ = { s with weapons := rewrite _ _ _ }
      unfold rewrite
      dsimp only
      cases opened weaponBase s.weapons bfg <;> rfl
  | infight =>
      dsimp only
      split
      · rw [touchThings_eq]
        rfl
      · rfl
  | _ => rfl

/-! ### The effect of a change -/

/-- What a change writes to things, touched ones included. -/
@[simp] def thingWrites (s : Session) : Change → List (Write Thing)
  | .thing id _ alter => [⟨id, alter⟩]
  | .frame id _ alter =>
    match s.openFrame id with
    | .ok f => touches ((s.putFrame id (alter f)).thingsWith fun ids => ids.contains id)
    | .error _ => []
  | .ammo id _ _ =>
    match s.openAmmo id with
    | .ok _ => touches (ammoUsers id)
    | .error _ => []
  | .misc field value => s.miscThingWrites field value
  | .sprite id _ => touches (s.thingsWith fun ids => ids.any fun i => (s.frame? i).any fun f => f.sprite == id)
  | _ => []

/-- What a change writes to weapons, touched ones included. -/
@[simp] def weaponWrites (s : Session) : Change → List (Write Weapon)
  | .weapon id _ alter => [⟨id, alter⟩]
  | .frame id _ alter =>
    match s.openFrame id with
    | .ok f => touches ((s.putFrame id (alter f)).weaponsWith fun ids => ids.contains id)
    | .error _ => []
  | .misc field value => miscWeaponWrites field value
  | .sprite id _ => touches (s.weaponsWith fun ids => ids.any fun i => (s.frame? i).any fun f => f.sprite == id)
  | _ => []

/-- The warning of a record that could not be opened. -/
@[simp] def refusal {ρ : Type} (entity : String) (id : Int) (field : String) : Except RangeError ρ → List Warning
  | .error e => [{ kind := .outOfRange, entity, id, field, message := e.message }]
  | .ok _ => []

/-- The warnings that a change leaves. -/
@[simp] def complaints (s : Session) : Change → List Warning
  | .warn w => [w]
  | .thing id field _ => refusal "thing" id field (s.openThing id)
  | .frame id field _ => refusal "frame" id field (s.openFrame id)
  | .weapon id field _ => refusal "weapon" id field (s.openWeapon id)
  | .ammo id field _ => refusal "ammo" id field (s.openAmmo id)
  | .sound id field _ => refusal "sound" id field (s.openSound id)
  | _ => []

end Session

namespace Change

/-- What a change writes to frames. -/
@[simp] def frameWrites : Change → List (Write Frame)
  | .frame id _ alter => [⟨id, alter⟩]
  | _ => []

/-- What a change writes to ammunition. -/
@[simp] def ammoWrites : Change → List (Write Ammo)
  | .ammo id _ alter => [⟨id, alter⟩]
  | _ => []

/-- What a change writes to sounds. -/
@[simp] def soundWrites : Change → List (Write Sound)
  | .sound id _ alter => [⟨id, alter⟩]
  | _ => []

/-- What a change makes of the global values. -/
@[simp] def onMisc (m : Misc) : Change → Misc
  | .misc field value => MiscField.table.store field value m
  | _ => m

/-- Whether a change writes a global value. -/
@[simp] def isMisc : Change → Bool
  | .misc .. => true
  | _ => false

/-- What a change makes of the names of sprites. -/
@[simp] def onSprites (m : SortedMap Int String) : Change → SortedMap Int String
  | .sprite id name => m.insert id name
  | _ => m

/-- What a change makes of the messages. -/
@[simp] def onTexts (m : SortedMap String String) : Change → SortedMap String String
  | .text ref value => m.insert ref value
  | _ => m

end Change

namespace Session

/-- The whole effect of a change: overlays are rewritten, warnings are added, and nothing else happens. -/
theorem carry_eq (s : Session) (c : Change) :
    s.carry c =
      { s with
        things := rewriteAll (thingBase s.version) s.things (s.thingWrites c)
        frames := rewriteAll (frameBase s.version) s.frames c.frameWrites
        weapons := rewriteAll weaponBase s.weapons (s.weaponWrites c)
        ammo := rewriteAll ammoBase s.ammo c.ammoWrites
        sounds := rewriteAll (soundBase s.version) s.sounds c.soundWrites
        sprites := c.onSprites s.sprites
        texts := c.onTexts s.texts
        misc := c.onMisc s.misc
        miscModified := c.isMisc || s.miscModified
        warnings := s.warnings ++ s.complaints c } := by
  cases c with
  | warn w => simp [carry, warn]
  | thing id field alter =>
      cases hopen : s.openThing id with
      | error e =>
          have hkept := rewriteAll_one_of_error alter (s.openThing_eq id ▸ hopen)
          simp [carry, onOpened, refuse, warn, hopen, hkept]
      | ok t =>
          have hput := rewriteAll_one_of_ok alter (s.openThing_eq id ▸ hopen)
          simp [carry, onOpened, putThing, hopen, hput]
  | frame id field alter =>
      cases hopen : s.openFrame id with
      | error e =>
          have hkept := rewriteAll_one_of_error alter (s.openFrame_eq id ▸ hopen)
          simp [carry, onOpened, refuse, warn, hopen, hkept]
      | ok f =>
          have hput := rewriteAll_one_of_ok alter (s.openFrame_eq id ▸ hopen)
          simp [carry, onOpened, putFrame, touchFrameUsers, touchUsers_eq, hopen, hput]
  | weapon id field alter =>
      cases hopen : s.openWeapon id with
      | error e =>
          have hkept := rewriteAll_one_of_error alter (s.openWeapon_eq id ▸ hopen)
          simp [carry, onOpened, refuse, warn, hopen, hkept]
      | ok w =>
          have hput := rewriteAll_one_of_ok alter (s.openWeapon_eq id ▸ hopen)
          simp [carry, onOpened, putWeapon, hopen, hput]
  | ammo id field alter =>
      cases hopen : s.openAmmo id with
      | error e =>
          have hkept := rewriteAll_one_of_error alter (s.openAmmo_eq id ▸ hopen)
          simp [carry, onOpened, refuse, warn, hopen, hkept]
      | ok a =>
          have hput := rewriteAll_one_of_ok alter (s.openAmmo_eq id ▸ hopen)
          simp [carry, onOpened, putAmmo, touchThings_eq, hopen, hput]
  | misc field value =>
      have hquiet : s.warnings ++ s.complaints (.misc field value) = s.warnings := List.append_nil _
      rw [carry, touchMiscUsers_eq, hquiet]
      rfl
  | sound id field alter =>
      cases hopen : s.openSound id with
      | error e =>
          have hkept := rewriteAll_one_of_error alter (s.openSound_eq id ▸ hopen)
          simp [carry, onOpened, refuse, warn, hopen, hkept]
      | ok snd =>
          have hput := rewriteAll_one_of_ok alter (s.openSound_eq id ▸ hopen)
          simp [carry, onOpened, putSound, hopen, hput]
  | sprite id name =>
      have hquiet : s.warnings ++ s.complaints (.sprite id name) = s.warnings := List.append_nil _
      rw [carry, touchSpriteUsers, touchUsers_eq, hquiet]
      rfl
  | text ref value => simp [carry, setText]

theorem version_carry (s : Session) (c : Change) : (s.carry c).version = s.version := by rw [carry_eq]

theorem version_carryAll (s : Session) (cs : List Change) : (s.carryAll cs).version = s.version := by
  unfold carryAll
  induction cs generalizing s with
  | nil => rfl
  | cons c cs ih => rw [List.foldl_cons, ih, version_carry]

theorem things_carry (s : Session) (c : Change) :
    (s.carry c).things = rewriteAll (thingBase s.version) s.things (s.thingWrites c) := by rw [carry_eq]

theorem frames_carry (s : Session) (c : Change) :
    (s.carry c).frames = rewriteAll (frameBase s.version) s.frames c.frameWrites := by rw [carry_eq]

theorem weapons_carry (s : Session) (c : Change) :
    (s.carry c).weapons = rewriteAll weaponBase s.weapons (s.weaponWrites c) := by rw [carry_eq]

theorem ammo_carry (s : Session) (c : Change) : (s.carry c).ammo = rewriteAll ammoBase s.ammo c.ammoWrites := by
  rw [carry_eq]

theorem sounds_carry (s : Session) (c : Change) :
    (s.carry c).sounds = rewriteAll (soundBase s.version) s.sounds c.soundWrites := by rw [carry_eq]

theorem sprites_carry (s : Session) (c : Change) : (s.carry c).sprites = c.onSprites s.sprites := by rw [carry_eq]

theorem texts_carry (s : Session) (c : Change) : (s.carry c).texts = c.onTexts s.texts := by rw [carry_eq]

theorem misc_carry (s : Session) (c : Change) : (s.carry c).misc = c.onMisc s.misc := by rw [carry_eq]

theorem miscModified_carry (s : Session) (c : Change) : (s.carry c).miscModified = (c.isMisc || s.miscModified) := by
  rw [carry_eq]

theorem warnings_carry (s : Session) (c : Change) : (s.carry c).warnings = s.warnings ++ s.complaints c := by
  rw [carry_eq]

/-- Writing a field of a frame of the unpatched game is carrying out one change. -/
theorem patched_frameField (version id : Int) (field : String) (value : Int) :
    patched version [.frameField id field value] =
      (new version).carry ((new version).fieldChange FrameField.table "frame" id field value (.frame id)) := by
  have happly : (new version).apply (.frameField id field value) =
      .ok (patched version [.frameField id field value]) := rfl
  exact apply_eq_carryAll happly

end Session
end DoomPatch
