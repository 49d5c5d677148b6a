import DoomPatch.Proofs.Session.Commute
import DoomPatch.Proofs.Session.Refusal

/-!
# Applying an edit again

An edit that is applied twice has the effect of applying it once.  The second time it finds other records than the
first time, and looks for the users of what it writes in another session; but what it stores is there already, and
whoever uses it now was modified by the first application.

* `FieldTable.Overwrites` — of two numbers written to a field the second stays.
* `Change.Settles` — a change that has no effect on what it made itself.
* `mem_written_thingWrites_again`, `mem_written_weaponWrites_again` — a change writes nobody whom it did not write the
  first time.
* `carry_again` — carrying out a change again repeats its warnings and changes nothing else.
* `changes_again` — an edit comes down to the same changes again.
* `apply_again` — the same of edits.
-/

namespace DoomPatch

open Overlay

/-! ### Fields -/

/-- Of two numbers written to a field the second stays. -/
def FieldTable.Overwrites {φ ρ : Type} (table : FieldTable φ ρ) : Prop :=
  ∀ f v w r, table.set f w (table.set f v r) = table.set f w r

theorem FieldTable.Overwrites.store_store {φ ρ : Type} {table : FieldTable φ ρ} (hover : table.Overwrites) (f : φ)
    (v : Int) (r : ρ) : table.store f v (table.store f v r) = table.store f v r := by
  obtain ⟨n, hstore⟩ := table.exists_store_eq_set f v
  rw [hstore, hstore, hover]

theorem ThingField.overwrites : table.Overwrites := by
  intro f v w r
  cases f <;> rfl

theorem FrameField.overwrites : table.Overwrites := by
  intro f v w r
  cases f with
  | arg n =>
      change ({ r with args := (r.args.set n v).set n w } : Frame) = { r with args := r.args.set n w }
      rw [Vector.set_set]
  | _ => rfl

theorem WeaponField.overwrites : table.Overwrites := by
  intro f v w r
  cases f <;> rfl

theorem AmmoField.overwrites : table.Overwrites := by
  intro f v w r
  cases f <;> rfl

theorem SoundField.overwrites : table.Overwrites := by
  intro f v w r
  cases f <;> rfl

theorem MiscField.overwrites : table.Overwrites := by
  intro f v w r
  cases f <;> rfl

/-! ### Changes -/

theorem SortedMap.insert_insert_self {κ α : Type} [Ord κ] [DecidableEq κ] [Std.TransOrd κ] [Std.LawfulEqOrd κ]
    (m : SortedMap κ α) (k : κ) (a : α) : (m.insert k a).insert k a = m.insert k a := by
  apply SortedMap.ext_get?
  intro i
  rw [SortedMap.get?_insert, SortedMap.get?_insert]
  split <;> rfl

/-- Writes that have no effect on what they made themselves. -/
def Overlay.Steady {ρ : Type} (ws : List (Write ρ)) : Prop :=
  ∀ id r, composed ws id (composed ws id r) = composed ws id r

theorem Overlay.Steady.nil {ρ : Type} : Steady ([] : List (Write ρ)) := fun _ _ => rfl

theorem Overlay.Steady.one {ρ : Type} {alter : ρ → ρ} (halter : ∀ r, alter (alter r) = alter r) (id : Int) :
    Steady [⟨id, alter⟩] := by
  intro i r
  change (if id = i then alter (if id = i then alter r else r) else if id = i then alter r else r) = _
  by_cases heq : id = i
  · simp [heq, halter]
  · simp [heq]

namespace Change

/-- A change that has no effect on what it made itself. -/
structure Settles (c : Change) : Prop where
  things : Steady c.thingAlters
  frames : Steady c.frameWrites
  weapons : Steady c.weaponAlters
  ammo : Steady c.ammoWrites
  sounds : Steady c.soundWrites

theorem settles_warn (w : Warning) : (Change.warn w).Settles := ⟨.nil, .nil, .nil, .nil, .nil⟩

theorem settles_thing {alter : Thing → Thing} (halter : ∀ r, alter (alter r) = alter r) (id : Int) (field : String) :
    (Change.thing id field alter).Settles := ⟨.one halter id, .nil, .nil, .nil, .nil⟩

theorem settles_frame {alter : Frame → Frame} (halter : ∀ r, alter (alter r) = alter r) (id : Int) (field : String) :
    (Change.frame id field alter).Settles := ⟨.nil, .one halter id, .nil, .nil, .nil⟩

theorem settles_weapon {alter : Weapon → Weapon} (halter : ∀ r, alter (alter r) = alter r) (id : Int)
    (field : String) : (Change.weapon id field alter).Settles := ⟨.nil, .nil, .one halter id, .nil, .nil⟩

theorem settles_ammo {alter : Ammo → Ammo} (halter : ∀ r, alter (alter r) = alter r) (id : Int) (field : String) :
    (Change.ammo id field alter).Settles := ⟨.nil, .nil, .nil, .one halter id, .nil⟩

theorem settles_sound {alter : Sound → Sound} (halter : ∀ r, alter (alter r) = alter r) (id : Int) (field : String) :
    (Change.sound id field alter).Settles := ⟨.nil, .nil, .nil, .nil, .one halter id⟩

theorem settles_sprite (id : Int) (name : String) : (Change.sprite id name).Settles := ⟨.nil, .nil, .nil, .nil, .nil⟩

theorem settles_text (ref value : String) : (Change.text ref value).Settles := ⟨.nil, .nil, .nil, .nil, .nil⟩

/-- Two global values are kept in a record too. -/
theorem settles_misc (field : MiscField) (value : Int) : (Change.misc field value).Settles where
  things := by
    cases field with
    | initialHealth =>
        refine .one ?_ _
        exact fun _ => rfl
    | _ => exact .nil
  frames := .nil
  weapons := by
    cases field with
    | bfgCells =>
        refine .one ?_ _
        exact fun _ => rfl
    | _ => exact .nil
  ammo := .nil
  sounds := .nil

/-- Warnings, and after them at most one change, which settles. -/
def Single (cs : List Change) : Prop :=
  ∃ (ws : List Warning) (change? : Option Change), cs = ws.map .warn ++ change?.toList ∧ ∀ c ∈ change?, c.Settles

theorem onMisc_onMisc (c : Change) (m : Misc) : c.onMisc (c.onMisc m) = c.onMisc m := by
  cases c with
  | misc field value => exact MiscField.overwrites.store_store field value m
  | _ => rfl

theorem onSprites_onSprites (c : Change) (m : SortedMap Int String) : c.onSprites (c.onSprites m) = c.onSprites m := by
  cases c with
  | sprite id name => exact SortedMap.insert_insert_self m id name
  | _ => rfl

theorem onTexts_onTexts (c : Change) (m : SortedMap String String) : c.onTexts (c.onTexts m) = c.onTexts m := by
  cases c with
  | text ref value => exact SortedMap.insert_insert_self m ref value
  | _ => rfl

end Change

namespace Session

variable {s s' : Session} {c : Change} {id : Int} {e : Edit}

/-! ### Changes carried out again -/

/-- A change writes no thing that it did not write the first time. -/
theorem mem_written_thingWrites_again (hid : id ∈ written ((s.carry c).thingWrites c)) :
    id ∈ written (s.thingWrites c) := by
  cases c with
  | sprite sprite name =>
      rw [thingWrites, written_touches, mem_thingsWith_sprite] at hid ⊢
      rw [carry, touchSpriteUsers, thingWears_touchUsers] at hid
      exact hid
  | text ref value => exact hid
  | _ =>
      refine Decidable.byContradiction fun hnew => ?_
      exact hnew ((mem_written_thingWrites_carry rfl hnew).1 hid)

/-- A change writes no weapon that it did not write the first time. -/
theorem mem_written_weaponWrites_again (hid : id ∈ written ((s.carry c).weaponWrites c)) :
    id ∈ written (s.weaponWrites c) := by
  cases c with
  | sprite sprite name =>
      rw [weaponWrites, written_touches, mem_weaponsWith_sprite] at hid ⊢
      rw [carry, touchSpriteUsers, weaponWears_touchUsers] at hid
      exact hid
  | text ref value => exact hid
  | _ =>
      refine Decidable.byContradiction fun hnew => ?_
      exact hnew ((mem_written_weaponWrites_carry rfl hnew).1 hid)

/-- Writes to numbers that were written before, which make nothing new of their records, have no effect. -/
theorem rewriteAll_again {ρ : Type} {base : Int → Except RangeError ρ} {m : SortedMap Int ρ}
    {first second : List (Write ρ)} (hwritten : ∀ id, id ∈ written second → id ∈ written first)
    (hcomposed : ∀ id r, composed second id (composed first id r) = composed first id r) :
    rewriteAll base (rewriteAll base m first) second = rewriteAll base m first := by
  rw [← rewriteAll_append]
  refine rewriteAll_eq ?_ ?_
  · intro id
    rw [written_append, List.mem_append]
    exact ⟨fun h => h.elim (fun h => h) (hwritten id), .inl⟩
  · intro id r
    rw [composed_append, hcomposed]

/-- Carrying out a change again repeats its warnings and changes nothing else. -/
theorem carry_again (hc : c.Settles) (s : Session) :
    (s.carry c).carry c = { s.carry c with warnings := (s.carry c).warnings ++ s.complaints c } := by
  have hthings : ((s.carry c).carry c).things = (s.carry c).things := by
    rw [things_carry (s.carry c), version_carry, things_carry]
    refine rewriteAll_again (fun id => mem_written_thingWrites_again) ?_
    intro id r
    simp only [composed_thingWrites, hc.things id r]
  have hweapons : ((s.carry c).carry c).weapons = (s.carry c).weapons := by
    rw [weapons_carry (s.carry c), weapons_carry]
    refine rewriteAll_again (fun id => mem_written_weaponWrites_again) ?_
    intro id r
    simp only [composed_weaponWrites, hc.weapons id r]
  have hframes : ((s.carry c).carry c).frames = (s.carry c).frames := by
    simp only [frames_carry, version_carry]
    exact rewriteAll_again (fun _ h => h) hc.frames
  have hammo : ((s.carry c).carry c).ammo = (s.carry c).ammo := by
    simp only [ammo_carry]
    exact rewriteAll_again (fun _ h => h) hc.ammo
  have hsounds : ((s.carry c).carry c).sounds = (s.carry c).sounds := by
    simp only [sounds_carry, version_carry]
    exact rewriteAll_again (fun _ h => h) hc.sounds
  have hsprites : ((s.carry c).carry c).sprites = (s.carry c).sprites := by
    simp only [sprites_carry, c.onSprites_onSprites]
  have htexts : ((s.carry c).carry c).texts = (s.carry c).texts := by
    simp only [texts_carry, c.onTexts_onTexts]
  have hmisc : ((s.carry c).carry c).misc = (s.carry c).misc := by
    simp only [misc_carry, c.onMisc_onMisc]
  have hflag : ((s.carry c).carry c).miscModified = (s.carry c).miscModified := by
    simp only [miscModified_carry, Bool.or_self_left]
  have hwarnings : ((s.carry c).carry c).warnings = (s.carry c).warnings ++ s.complaints c := by
    rw [warnings_carry, complaints_carry]
  rw [← hwarnings]
  exact eq_of_fields (version_carry _ c) hthings hframes hweapons hammo hsounds hsprites htexts hmisc hflag

/-- What a change does depends on no warning. -/
theorem carry_warned (s : Session) (c : Change) (ws : List Warning) :
    ({ s with warnings := ws } : Session).carry c = { s.carry c with warnings := ws ++ s.complaints c } := by
  rw [carry_eq, carry_eq]
  cases c <;> rfl

/-- Warnings and at most one change, carried out again, repeat their warnings and change nothing else. -/
theorem carryAll_again {ws : List Warning} {change? : Option Change} (hsettles : ∀ c ∈ change?, c.Settles)
    (s : Session) :
    ∃ more, (s.carryAll (ws.map .warn ++ change?.toList)).warnings = s.warnings ++ more ∧
      (s.carryAll (ws.map .warn ++ change?.toList)).carryAll (ws.map .warn ++ change?.toList) =
        { s.carryAll (ws.map .warn ++ change?.toList) with
          warnings := (s.carryAll (ws.map .warn ++ change?.toList)).warnings ++ more } := by
  cases change? with
  | none =>
      rw [Option.toList_none, List.append_nil]
      simp only [carryAll_warn]
      exact ⟨ws, rfl, rfl⟩
  | some c =>
      have hone : ∀ u : Session, u.carryAll (ws.map .warn ++ (some c).toList) =
          { u.carry c with warnings := u.warnings ++ (ws ++ u.complaints c) } := by
        intro u
        rw [carryAll_append, carryAll_warn, Option.toList_some, carryAll_singleton, carry_warned, List.append_assoc]
      have hc := hsettles c rfl
      refine ⟨ws ++ s.complaints c, by rw [hone], ?_⟩
      rw [hone s, hone, carry_warned, carry_again hc]
      have hcomplaints : ∀ l, ({ s.carry c with warnings := l } : Session).complaints c = s.complaints c := by
        intro l
        rw [← s.complaints_carry c c]
        cases c <;> rfl
      simp only [hcomplaints, List.append_assoc]

/-! ### The changes of edits -/

theorem fieldChange_settles {φ ρ : Type} {table : FieldTable φ ρ} {entity field : String} {value : Int}
    {change : String → (ρ → ρ) → Change} (hchange : ∀ name f, (change name (table.store f value)).Settles) :
    (s.fieldChange table entity id field value change).Settles := by
  unfold fieldChange
  cases s.resolve table entity id field value with
  | error w => exact Change.settles_warn w
  | ok f => exact hchange _ f

theorem actionChange_settles (id : Int) (action : String) : (actionChange id action).Settles := by
  refine Change.settles_frame ?_ id _
  exact fun _ => rfl

theorem pointerChange_settles (id : Int) (mnemonic : String) : (pointerChange id mnemonic).Settles := by
  unfold pointerChange
  split
  · exact actionChange_settles id _
  · cases CodePointer.lookup? mnemonic with
    | some p => exact actionChange_settles id _
    | none => exact Change.settles_warn _

theorem copyChange_settles (s : Session) (id source : Int) : (s.copyChange id source).Settles := by
  unfold copyChange
  cases s.frame? source with
  | some f => exact actionChange_settles id _
  | none => exact Change.settles_warn _

theorem miscChange_settles (s : Session) (id : Int) (field : String) (value : Int) :
    (s.miscChange id field value).Settles := by
  unfold miscChange
  cases s.resolve MiscField.table "misc" id field value with
  | error w => exact Change.settles_warn w
  | ok f => exact Change.settles_misc f value

theorem textChange_settles (old new : String) : (textChange old new).Settles := by
  unfold textChange
  cases renamedSprite? old new with
  | some sprite => exact Change.settles_sprite sprite _
  | none =>
      cases renamedSound? old new with
      | some sound =>
          refine Change.settles_sound ?_ sound _
          exact fun _ => rfl
      | none =>
          cases Baseline.phraseRef? old with
          | some ref => exact Change.settles_text ref new
          | none => exact Change.settles_warn _

theorem phraseChange_settles (mnemonic new : String) : (phraseChange mnemonic new).Settles := by
  unfold phraseChange
  cases Baseline.mnemonicRef? mnemonic with
  | some ref => exact Change.settles_text ref new
  | none => exact Change.settles_warn _

theorem single_of_settles (hc : c.Settles) : Change.Single [c] := ⟨[], some c, rfl, by simpa using hc⟩

theorem bitsChanges_single (v : Vocabulary) (entity : String) (id : Int) (tokens : String) {change : UInt32 → Change}
    (hchange : ∀ word, (change word).Settles) : Change.Single (bitsChanges v entity id tokens change) := by
  unfold bitsChanges
  obtain ⟨word, unknown⟩ := FlagExpression.parse v tokens
  dsimp only
  by_cases hblank : word = 0 ∧ unknown ≠ []
  · rw [if_pos hblank]
    exact ⟨_, none, rfl, by simp⟩
  · rw [if_neg hblank]
    exact ⟨_, some (change word), rfl, by simpa using hchange word⟩

/-- Every edit comes down to warnings and at most one change, which settles. -/
theorem changes_single (s : Session) (e : Edit) : Change.Single (s.changes e) := by
  cases e with
  | thingField id field value =>
      refine single_of_settles (fieldChange_settles fun name f => ?_)
      exact Change.settles_thing (ThingField.overwrites.store_store f value) id name
  | thingBits id tokens | thingExtendedBits id tokens =>
      rw [changes]
      refine bitsChanges_single _ _ id tokens fun word => Change.settles_thing ?_ id _
      exact fun _ => rfl
  | frameField id field value =>
      refine single_of_settles (fieldChange_settles fun name f => ?_)
      exact Change.settles_frame (FrameField.overwrites.store_store f value) id name
  | pointer id mnemonic => exact single_of_settles (pointerChange_settles id mnemonic)
  | pointerCopy id source => exact single_of_settles (s.copyChange_settles id source)
  | weaponField id field value =>
      refine single_of_settles (fieldChange_settles fun name f => ?_)
      exact Change.settles_weapon (WeaponField.overwrites.store_store f value) id name
  | weaponBits id tokens =>
      rw [changes]
      refine bitsChanges_single _ _ id tokens fun word => Change.settles_weapon ?_ id _
      exact fun _ => rfl
  | ammoField id field value =>
      refine single_of_settles (fieldChange_settles fun name f => ?_)
      exact Change.settles_ammo (AmmoField.overwrites.store_store f value) id name
  | miscField id field value => exact single_of_settles (s.miscChange_settles id field value)
  | soundField id field value =>
      refine single_of_settles (fieldChange_settles fun name f => ?_)
      exact Change.settles_sound (SoundField.overwrites.store_store f value) id name
  | text old new => exact single_of_settles (textChange_settles old new)
  | phrase mnemonic new => exact single_of_settles (phraseChange_settles mnemonic new)
  | unknown kind => exact ⟨[], none, rfl, by simp⟩

/-! ### Edits applied again -/

/-- Copying a code pointer depends on the action of the source alone. -/
theorem copyChange_congr {source : Int}
    (haction : (s'.frame? source).map Frame.action = (s.frame? source).map Frame.action) :
    s'.copyChange id source = s.copyChange id source := by
  unfold copyChange
  cases hsource' : s'.frame? source <;> cases hsource : s.frame? source <;> simp_all

/-- A frame that is given its own action keeps it, whether or not it can be changed. -/
theorem action_carry_self {id : Int} {f : Frame} (hframe : s.frame? id = some f) :
    ((s.carry (actionChange id f.action)).frame? id).map Frame.action = some f.action := by
  have hframes : (s.carry (actionChange id f.action)).frames =
      rewriteAll (frameBase s.version) s.frames [⟨id, fun g => { g with action := f.action }⟩] := frames_carry s _
  unfold frame? at hframe ⊢
  cases hopen : s.openFrame id with
  | error err =>
      rw [hframes, rewriteAll_one_of_error _ (s.openFrame_eq id ▸ hopen), hframe]
      rfl
  | ok g =>
      rw [hframes, rewriteAll_one_of_ok _ (s.openFrame_eq id ▸ hopen), SortedMap.get?_insert_self]
      rfl

/-- A frame that is copied from keeps its action, even if it is copied to itself. -/
theorem copyChange_again (s : Session) (id source : Int) :
    (s.carry (s.copyChange id source)).copyChange id source = s.copyChange id source := by
  apply copyChange_congr
  cases hsource : s.frame? source with
  | none =>
      unfold copyChange
      rw [hsource]
      exact congrArg (Option.map Frame.action) hsource
  | some f =>
      have hcopy : s.copyChange id source = actionChange id f.action := by
        unfold copyChange
        rw [hsource]
      rw [hcopy]
      by_cases heq : source = id
      · subst heq
        exact action_carry_self hsource
      · have hother : source ∉ written (actionChange id f.action).frameWrites := by
          simpa [actionChange] using heq
        rw [frame?_carry hother, hsource]

/-- An edit comes down to the same changes again. -/
theorem changes_again (s : Session) (e : Edit) : (s.carryAll (s.changes e)).changes e = s.changes e := by
  cases e with
  | thingField id field value | frameField id field value | weaponField id field value | ammoField id field value
  | soundField id field value | miscField id field value => exact changes_congr (version_carryAll s _) rfl
  | pointerCopy id source => exact congrArg (fun c => [c]) (s.copyChange_again id source)
  | _ => rfl

/-- Applying an edit again repeats its warnings and changes nothing else. -/
theorem apply_again (he : ∀ kind, e ≠ .unknown kind) (s : Session) :
    ∃ s₁ s₂ ws, s.apply e = .ok s₁ ∧ s₁.apply e = .ok s₂ ∧ s₁.warnings = s.warnings ++ ws ∧
      s₂ = { s₁ with warnings := s₁.warnings ++ ws } := by
  obtain ⟨s₁, hfirst⟩ := exists_apply he s
  obtain ⟨s₂, hsecond⟩ := exists_apply he s₁
  obtain ⟨ws, change?, hchanges, hsettles⟩ := s.changes_single e
  obtain ⟨more, hwarnings, hagain⟩ := carryAll_again hsettles s
  have hs₁ : s₁ = s.carryAll (s.changes e) := apply_eq_carryAll hfirst
  have hs₂ : s₂ = s₁.carryAll (s.changes e) := by
    rw [apply_eq_carryAll hsecond, hs₁, changes_again]
  rw [← hchanges, ← hs₁] at hwarnings hagain
  exact ⟨s₁, s₂, more, hfirst, hsecond, hwarnings, hs₂.trans hagain⟩

/-- A frame of the standing trooper is redirected, which changes who uses the frames that followed it. -/
theorem apply_again_redirected :
    ∃ s₁ s₂ ws, (new 21).apply (.frameField 174 "Next frame" 207) = .ok s₁ ∧
      s₁.apply (.frameField 174 "Next frame" 207) = .ok s₂ ∧ s₁.warnings = (new 21).warnings ++ ws ∧
      s₂ = { s₁ with warnings := s₁.warnings ++ ws } :=
  apply_again (fun _ h => by cases h) (new 21)

end Session
end DoomPatch
