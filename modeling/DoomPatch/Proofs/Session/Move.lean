import DoomPatch.Proofs.Text.Bare
import DoomPatch.Session.Apply

/-!
# Moves of a session

However an edit is spelled, it comes down to a few moves: a warning, or a new record together with the marks it
leaves on the entities that depend on it.  What holds of every session that can be reached is shown once per
move.

* `Move` — what a single move does, with what is known when it is made.
* `apply_moves` — carrying out an edit is a sequence of moves.
* `Reachable` — the sessions that edits, changes of version and resets lead to from the unpatched game.
* `Reachable.invariant` — what holds at first and is kept by moves and changes of version holds of all of them.
* `patched`, `reachable_patched` — lists of edits lead to such sessions, whether they run to the end or not.
-/

namespace DoomPatch

/-- One record is another with an acceptable number stored in one of its fields. -/
def FieldTable.Stores {φ ρ : Type} (table : FieldTable φ ρ) (lim : Limits) (r r' : ρ) : Prop :=
  ∃ f v, table.validate f v lim = .ok () ∧ r' = table.store f v r

/-- A field function that keeps part of a record keeps it when numbers are stored. -/
theorem FieldTable.Stores.keeps {φ ρ α : Type} {table : FieldTable φ ρ} {lim : Limits} {r r' : ρ}
    (hstores : table.Stores lim r r') (part : ρ → α) (hset : ∀ f v r, part (table.set f v r) = part r) :
    part r' = part r := by
  obtain ⟨f, v, -, rfl⟩ := hstores
  unfold FieldTable.store
  split <;> exact hset _ _ _

namespace Session

/-- How an edit alters the record of a thing. -/
inductive AltersThing (lim : Limits) (t : Thing) : Thing → Prop
  | field {t' : Thing} (hstores : ThingField.table.Stores lim t t') : AltersThing lim t t'
  | flags (word : UInt32) : AltersThing lim t { t with flags := word }
  | extended (word : UInt32) : AltersThing lim t { t with mbf21 := word }

/-- How an edit alters the record of a frame. -/
inductive AltersFrame (lim : Limits) (f : Frame) : Frame → Prop
  | field {f' : Frame} (hstores : FrameField.table.Stores lim f f') : AltersFrame lim f f'
  | action (action : String) : AltersFrame lim f { f with action }

/-- How an edit alters the record of a weapon. -/
inductive AltersWeapon (lim : Limits) (w : Weapon) : Weapon → Prop
  | field {w' : Weapon} (hstores : WeaponField.table.Stores lim w w') : AltersWeapon lim w w'
  | flags (word : UInt32) : AltersWeapon lim w { w with flags := word }

/-- How an edit alters the record of a sound. -/
inductive AltersSound (lim : Limits) (snd : Sound) : Sound → Prop
  | field {snd' : Sound} (hstores : SoundField.table.Stores lim snd snd') : AltersSound lim snd snd'
  | name (name : String) : AltersSound lim snd { snd with name }

/-- A single move: a warning, or a new record with its marks. -/
inductive Move (s : Session) : Session → Prop
  | warn (w : Warning) : Move s (s.warn w)
  | thing (id : Int) (t t' : Thing) (hopen : s.openThing id = .ok t) (halters : AltersThing s.limits t t') :
      Move s (s.putThing id t')
  | frame (id : Int) (f f' : Frame) (hopen : s.openFrame id = .ok f) (halters : AltersFrame s.limits f f') :
      Move s ((s.putFrame id f').touchFrameUsers id)
  | weapon (id : Int) (w w' : Weapon) (hopen : s.openWeapon id = .ok w) (halters : AltersWeapon s.limits w w') :
      Move s (s.putWeapon id w')
  | ammo (id : Int) (a a' : Ammo) (hopen : s.openAmmo id = .ok a) (hstores : AmmoField.table.Stores s.limits a a') :
      Move s ((s.putAmmo id a').touchThings (ammoUsers id))
  | misc (f : MiscField) (v : Int) (hvalid : MiscField.table.validate f v s.limits = .ok ()) :
      Move s (({ s with misc := MiscField.table.store f v s.misc, miscModified := true } : Session).touchMiscUsers
        f v)
  | sound (id : Int) (snd snd' : Sound) (hopen : s.openSound id = .ok snd)
      (halters : AltersSound s.limits snd snd') : Move s (s.putSound id snd')
  | sprite (id : Int) (name : String) (hshort : name.toList.length ≤ 4) :
      Move s (({ s with sprites := s.sprites.insert id name } : Session).touchSpriteUsers id)
  | text (ref value : String) (href : ref ∈ Baseline.phrases.map (·.ref)) : Move s (s.setText ref value)

/-- A sequence of moves. -/
inductive Moves (s : Session) : Session → Prop
  | refl : Moves s s
  | tail {s' s'' : Session} (hmoves : Moves s s') (hmove : Move s' s'') : Moves s s''

theorem Move.moves {s s' : Session} (hmove : Move s s') : Moves s s' := .tail .refl hmove

/-- What every move keeps, a sequence of moves keeps. -/
theorem Moves.keeps {P : Session → Prop} (hstep : ∀ s s', P s → Move s s' → P s') {s s' : Session}
    (hmoves : Moves s s') (hs : P s) : P s' := by
  induction hmoves with
  | refl => exact hs
  | tail hmoves hmove ih => exact hstep _ _ ih hmove

/-! ### Edits are moves -/

theorem resolve_validates {φ ρ : Type} {s : Session} {table : FieldTable φ ρ} {entity field : String} {id value : Int}
    {f : φ} (hresolve : s.resolve table entity id field value = .ok f) :
    table.validate f value s.limits = .ok () := by
  unfold resolve at hresolve
  split at hresolve
  · cases hresolve
  · split at hresolve
    · cases hresolve
    · next hvalid =>
      cases hresolve
      exact hvalid

/-- Writing a field is one move, if storing the changed record is one. -/
theorem editRecord_moves {φ ρ : Type} {s : Session} {table : FieldTable φ ρ} {entity : String}
    {start : Int → Except RangeError ρ} {finish : Int → ρ → Session} {id : Int}
    (hfinish : ∀ r r', start id = .ok r → table.Stores s.limits r r' → Move s (finish id r'))
    (field : String) (value : Int) : Moves s (s.editRecord table entity start finish id field value) := by
  unfold editRecord
  cases hresolve : s.resolve table entity id field value with
  | error w => exact (Move.warn w).moves
  | ok f =>
      cases hstart : start id with
      | error e => exact (Move.warn _).moves
      | ok r => exact (hfinish r _ hstart ⟨f, value, resolve_validates hresolve, rfl⟩).moves

theorem warnTokens_moves (s : Session) (v : Vocabulary) (entity : String) (id : Int) (unknown : List String) :
    Moves s (s.warnTokens v entity id unknown) := by
  have hfold : ∀ (unknown : List String) (s' : Session), Moves s s' →
      Moves s (unknown.foldl (fun s token =>
        s.warn { kind := .unknownMnemonic, entity, id, field := v.name,
                 message := s!"unknown {v.name} mnemonic " ++ Text.quoted token }) s') := by
    intro unknown
    induction unknown with
    | nil => exact fun s' hmoves => hmoves
    | cons token unknown ih => exact fun s' hmoves => ih _ (hmoves.tail (Move.warn _))
  exact hfold unknown s .refl

/-- Replacing a flag word is a sequence of moves, if storing the changed record is one. -/
theorem editBits_moves {ρ : Type} {v : Vocabulary} {entity : String} {start : Session → Int → Except RangeError ρ}
    {finish : Session → Int → ρ → UInt32 → Session} {id : Int}
    (hfinish : ∀ s r word, start s id = .ok r → Move s (finish s id r word)) (s : Session) (tokens : String) :
    Moves s (s.editBits v entity start finish id tokens) := by
  unfold editBits
  -- Unknown words are warned about before the record is opened, so opening starts from a later session.
  obtain ⟨word, unknown⟩ := FlagExpression.parse v tokens
  have hwarned := s.warnTokens_moves v entity id unknown
  dsimp only
  split
  · exact hwarned
  · cases hstart : start (s.warnTokens v entity id unknown) id with
    | error e => exact hwarned.tail (Move.warn _)
    | ok r => exact hwarned.tail (hfinish _ r word hstart)

theorem setAction_moves (s : Session) (id : Int) (action : String) : Moves s (s.setAction id action) := by
  unfold setAction
  cases hopen : s.openFrame id with
  | error e => exact (Move.warn _).moves
  | ok f => exact (Move.frame id f _ hopen (.action action)).moves

theorem editPointer_moves (s : Session) (id : Int) (mnemonic : String) : Moves s (s.editPointer id mnemonic) := by
  unfold editPointer
  split
  · exact s.setAction_moves id ""
  · cases CodePointer.lookup? mnemonic with
    | some p => exact s.setAction_moves id p.action
    | none => exact (Move.warn _).moves

theorem copyPointer_moves (s : Session) (id source : Int) : Moves s (s.copyPointer id source) := by
  unfold copyPointer
  cases s.frame? source with
  | none => exact (Move.warn _).moves
  | some f => exact s.setAction_moves id f.action

theorem editMisc_moves (s : Session) (id : Int) (field : String) (value : Int) :
    Moves s (s.editMisc id field value) := by
  unfold editMisc
  cases hresolve : s.resolve MiscField.table "misc" id field value with
  | error w => exact (Move.warn w).moves
  | ok f => exact (Move.misc f value (resolve_validates hresolve)).moves

theorem renameSound_moves (s : Session) (id : Int) (name : String) : Moves s (s.renameSound id name) := by
  unfold renameSound
  cases hopen : s.openSound id with
  | error e => exact (Move.warn _).moves
  | ok snd => exact (Move.sound id snd _ hopen (.name _)).moves

/-- A sprite is given a name of four bytes, so of at most four letters. -/
theorem length_upper_of_renamedSprite? {old new : String} {id : Int} (hrenamed : renamedSprite? old new = some id) :
    (Text.upper new).toList.length ≤ 4 := by
  unfold renamedSprite? at hrenamed
  split at hrenamed
  · next hsizes =>
    have hle := length_le_utf8ByteSize new
    simp only [Text.upper, String.toList_ofList, List.length_map]
    omega
  · cases hrenamed

theorem ref_mem_of_find? {p : Baseline.Phrase → Bool} {ref : String}
    (hfind : (Baseline.phrases.find? p).map (·.ref) = some ref) : ref ∈ Baseline.phrases.map (·.ref) := by
  obtain ⟨phrase, hphrase, rfl⟩ := Option.map_eq_some_iff.1 hfind
  exact List.mem_map_of_mem (List.mem_of_find?_eq_some hphrase)

theorem editText_moves (s : Session) (old new : String) : Moves s (s.editText old new) := by
  unfold editText
  cases hrenamed : renamedSprite? old new with
  | some id => exact (Move.sprite id _ (length_upper_of_renamedSprite? hrenamed)).moves
  | none =>
      cases renamedSound? old new with
      | some id => exact s.renameSound_moves id new
      | none =>
          cases href : Baseline.phraseRef? old with
          | some ref => exact (Move.text ref new (ref_mem_of_find? href)).moves
          | none => exact (Move.warn _).moves

theorem editPhrase_moves (s : Session) (mnemonic new : String) : Moves s (s.editPhrase mnemonic new) := by
  unfold editPhrase
  cases href : Baseline.mnemonicRef? mnemonic with
  | some ref => exact (Move.text ref new (ref_mem_of_find? href)).moves
  | none => exact (Move.warn _).moves

/-- Carrying out an edit is a sequence of moves. -/
theorem apply_moves {s s' : Session} {e : Edit} (happly : s.apply e = .ok s') : Moves s s' := by
  cases e with
  | thingField id field value =>
      cases happly
      exact editRecord_moves (fun t t' hopen hstores => .thing id t t' hopen (.field hstores)) field value
  | thingBits id tokens =>
      cases happly
      exact editBits_moves (fun s t word hopen => .thing id t _ hopen (.flags word)) s tokens
  | thingExtendedBits id tokens =>
      cases happly
      exact editBits_moves (fun s t word hopen => .thing id t _ hopen (.extended word)) s tokens
  | frameField id field value =>
      cases happly
      exact editRecord_moves (fun f f' hopen hstores => .frame id f f' hopen (.field hstores)) field value
  | pointer id mnemonic =>
      cases happly
      exact s.editPointer_moves id mnemonic
  | pointerCopy id source =>
      cases happly
      exact s.copyPointer_moves id source
  | weaponField id field value =>
      cases happly
      exact editRecord_moves (fun w w' hopen hstores => .weapon id w w' hopen (.field hstores)) field value
  | weaponBits id tokens =>
      cases happly
      exact editBits_moves (fun s w word hopen => .weapon id w _ hopen (.flags word)) s tokens
  | ammoField id field value =>
      cases happly
      exact editRecord_moves (fun a a' hopen hstores => .ammo id a a' hopen hstores) field value
  | miscField id field value =>
      cases happly
      exact s.editMisc_moves id field value
  | soundField id field value =>
      cases happly
      exact editRecord_moves (fun snd snd' hopen hstores => .sound id snd snd' hopen (.field hstores)) field value
  | text old new =>
      cases happly
      exact s.editText_moves old new
  | phrase mnemonic new =>
      cases happly
      exact s.editPhrase_moves mnemonic new
  | unknown kind => cases happly

/-! ### Reachable sessions -/

/-- The sessions that edits, changes of version and resets lead to from the unpatched game. -/
inductive Reachable : Session → Prop
  | new (version : Int) : Reachable (new version)
  | apply {s s' : Session} {e : Edit} (hs : Reachable s) (happly : s.apply e = .ok s') : Reachable s'
  | setVersion {s : Session} (hs : Reachable s) (version : Int) : Reachable (s.setVersion version)
  | reset {s : Session} (hs : Reachable s) : Reachable s.reset

/-- What holds of the unpatched game and is kept by moves and changes of version holds of every session that
can be reached. -/
theorem Reachable.invariant {P : Session → Prop} (hnew : ∀ version, P (Session.new version))
    (hmove : ∀ s s', P s → Move s s' → P s') (hversion : ∀ s version, P s → P (s.setVersion version))
    {s : Session} (hs : Reachable s) : P s := by
  induction hs with
  | new version => exact hnew version
  | apply hs happly ih => exact (apply_moves happly).keeps hmove ih
  | setVersion hs version ih => exact hversion _ version ih
  | reset hs ih => exact hnew _

/-- A list of edits leads to a session that can be reached, whether it runs to the end or not. -/
theorem reachable_applyAll {s : Session} (hs : Reachable s) (edits : List Edit) : Reachable (s.applyAll edits).1 := by
  induction edits generalizing s with
  | nil => exact hs
  | cons e edits ih =>
      unfold applyAll
      cases happly : s.apply e with
      | ok s' => exact ih (hs.apply happly)
      | error err => exact hs

/-- The unpatched game after edits, up to the first fault. -/
def patched (version : Int) (edits : List Edit) : Session := ((new version).applyAll edits).1

theorem reachable_patched (version : Int) (edits : List Edit) : Reachable (patched version edits) :=
  reachable_applyAll (.new version) edits

end Session
end DoomPatch
