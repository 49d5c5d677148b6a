import DoomPatch.Edit
import DoomPatch.Field.Ammo
import DoomPatch.Field.Frame
import DoomPatch.Field.Sound
import DoomPatch.Field.Thing
import DoomPatch.Field.Weapon
import DoomPatch.Flag.Expression
import DoomPatch.Session.Dependents
import DoomPatch.Text.Quoted

/-!
# Applying edits

An edit that cannot be carried out leaves a warning and nothing else; only an edit of a kind that does not
exist is a fault.  A change to a record also makes the entities modified that depend on it.

* `Session.apply` — one edit.
* `Session.applyAll` — edits in order, up to the first fault.
-/

namespace DoomPatch

/-- An edit that cannot be understood. -/
inductive EditError where
  /-- A kind of edit that does not exist. -/
  | unknownKind (kind : Int)
deriving DecidableEq

/-- The fault. -/
def EditError.fault : EditError → Fault
  | unknownKind n => Fault.invalid s!"unknown edit kind {n}"

namespace Session

/-- Leaves the warning of a refused number. -/
def refuse (s : Session) (entity : String) (id : Int) (field : String) (e : RangeError) : Session :=
  s.warn { kind := .outOfRange, entity, id, field, message := e.message }

/-- Finds a field and checks the number for it; otherwise the warning. -/
def resolve {φ ρ : Type} (s : Session) (table : FieldTable φ ρ) (entity : String) (id : Int)
    (field : String) (value : Int) : Except Warning φ :=
  match table.find? field with
  | none =>
    .error { kind := .unknownField, entity, id, field,
             message := s!"unknown {entity} field " ++ Text.quoted field }
  | some f =>
    match table.validate f value s.limits with
    | .error e => .error { kind := .outOfRange, entity, id, field := table.name f, message := e.message }
    | .ok _ => .ok f

/-- Writes a field of a record: `start` is the record the change starts from, `finish` stores it. -/
def editRecord {φ ρ : Type} (s : Session) (table : FieldTable φ ρ) (entity : String)
    (start : Int → Except RangeError ρ) (finish : Int → ρ → Session)
    (id : Int) (field : String) (value : Int) : Session :=
  match s.resolve table entity id field value with
  | .error w => s.warn w
  | .ok f =>
    match start id with
    | .error e => s.refuse entity id (table.name f) e
    | .ok r => finish id (table.store f value r)

/-- Leaves a warning for each token that is no flag. -/
def warnTokens (s : Session) (v : Vocabulary) (entity : String) (id : Int) (unknown : List String) : Session :=
  unknown.foldl (fun s token =>
    s.warn { kind := .unknownMnemonic, entity, id, field := v.name,
             message := s!"unknown {v.name} mnemonic " ++ Text.quoted token }) s

/-- Replaces a flag word by an expression.  An expression of which nothing is known changes nothing. -/
def editBits {ρ : Type} (s : Session) (v : Vocabulary) (entity : String)
    (start : Session → Int → Except RangeError ρ) (finish : Session → Int → ρ → UInt32 → Session)
    (id : Int) (tokens : String) : Session :=
  let (word, unknown) := FlagExpression.parse v tokens
  let s := s.warnTokens v entity id unknown
  if word = 0 ∧ unknown ≠ [] then s
  else
    match start s id with
    | .error e => s.refuse entity id v.name e
    | .ok r => finish s id r word

/-- Replaces the code pointer of a frame. -/
def setAction (s : Session) (id : Int) (action : String) : Session :=
  match s.openFrame id with
  | .error e => s.refuse "frame" id "Codep" e
  | .ok f => (s.putFrame id { f with action }).touchFrameUsers id

/-- Replaces the code pointer of a frame by a mnemonic; no name, or `NULL`, clears it. -/
def editPointer (s : Session) (id : Int) (mnemonic : String) : Session :=
  if mnemonic = "" ∨ Text.sameFold mnemonic "NULL" then s.setAction id ""
  else
    match CodePointer.lookup? mnemonic with
    | some p => s.setAction id p.action
    | none =>
      s.warn { kind := .unknownPointer, entity := "frame", id, field := "Codep",
               message := "unknown code pointer " ++ Text.quoted mnemonic }

/-- Copies the code pointer of another frame. -/
def copyPointer (s : Session) (id source : Int) : Session :=
  match s.frame? source with
  | none => s.refuse "frame" id "Codep Frame" (.noSource source)
  | some f => s.setAction id f.action

/-- Writes a global value. -/
def editMisc (s : Session) (id : Int) (field : String) (value : Int) : Session :=
  match s.resolve MiscField.table "misc" id field value with
  | .error w => s.warn w
  | .ok f =>
    ({ s with misc := MiscField.table.store f value s.misc, miscModified := true } : Session).touchMiscUsers
      f value

/-- Renames a sprite. -/
def renameSprite (s : Session) (id : Int) (name : String) : Session :=
  ({ s with sprites := s.sprites.insert id (Text.upper name) } : Session).touchSpriteUsers id

/-- Renames a sound. -/
def renameSound (s : Session) (id : Int) (name : String) : Session :=
  match s.openSound id with
  | .error e => s.refuse "sound" id "name" e
  | .ok snd => s.putSound id { snd with name := Text.lower name }

/-- Replaces a message. -/
def setText (s : Session) (ref value : String) : Session := { s with texts := s.texts.insert ref value }

/-- The sprite that a text edit renames: both names have four bytes, and the old one is a sprite. -/
def renamedSprite? (old new : String) : Option Int :=
  if old.utf8ByteSize = 4 ∧ new.utf8ByteSize = 4 then Baseline.spriteIndex? old else none

/-- The sound that a text edit renames: the new name has at most six bytes, and the old one is a sound. -/
def renamedSound? (old new : String) : Option Int :=
  if new.utf8ByteSize ≤ 6 then Baseline.soundIndex? old else none

/-- Replaces a text: a sprite name if it can be one, else a sound name, else a message. -/
def editText (s : Session) (old new : String) : Session :=
  match renamedSprite? old new with
  | some id => s.renameSprite id new
  | none =>
    match renamedSound? old new with
    | some id => s.renameSound id new
    | none =>
      match Baseline.phraseRef? old with
      | some ref => s.setText ref new
      | none =>
        s.warn { kind := .unknownText, entity := "text",
                 message := "no sprite, sound or string matches " ++ Text.quoted old }

/-- Replaces the message of a mnemonic. -/
def editPhrase (s : Session) (mnemonic new : String) : Session :=
  match Baseline.mnemonicRef? mnemonic with
  | some ref => s.setText ref new
  | none =>
    s.warn { kind := .unknownText, entity := "text", field := mnemonic,
             message := "unknown string mnemonic " ++ Text.quoted mnemonic }

/-- Carries out one edit. -/
def apply (s : Session) : Edit → Except EditError Session
  | .thingField id field value =>
    .ok (s.editRecord ThingField.table "thing" s.openThing s.putThing id field value)
  | .thingBits id tokens =>
    .ok (s.editBits .thing "thing" openThing (fun s id t word => s.putThing id { t with flags := word })
      id tokens)
  | .thingExtendedBits id tokens =>
    .ok (s.editBits .extended "thing" openThing (fun s id t word => s.putThing id { t with mbf21 := word })
      id tokens)
  | .frameField id field value =>
    .ok (s.editRecord FrameField.table "frame" s.openFrame
      (fun id f => (s.putFrame id f).touchFrameUsers id) id field value)
  | .pointer id mnemonic => .ok (s.editPointer id mnemonic)
  | .pointerCopy id source => .ok (s.copyPointer id source)
  | .weaponField id field value =>
    .ok (s.editRecord WeaponField.table "weapon" s.openWeapon s.putWeapon id field value)
  | .weaponBits id tokens =>
    .ok (s.editBits .weapon "weapon" openWeapon (fun s id w word => s.putWeapon id { w with flags := word })
      id tokens)
  | .ammoField id field value =>
    .ok (s.editRecord AmmoField.table "ammo" s.openAmmo
      (fun id a => (s.putAmmo id a).touchThings (ammoUsers id)) id field value)
  | .miscField id field value => .ok (s.editMisc id field value)
  | .soundField id field value =>
    .ok (s.editRecord SoundField.table "sound" s.openSound s.putSound id field value)
  | .text old new => .ok (s.editText old new)
  | .phrase mnemonic new => .ok (s.editPhrase mnemonic new)
  | .unknown kind => .error (.unknownKind kind)

/-- Carries out edits in order, up to the first fault, which is returned beside what was reached. -/
def applyAll (s : Session) : List Edit → Session × Option EditError
  | [] => (s, none)
  | e :: rest =>
    match s.apply e with
    | .ok s => s.applyAll rest
    | .error err => (s, some err)

end Session
end DoomPatch
