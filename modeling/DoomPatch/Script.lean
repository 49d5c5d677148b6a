import DoomPatch.Edit
import DoomPatch.Fault
import DoomPatch.Text.Quoted
import DoomPatch.Yaml.Reader
import DoomPatch.Yaml.Repetition

/-!
# Edit scripts

An edit script names the version of the patch format and lists edits in order.  It is written in YAML:
a mapping with the keys `version` and `edits`, and a mapping with one target for each edit.

* `Document.ofNode?` — the entries as they are written; unknown or repeated keys and values of the wrong
  type make a script unreadable, and so does too much repetition.
* `Entry.edit` — the edit that an entry means.
* `Script.ofDocument`, `Script.read` — the script of a document and of a text.

Things are counted from 1 in scripts; everything else is counted from 0.
-/

namespace DoomPatch

/-- One entry of a script as it is written. -/
structure Entry where
  /-- The number of a thing, from 1. -/
  thing : Option Int := none
  /-- The number of a frame. -/
  frame : Option Int := none
  /-- The number of a weapon. -/
  weapon : Option Int := none
  /-- The number of an ammunition type. -/
  ammo : Option Int := none
  /-- The number of a sound. -/
  sound : Option Int := none
  /-- The name of a global value. -/
  misc : Option String := none
  /-- A text and what replaces it. -/
  text : Option (String × String) := none
  /-- The mnemonic of a message. -/
  phrase : Option String := none
  /-- The field to write. -/
  field : String := ""
  /-- The number to write. -/
  value : Option Int := none
  /-- Flags. -/
  bits : Option String := none
  /-- Extended flags. -/
  extendedBits : Option String := none
  /-- A code pointer. -/
  pointer : Option String := none
  /-- The frame to copy a code pointer from. -/
  pointerFrom : Option Int := none
  /-- The new message. -/
  message : String := ""
deriving DecidableEq

/-- Why an entry means no edit. -/
inductive EntryError where
  /-- It does not name exactly one target. -/
  | targets (count : Nat)
  /-- A thing number below 1. -/
  | thingNumber (given : Int)
  /-- A field is missing. -/
  | noField (entity : String)
  /-- The number to write is missing. -/
  | noValue (entity field : String)
  /-- The text to replace is missing. -/
  | noFrom
  /-- The mnemonic is missing. -/
  | noMnemonic
deriving DecidableEq

/-- The wording. -/
def EntryError.message : EntryError → String
  | targets n => s!"edit must name exactly one target, got {n}"
  | thingNumber n => s!"thing numbers start at 1, got {n}"
  | noField entity => s!"{entity} edit needs a field"
  | noValue entity field => s!"{entity} field " ++ Text.quoted field ++ " needs a value"
  | noFrom => "text edit needs from"
  | noMnemonic => "string edit needs a mnemonic"

namespace Entry

/-- How many targets an entry names. -/
def targets (e : Entry) : Nat :=
  [e.thing.isSome, e.frame.isSome, e.weapon.isSome, e.ammo.isSome, e.sound.isSome, e.misc.isSome,
    e.text.isSome, e.phrase.isSome].count true

/-- An edit that writes a number to a field. -/
def fieldEdit (e : Entry) (entity field : String) (make : String → Int → Edit) : Except EntryError Edit :=
  if field = "" then .error (.noField entity)
  else
    match e.value with
    | none => .error (.noValue entity field)
    | some v => .ok (make field v)

/-- The edit of a thing. -/
def thingEdit (e : Entry) (number : Int) : Except EntryError Edit :=
  if number < 1 then .error (.thingNumber number)
  else
    match e.bits, e.extendedBits with
    | some tokens, _ => .ok (.thingBits (number - 1) tokens)
    | none, some tokens => .ok (.thingExtendedBits (number - 1) tokens)
    | none, none => e.fieldEdit "thing" e.field (.thingField (number - 1))

/-- The edit of a frame. -/
def frameEdit (e : Entry) (id : Int) : Except EntryError Edit :=
  match e.pointer, e.pointerFrom with
  | some mnemonic, _ => .ok (.pointer id mnemonic)
  | none, some source => .ok (.pointerCopy id source)
  | none, none => e.fieldEdit "frame" e.field (.frameField id)

/-- The edit of a weapon. -/
def weaponEdit (e : Entry) (id : Int) : Except EntryError Edit :=
  match e.bits with
  | some tokens => .ok (.weaponBits id tokens)
  | none => e.fieldEdit "weapon" e.field (.weaponField id)

/-- The edit of a text. -/
def textEdit (old new : String) : Except EntryError Edit :=
  if old = "" then .error .noFrom else .ok (.text old new)

/-- The edit of a message. -/
def phraseEdit (e : Entry) (mnemonic : String) : Except EntryError Edit :=
  if mnemonic = "" then .error .noMnemonic else .ok (.phrase mnemonic e.message)

/-- The edit of an entry with exactly one target. -/
def targetEdit (e : Entry) : Except EntryError Edit :=
  match e.thing, e.frame, e.weapon, e.ammo, e.sound, e.misc, e.text, e.phrase with
  | some n, _, _, _, _, _, _, _ => e.thingEdit n
  | none, some id, _, _, _, _, _, _ => e.frameEdit id
  | none, none, some id, _, _, _, _, _ => e.weaponEdit id
  | none, none, none, some id, _, _, _, _ => e.fieldEdit "ammo" e.field (.ammoField id)
  | none, none, none, none, some id, _, _, _ => e.fieldEdit "sound" e.field (.soundField id)
  | none, none, none, none, none, some name, _, _ => e.fieldEdit "misc" name (.miscField 0)
  | none, none, none, none, none, none, some (old, new), _ => textEdit old new
  | none, none, none, none, none, none, none, some mnemonic => e.phraseEdit mnemonic
  | none, none, none, none, none, none, none, none => .error (.targets 0)

/-- The edit that an entry means. -/
def edit (e : Entry) : Except EntryError Edit :=
  if e.targets = 1 then e.targetEdit else .error (.targets e.targets)

end Entry

/-- A script as it is written. -/
structure Document where
  /-- The version, if it is named. -/
  version : Option Int := none
  /-- The entries in order. -/
  entries : List Entry := []
deriving DecidableEq

/-! ### From YAML -/

namespace Yaml

/-- A number that may be missing. -/
def numberField? (fields : List (String × Node)) (name : String) : Option (Option Int) :=
  match fields.lookup name with
  | none => some none
  | some n => n.number?

/-- A text that may be missing. -/
def textField? (fields : List (String × Node)) (name : String) : Option (Option String) :=
  match fields.lookup name with
  | none => some none
  | some n => n.string?

end Yaml

namespace Entry

/-- The keys of an entry. -/
def keys : List String :=
  ["thing", "frame", "weapon", "ammo", "sound", "misc", "text", "string", "field", "value", "bits",
    "mbf21_bits", "pointer", "pointer_from", "to"]

/-- A text and what replaces it, unless the node is null.  A mapping cannot be. -/
def replacement? (n : Yaml.Node) : Option (Option (String × String)) :=
  if n.isNull then some none
  else if n.saysNull then none
  else do
    let fields ← n.fields? ["from", "to"]
    let old ← Yaml.textField? fields "from"
    let new ← Yaml.textField? fields "to"
    return some (old.getD "", new.getD "")

/-- The entry of a node. -/
def ofNode? (n : Yaml.Node) : Option Entry := do
  let fields ← n.fields? keys
  let text ←
    match fields.lookup "text" with
    | none => some none
    | some n => replacement? n
  return {
    thing := ← Yaml.numberField? fields "thing"
    frame := ← Yaml.numberField? fields "frame"
    weapon := ← Yaml.numberField? fields "weapon"
    ammo := ← Yaml.numberField? fields "ammo"
    sound := ← Yaml.numberField? fields "sound"
    misc := ← Yaml.textField? fields "misc"
    text
    phrase := ← Yaml.textField? fields "string"
    field := (← Yaml.textField? fields "field").getD ""
    value := ← Yaml.numberField? fields "value"
    bits := ← Yaml.textField? fields "bits"
    extendedBits := ← Yaml.textField? fields "mbf21_bits"
    pointer := ← Yaml.textField? fields "pointer"
    pointerFrom := ← Yaml.numberField? fields "pointer_from"
    message := (← Yaml.textField? fields "to").getD "" }

end Entry

namespace Document

/-- The entries of a node.  Null items are passed over. -/
def entriesOf? (n : Yaml.Node) : Option (List Entry) :=
  n.items?.bind fun items => (items.filter fun n => !n.isNull).mapM Entry.ofNode?

/-- The document of a node; null is an empty one. -/
def ofNode? (n : Yaml.Node) : Option Document :=
  if n.isNull then some {}
  else do
    let fields ← n.fields? ["version", "edits"]
    let version ← Yaml.numberField? fields "version"
    let entries ←
      match fields.lookup "edits" with
      | none => some []
      | some n => entriesOf? n
    return { version, entries }

end Document

/-! ### Scripts -/

/-- A script. -/
structure Script where
  /-- The version of the patch format. -/
  version : Int
  /-- Whether the script names the version itself. -/
  hasVersion : Bool
  /-- The edits in order. -/
  edits : List Edit
deriving DecidableEq

/-- Why a script is refused. -/
inductive ScriptError where
  /-- It is no document of the right form. -/
  | unreadable
  /-- A negative version. -/
  | negativeVersion (given : Int)
  /-- An entry, counted from 1, means no edit. -/
  | entry (position : Nat) (cause : EntryError)
deriving DecidableEq

/-- The fault. -/
def ScriptError.fault : ScriptError → Fault
  | unreadable => Fault.invalid "failed to parse edit script"
  | negativeVersion n => Fault.invalid s!"version must not be negative, got {n}"
  | entry k cause =>
    ((Fault.invalid cause.message).under s!"edit {k}").note "edit" (.number k)

namespace Script

/-- The version of a script that names none. -/
def defaultVersion : Int := 21

/-- The edits of entries, the first of which stands at a position. -/
def editsFrom (position : Nat) : List Entry → Except ScriptError (List Edit)
  | [] => .ok []
  | e :: rest =>
    match e.edit with
    | .error cause => .error (.entry position cause)
    | .ok edit => (editsFrom (position + 1) rest).map (edit :: ·)

/-- The script of a document. -/
def ofDocument (d : Document) : Except ScriptError Script :=
  let version := d.version.getD defaultVersion
  if version < 0 then .error (.negativeVersion version)
  else (editsFrom 1 d.entries).map fun edits => { version, hasVersion := d.version.isSome, edits }

/-- The script of a text. -/
def read (text : String) : Except ScriptError Script :=
  match ((Yaml.read? text).filter Yaml.Node.isModest).bind Document.ofNode? with
  | none => .error .unreadable
  | some d => ofDocument d

end Script
end DoomPatch
