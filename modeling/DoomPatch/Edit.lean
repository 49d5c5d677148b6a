/-!
# Edits

An edit is one change that a patch asks for.  Entities are numbered from 0.
-/

namespace DoomPatch

/-- One change. -/
inductive Edit where
  /-- Writes a field of a thing. -/
  | thingField (id : Int) (field : String) (value : Int)
  /-- Replaces the classic flag word of a thing. -/
  | thingBits (id : Int) (tokens : String)
  /-- Replaces the extended flag word of a thing. -/
  | thingExtendedBits (id : Int) (tokens : String)
  /-- Writes a field of a frame. -/
  | frameField (id : Int) (field : String) (value : Int)
  /-- Replaces the code pointer of a frame. -/
  | pointer (id : Int) (mnemonic : String)
  /-- Copies the code pointer of another frame. -/
  | pointerCopy (id : Int) (source : Int)
  /-- Writes a field of a weapon. -/
  | weaponField (id : Int) (field : String) (value : Int)
  /-- Replaces the flag word of a weapon. -/
  | weaponBits (id : Int) (tokens : String)
  /-- Writes a field of an ammunition type. -/
  | ammoField (id : Int) (field : String) (value : Int)
  /-- Writes a global value; the number plays no part but is reported. -/
  | miscField (id : Int) (field : String) (value : Int)
  /-- Writes a field of a sound. -/
  | soundField (id : Int) (field : String) (value : Int)
  /-- Replaces a text: a sprite name, a sound name or a message. -/
  | text (old new : String)
  /-- Replaces the message of a mnemonic. -/
  | phrase (mnemonic new : String)
  /-- A change of a kind that does not exist. -/
  | unknown (kind : Int)
deriving DecidableEq, Repr

namespace Edit

/-- What the edits of a kind change, by the number of the kind. -/
def entityOfKind (kind : Int) : String :=
  if kind ∈ [1, 2, 3] then "thing"
  else if kind ∈ [4, 5, 6] then "frame"
  else if kind ∈ [7, 8] then "weapon"
  else if kind = 9 then "ammo"
  else if kind = 10 then "misc"
  else if kind = 11 then "sound"
  else if kind ∈ [12, 13] then "text"
  else "unknown"

/-- The number of the kind of an edit. -/
def kind : Edit → Int
  | thingField .. => 1
  | thingBits .. => 2
  | thingExtendedBits .. => 3
  | frameField .. => 4
  | pointer .. => 5
  | pointerCopy .. => 6
  | weaponField .. => 7
  | weaponBits .. => 8
  | ammoField .. => 9
  | miscField .. => 10
  | soundField .. => 11
  | text .. => 12
  | phrase .. => 13
  | unknown n => n

/-- What an edit changes. -/
def entity (e : Edit) : String := entityOfKind e.kind

end Edit
end DoomPatch
