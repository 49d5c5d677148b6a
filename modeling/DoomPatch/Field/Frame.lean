import DoomPatch.Field

/-!
# Fields of frames

The eight arguments are fields of their own.  The flag word keeps its low 32 bits.
-/

namespace DoomPatch

/-- The fields of a frame that a patch can write. -/
inductive FrameField where
  /-- The field called Sprite number. -/
  | sprite
  /-- The field called Sprite subnumber. -/
  | picture
  /-- The field called Duration. -/
  | tics
  /-- The field called Next frame. -/
  | next
  /-- The field called Unknown 1. -/
  | misc1
  /-- The field called Unknown 2. -/
  | misc2
  /-- The fields called Args1 to Args8. -/
  | arg (n : Fin 8)
  /-- The field called MBF21 Bits. -/
  | flags
deriving DecidableEq, Repr

namespace FrameField

/-- The fields in order. -/
def all : List FrameField :=
  [sprite, picture, tics, next, misc1, misc2, arg 0, arg 1, arg 2, arg 3, arg 4, arg 5, arg 6, arg 7, flags]

/-- What a field is called. -/
def name : FrameField → String
  | sprite => "Sprite number"
  | picture => "Sprite subnumber"
  | tics => "Duration"
  | next => "Next frame"
  | misc1 => "Unknown 1"
  | misc2 => "Unknown 2"
  | arg n => s!"Args{n.val + 1}"
  | flags => "MBF21 Bits"

/-- What the numbers of a field mean. -/
def kind : FrameField → FieldKind
  | sprite => .sprite
  | picture => .subSprite
  | tics | misc1 | misc2 | arg _ => .any
  | next => .frame
  | flags => .bits

/-- Reads a field. -/
def get (f : FrameField) (r : Frame) : Int :=
  match f with
  | sprite => r.sprite
  | picture => r.picture
  | tics => r.tics
  | next => r.next
  | misc1 => r.misc1
  | misc2 => r.misc2
  | arg n => r.args[n]
  | flags => Int.ofNat r.flags.toNat

/-- Writes a field. -/
def set (f : FrameField) (v : Int) (r : Frame) : Frame :=
  match f with
  | sprite => { r with sprite := v }
  | picture => { r with picture := v }
  | tics => { r with tics := v }
  | next => { r with next := v }
  | misc1 => { r with misc1 := v }
  | misc2 => { r with misc2 := v }
  | arg n => { r with args := r.args.set n v }
  | flags => { r with flags := Word.low32 v }

/-- The fields of a frame. -/
def table : FieldTable FrameField Frame := ⟨all, name, kind, fun _ => 0, get, set⟩

end FrameField
end DoomPatch
