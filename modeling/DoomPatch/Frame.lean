import DoomPatch.Word

/-!
# Frames

A frame is one picture of an animation, with the time it is shown, the code pointer it runs and the frame
that follows.  Frame 0 is the null frame, at which an animation ends.
-/

namespace DoomPatch

/-- The record of a frame. -/
structure Frame where
  /-- The sprite. -/
  sprite : Int := 0
  /-- The picture of the sprite; bit 15 makes it full-bright. -/
  picture : Int := 0
  /-- How long the frame is shown; -1 for ever. -/
  tics : Int := 0
  /-- The code pointer, empty for none. -/
  action : String := ""
  /-- The following frame. -/
  next : Int := 0
  /-- The first classic argument. -/
  misc1 : Int := 0
  /-- The second classic argument. -/
  misc2 : Int := 0
  /-- The eight arguments of extended code pointers. -/
  args : Vector Int 8 := Vector.replicate 8 0
  /-- The flag word. -/
  flags : UInt32 := 0
deriving DecidableEq

namespace Frame

instance : Inhabited Frame := ⟨{}⟩

/-- The frame of an id that no table lists: invisible, and shown for ever. -/
def neutral (id : Int) : Frame := { tics := -1, next := id }

/-- An argument of extended code pointers, counted from 0.  Behind the eighth there are only zeros. -/
def arg (f : Frame) (n : Nat) : Int := f.args[n]?.getD 0

/-- Whether the frame is drawn full-bright. -/
def bright (f : Frame) : Bool := Word.testBit f.picture 15

/-- The picture without the brightness. -/
def subSprite (f : Frame) : Int := Word.clearBit f.picture 15

end Frame
end DoomPatch
