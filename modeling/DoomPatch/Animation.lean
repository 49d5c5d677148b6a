import DoomPatch.Chain
import DoomPatch.Role

/-!
# Animations

A definition cannot share frames between roles, so the frame graph of a thing is split into one group per
role.  Roles are served in order: a group takes the frames of its chain up to the first one that is taken
already, and there redirects to where that frame now stands.

* `Group` — the frames of one role and the jump behind them.
* `Jump` — where an animation goes on: round again, away, or to a frame of another group.
* `seed`, `spread` — the start of a group, and the distribution of the frames.
* `Animation.owner?` — the role whose group took a frame, and its place there.
-/

namespace DoomPatch

/-- Where an animation goes behind the last frame of a group. -/
inductive Jump where
  /-- To the first frame of the group itself. -/
  | loop
  /-- The thing is removed. -/
  | remove
  /-- To a frame of the group of a role, counted from 0. -/
  | into (role : Role) (offset : Nat)
deriving DecidableEq, Repr

/-- The jump as a definition writes it; nothing for a loop.  Frames are counted from 1, and the first one
needs no number. -/
def Jump.text : Jump → String
  | loop => ""
  | remove => "#REMOVE"
  | into role 0 => "#" ++ role.tag
  | into role (k + 1) => s!"#{role.tag}:{k + 2}"

/-- The frames of one role. -/
structure Group where
  /-- The role. -/
  role : Role
  /-- The frame the role starts with. -/
  start : Int
  /-- The frames that the group owns, in order. -/
  frames : List Int := []
  /-- What follows behind the frames. -/
  jump : Jump := .loop
deriving DecidableEq, Repr

/-- The groups of one entity, most important role first. -/
abbrev Animation := List Group

namespace Animation

/-- The start of a group.  The null frame and missing frames start none. -/
def seed (r : Reel) (role : Role) (start : Int) : Option Group :=
  if start = 0 ∨ (r.frame? start).isNone then none else some { role, start }

/-- The role whose group took a frame, and the place of the frame in the group. -/
def owner? (groups : Animation) (id : Int) : Option (Role × Nat) :=
  groups.findSome? fun g => (g.frames.idxOf? id).map fun k => (g.role, k)

/-- Takes frames for a role from a frame on, given the groups before it and the frames taken so far. -/
def take (r : Reel) (before : Animation) (role : Role) (own : List Int) : Nat → Int → List Int × Jump
  | 0, _ => (own, .remove)
  | fuel + 1, id =>
    if id = 0 then (own, .remove)
    else
      match owner? before id with
      | some (other, k) => (own, .into other k)
      | none =>
        match own.idxOf? id with
        | some 0 => (own, .loop)
        | some (k + 1) => (own, .into role (k + 1))
        | none =>
          match r.frame? id with
          | none => (own, .remove)
          | some f => take r before role (own ++ [id]) fuel f.next

/-- A group with its share of the frames. -/
def fill (r : Reel) (before : Animation) (g : Group) : Group :=
  let (frames, jump) := take r before g.role [] (r.capacity + 1) g.start
  { g with frames, jump }

/-- Distributes the frames, most important role first. -/
def spread (r : Reel) (seeds : Animation) : Animation :=
  seeds.foldl (fun done g => done ++ [fill r done g]) []

/-- The groups of a list of roles and their first frames. -/
def build (r : Reel) (starts : List (Role × Int)) : Animation :=
  spread r (starts.filterMap fun e => seed r e.1 e.2)

/-- The first group of a role. -/
def group? (groups : Animation) (role : Role) : Option Group := groups.find? (·.role == role)

end Animation

/-- How frames are shown: the names of sprites and the actions of frames. -/
structure Display where
  /-- The name of a sprite. -/
  sprite : Int → String
  /-- The action of a frame. -/
  action : Int → Frame → String

namespace Display

/-- The action that the catalog gives the code pointer of a frame. -/
def catalogAction (f : Frame) : String := ((CodePointer.ofAction? f.action).map (·.ddf)).getD "NOTHING"

/-- The letter of a picture: counted from `A`, as a signed 32-bit number.  What is no character is shown as
the replacement character. -/
def letter (picture : Int) : Char :=
  let n := Word.wrap32 (65 + picture)
  if h : 0 ≤ n ∧ n.toNat.isValidChar then Char.ofNatAux n.toNat h.2 else '�'

/-- A frame as a definition writes it. -/
def frame (d : Display) (r : Reel) (id : Int) : String :=
  let f := (r.frame? id).getD {}
  s!"{d.sprite f.sprite}:{letter f.subSprite}:{f.tics}:" ++
    (if f.bright then "BRIGHT:" else "NORMAL:") ++ d.action id f

/-- The entries of a group: its frames, then the jump unless it loops. -/
def entries (d : Display) (r : Reel) (g : Group) : List String :=
  g.frames.map (d.frame r) ++ (if g.jump = .loop then [] else [g.jump.text])

/-- The state list of a role as a name and a value; none for a role without a group, or whose group is
empty. -/
def states? (d : Display) (r : Reel) (groups : Animation) (role : Role) : Option (String × String) :=
  match groups.group? role with
  | none => none
  | some g =>
    if g.frames.isEmpty && g.jump == .loop then none
    else some (s!"STATES({role.tag})", ",\n    ".intercalate (d.entries r g))

/-- The state lists of all groups. -/
def allStates (d : Display) (r : Reel) (groups : Animation) : List (String × String) :=
  groups.filterMap fun g => d.states? r groups g.role

end Display
end DoomPatch
