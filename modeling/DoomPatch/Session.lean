import DoomPatch.Baseline
import DoomPatch.Chain
import DoomPatch.Field
import DoomPatch.Fault.Validation
import DoomPatch.SortedMap
import DoomPatch.Warning

/-!
# Sessions

A session is the game with a patch applied to it: for every kind of entity an overlay with the records that
the patch changed or affects, above the tables of the unpatched game.  An entity is *modified* when it has
an overlay record; modified entities are the ones that get converted.

* `thing?`, `frame?`, `weapon?`, `ammo?`, `sound?` — the current records: overlay first, table second.
* `openThing`, … — the record that a change starts from: the current one, or for numbers beyond the
  table a neutral one, if the version of the patch allows them.
* `touchThing`, `touchWeapon` — makes an entity modified without changing what is read.
-/

namespace DoomPatch

/-- The patched game. -/
structure Session where
  /-- The version of the patch format. -/
  version : Int
  /-- Modified things. -/
  things : SortedMap Int Thing := ∅
  /-- Modified frames. -/
  frames : SortedMap Int Frame := ∅
  /-- Modified weapons. -/
  weapons : SortedMap Int Weapon := ∅
  /-- Modified ammunition types. -/
  ammo : SortedMap Int Ammo := ∅
  /-- Modified sounds. -/
  sounds : SortedMap Int Sound := ∅
  /-- Renamed sprites. -/
  sprites : SortedMap Int String := ∅
  /-- Replaced messages by reference. -/
  texts : SortedMap String String := ∅
  /-- The global values. -/
  misc : Misc := Baseline.misc
  /-- Whether a global value was written. -/
  miscModified : Bool := false
  /-- The warnings so far, oldest first. -/
  warnings : List Warning := []
deriving DecidableEq

namespace Session

/-- The unpatched game. -/
def new (version : Int) : Session := { version }

/-- Checks the settings of a session. -/
def validate (version : Int) : Problems :=
  Problems.none.check (0 ≤ version) "Version" s!"must not be negative, got {version}"

/-- The unpatched game, for a version that is not negative. -/
def create (version : Int) : Except Fault Session :=
  ((validate version).orElse (new version)).mapError (·.under "invalid config")

/-- Drops all changes and warnings. -/
def reset (s : Session) : Session := new s.version

/-- Changes the version of the patch format. -/
def setVersion (s : Session) (version : Int) : Session := { s with version }

/-- The limits of the version. -/
def limits (s : Session) : Limits := Limits.ofVersion s.version

/-! ### Reading -/

/-- The current record of a thing. -/
def thing? (s : Session) (id : Int) : Option Thing := (s.things.get? id).or (Baseline.thing? id)

/-- The current record of a frame. -/
def frame? (s : Session) (id : Int) : Option Frame := (s.frames.get? id).or (Baseline.frame? id)

/-- The current record of a weapon. -/
def weapon? (s : Session) (id : Int) : Option Weapon := (s.weapons.get? id).or (Baseline.weapon? id)

/-- The current record of an ammunition type. -/
def ammo? (s : Session) (id : Int) : Option Ammo := (s.ammo.get? id).or (Baseline.ammo? id)

/-- The current record of a sound. -/
def sound? (s : Session) (id : Int) : Option Sound := (s.sounds.get? id).or (Baseline.sound? id)

/-- The current name of a sprite. -/
def spriteName (s : Session) (id : Int) : String :=
  ((s.sprites.get? id).or (Baseline.sprite? id)).getD (Baseline.extraSpriteName id)

/-- The current name of a sound. -/
def soundName (s : Session) (id : Int) : String :=
  ((s.sound? id).map (·.name)).getD (Baseline.extraSoundName id)

/-- Whether a sprite was renamed. -/
def isRenamed (s : Session) (id : Int) : Bool := s.sprites.contains id

/-- One past the largest number of an existing thing. -/
def numThings (s : Session) : Int :=
  s.things.keys.foldl (fun n id => if n ≤ id then id + 1 else n) Baseline.numThings

/-- The numbers of the existing things, ascending. -/
def thingIds (s : Session) : List Int :=
  ((List.range s.numThings.toNat).map Int.ofNat).filter fun id => (s.thing? id).isSome

/-- The numbers of the weapons. -/
def weaponIds : List Int := (List.range Baseline.numWeapons).map Int.ofNat

/-- A number with a table entry is one of the positions of the table. -/
theorem mem_positions_of_at?_isSome {α : Type} {table : Array α} {id : Int}
    (h : (Baseline.at? table id).isSome) : id ∈ (List.range table.size).map Int.ofNat := by
  unfold Baseline.at? at h
  split at h
  · next h0 =>
    have hlt : id.toNat < table.size := by
      by_cases hlt : id.toNat < table.size
      · exact hlt
      · rw [Array.getElem?_eq_none (Nat.le_of_not_lt hlt)] at h
        simp at h
    exact List.mem_map.2 ⟨id.toNat, List.mem_range.2 hlt, Int.toNat_of_nonneg h0⟩
  · simp at h

/-- The current frames. -/
def reel (s : Session) : Reel where
  frame? := s.frame?
  capacity := s.frames.size + Baseline.frames.size
  finite := by
    refine ⟨s.frames.keys ++ (List.range Baseline.frames.size).map Int.ofNat, ?_, fun id h => ?_⟩
    · simp [SortedMap.keys, SortedMap.size]
    · rw [List.mem_append]
      by_cases ho : (s.frames.get? id).isSome
      · exact Or.inl ((SortedMap.mem_keys_iff _ _).2 ho)
      · right
        have hn : s.frames.get? id = none := by simpa using ho
        apply mem_positions_of_at?_isSome
        simpa [Session.frame?, hn, Baseline.frame?] using h

/-- The frames of all roles of a thing, role after role. -/
def thingChains (s : Session) (t : Thing) : List Int :=
  Role.ofThing.flatMap fun role => s.reel.chain (t.start role)

/-- The frames of all roles of a weapon, role after role. -/
def weaponChains (s : Session) (w : Weapon) : List Int :=
  Role.ofWeapon.flatMap fun role => s.reel.chain (w.start role)

/-- The things that carry an extended flag and did not carry it before the patch. -/
def carriers (s : Session) (flag : UInt32) : List Int :=
  s.thingIds.filter fun id =>
    ((s.thing? id).any fun t => Word.hasAll t.mbf21 flag)
      && !((Baseline.thing? id).any fun t => Word.hasAll t.mbf21 flag)

/-! ### Modifying -/

/-- Records a warning. -/
def warn (s : Session) (w : Warning) : Session := { s with warnings := s.warnings ++ [w] }

/-- Checks whether a number may be used for an entity. -/
def checkId (s : Session) (entity : String) (id size : Int) : Except RangeError Unit :=
  if id < 0 then .error (.negativeId entity id)
  else if id < size then .ok ()
  else if !s.limits.extended then .error (.beyondTable entity id size s.version)
  else if Limits.extendedMax < id then .error (.beyondExtended entity id)
  else .ok ()

/-- The record that a change of a thing starts from. -/
def openThing (s : Session) (id : Int) : Except RangeError Thing :=
  match s.things.get? id with
  | some t => .ok t
  | none =>
    (s.checkId "thing" id Baseline.numThings).map fun _ =>
      (Baseline.thing? id).getD (Thing.neutral (Baseline.extraThingName id))

/-- The record that a change of a frame starts from. -/
def openFrame (s : Session) (id : Int) : Except RangeError Frame :=
  match s.frames.get? id with
  | some f => .ok f
  | none =>
    (s.checkId "frame" id Baseline.numFrames).map fun _ => (Baseline.frame? id).getD (Frame.neutral id)

/-- The record that a change of a weapon starts from. -/
def openWeapon (s : Session) (id : Int) : Except RangeError Weapon :=
  match s.weapon? id with
  | some w => .ok w
  | none => .error (.outside "weapon" id (Baseline.numWeapons - 1))

/-- The record that a change of an ammunition type starts from. -/
def openAmmo (s : Session) (id : Int) : Except RangeError Ammo :=
  match s.ammo? id with
  | some a => .ok a
  | none => .error (.outside "ammo" id (Baseline.numAmmo - 1))

/-- The record that a change of a sound starts from. -/
def openSound (s : Session) (id : Int) : Except RangeError Sound :=
  match s.sounds.get? id with
  | some snd => .ok snd
  | none =>
    (s.checkId "sound" id Baseline.numSounds).map fun _ =>
      (Baseline.sound? id).getD { name := Baseline.extraSoundName id, priority := 64 }

/-- Gives a thing an overlay record. -/
def putThing (s : Session) (id : Int) (t : Thing) : Session := { s with things := s.things.insert id t }

/-- Gives a frame an overlay record. -/
def putFrame (s : Session) (id : Int) (f : Frame) : Session := { s with frames := s.frames.insert id f }

/-- Gives a weapon an overlay record. -/
def putWeapon (s : Session) (id : Int) (w : Weapon) : Session := { s with weapons := s.weapons.insert id w }

/-- Gives an ammunition type an overlay record. -/
def putAmmo (s : Session) (id : Int) (a : Ammo) : Session := { s with ammo := s.ammo.insert id a }

/-- Gives a sound an overlay record. -/
def putSound (s : Session) (id : Int) (snd : Sound) : Session := { s with sounds := s.sounds.insert id snd }

/-- Makes a thing modified, with the record it has. -/
def touchThing (s : Session) (id : Int) : Session :=
  match s.openThing id with
  | .ok t => s.putThing id t
  | .error _ => s

/-- Makes a weapon modified, with the record it has. -/
def touchWeapon (s : Session) (id : Int) : Session :=
  match s.openWeapon id with
  | .ok w => s.putWeapon id w
  | .error _ => s

/-- Makes several things modified. -/
def touchThings (s : Session) (ids : List Int) : Session := ids.foldl touchThing s

/-- Makes several weapons modified. -/
def touchWeapons (s : Session) (ids : List Int) : Session := ids.foldl touchWeapon s

end Session
end DoomPatch
