import DoomPatch.Field

/-!
# Fields of sounds

Names are not fields; they are replaced as text.
-/

namespace DoomPatch

/-- The fields of a sound that a patch can write. -/
inductive SoundField where
  /-- The field called Value. -/
  | priority
  /-- The field called Zero/One. -/
  | singularity
deriving DecidableEq, Repr

namespace SoundField

/-- The fields in order. -/
def all : List SoundField := [
  priority, singularity]

/-- What a field is called. -/
def name : SoundField → String
  | priority => "Value"
  | singularity => "Zero/One"

/-- What the numbers of a field mean. -/
def kind : SoundField → FieldKind
  | priority => .any
  | singularity => .nonNegative

/-- Reads a field. -/
def get (f : SoundField) (r : Sound) : Int :=
  match f with
  | priority => r.priority
  | singularity => r.singularity

/-- Writes a field. -/
def set (f : SoundField) (v : Int) (r : Sound) : Sound :=
  match f with
  | priority => { r with priority := v }
  | singularity => { r with singularity := v }

/-- The fields of a sound. -/
def table : FieldTable SoundField Sound := ⟨all, name, kind, fun _ => 0, get, set⟩

end SoundField
end DoomPatch
