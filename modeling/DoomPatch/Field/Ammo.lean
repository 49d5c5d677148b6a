import DoomPatch.Field

/-!
# Fields of ammunition types

The maximum is capped.
-/

namespace DoomPatch

/-- The fields of a ammo that a patch can write. -/
inductive AmmoField where
  /-- The field called Max ammo. -/
  | max
  /-- The field called Per ammo. -/
  | per
deriving DecidableEq, Repr

namespace AmmoField

/-- The fields in order. -/
def all : List AmmoField := [
  max, per]

/-- What a field is called. -/
def name : AmmoField → String
  | max => "Max ammo"
  | per => "Per ammo"

/-- What the numbers of a field mean. -/
def kind : AmmoField → FieldKind
  | _ => .nonNegative

/-- The largest maximum. -/
def maxAmount : Int := 10000

/-- Reads a field. -/
def get (f : AmmoField) (r : Ammo) : Int :=
  match f with
  | max => r.max
  | per => r.per

/-- Writes a field. -/
def set (f : AmmoField) (v : Int) (r : Ammo) : Ammo :=
  match f with
  | max => { r with max := min v AmmoField.maxAmount }
  | per => { r with per := v }

/-- The fields of a ammo. -/
def table : FieldTable AmmoField Ammo := ⟨all, name, kind, fun _ => 0, get, set⟩

end AmmoField
end DoomPatch
