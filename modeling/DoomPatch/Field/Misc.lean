import DoomPatch.Field

/-!
# Fields of the global values

Every global value is a plain number.
-/

namespace DoomPatch

/-- The fields of a set of global values that a patch can write. -/
inductive MiscField where
  /-- The field called Initial Health. -/
  | initialHealth
  /-- The field called Initial Bullets. -/
  | initialBullets
  /-- The field called Max Health. -/
  | maxHealth
  /-- The field called Max Armor. -/
  | maxArmor
  /-- The field called Green Armor Class. -/
  | greenClass
  /-- The field called Blue Armor Class. -/
  | blueClass
  /-- The field called Max Soulsphere. -/
  | maxSoulsphere
  /-- The field called Soulsphere Health. -/
  | soulsphereHealth
  /-- The field called Megasphere Health. -/
  | megasphereHealth
  /-- The field called God Mode Health. -/
  | godHealth
  /-- The field called IDFA Armor. -/
  | idfaArmor
  /-- The field called IDFA Armor Class. -/
  | idfaClass
  /-- The field called IDKFA Armor. -/
  | idkfaArmor
  /-- The field called IDKFA Armor Class. -/
  | idkfaClass
  /-- The field called BFG Cells/Shot. -/
  | bfgCells
  /-- The field called Monsters Infight. -/
  | infight
deriving DecidableEq, Repr

namespace MiscField

/-- The fields in order. -/
def all : List MiscField := [
  initialHealth, initialBullets, maxHealth, maxArmor, greenClass, blueClass, maxSoulsphere,
  soulsphereHealth, megasphereHealth, godHealth, idfaArmor, idfaClass, idkfaArmor, idkfaClass,
  bfgCells, infight]

/-- What a field is called. -/
def name : MiscField → String
  | initialHealth => "Initial Health"
  | initialBullets => "Initial Bullets"
  | maxHealth => "Max Health"
  | maxArmor => "Max Armor"
  | greenClass => "Green Armor Class"
  | blueClass => "Blue Armor Class"
  | maxSoulsphere => "Max Soulsphere"
  | soulsphereHealth => "Soulsphere Health"
  | megasphereHealth => "Megasphere Health"
  | godHealth => "God Mode Health"
  | idfaArmor => "IDFA Armor"
  | idfaClass => "IDFA Armor Class"
  | idkfaArmor => "IDKFA Armor"
  | idkfaClass => "IDKFA Armor Class"
  | bfgCells => "BFG Cells/Shot"
  | infight => "Monsters Infight"

/-- What the numbers of a field mean. -/
def kind : MiscField → FieldKind
  | initialHealth | maxHealth | maxSoulsphere
  | soulsphereHealth | megasphereHealth | godHealth | bfgCells => .positive
  | initialBullets | maxArmor | greenClass | blueClass
  | idfaArmor | idfaClass | idkfaArmor | idkfaClass => .nonNegative
  | infight => .any

/-- Reads a field. -/
def get (f : MiscField) (r : Misc) : Int :=
  match f with
  | initialHealth => r.initialHealth
  | initialBullets => r.initialBullets
  | maxHealth => r.maxHealth
  | maxArmor => r.maxArmor
  | greenClass => r.greenClass
  | blueClass => r.blueClass
  | maxSoulsphere => r.maxSoulsphere
  | soulsphereHealth => r.soulsphereHealth
  | megasphereHealth => r.megasphereHealth
  | godHealth => r.godHealth
  | idfaArmor => r.idfaArmor
  | idfaClass => r.idfaClass
  | idkfaArmor => r.idkfaArmor
  | idkfaClass => r.idkfaClass
  | bfgCells => r.bfgCells
  | infight => r.infight

/-- Writes a field. -/
def set (f : MiscField) (v : Int) (r : Misc) : Misc :=
  match f with
  | initialHealth => { r with initialHealth := v }
  | initialBullets => { r with initialBullets := v }
  | maxHealth => { r with maxHealth := v }
  | maxArmor => { r with maxArmor := v }
  | greenClass => { r with greenClass := v }
  | blueClass => { r with blueClass := v }
  | maxSoulsphere => { r with maxSoulsphere := v }
  | soulsphereHealth => { r with soulsphereHealth := v }
  | megasphereHealth => { r with megasphereHealth := v }
  | godHealth => { r with godHealth := v }
  | idfaArmor => { r with idfaArmor := v }
  | idfaClass => { r with idfaClass := v }
  | idkfaArmor => { r with idkfaArmor := v }
  | idkfaClass => { r with idkfaClass := v }
  | bfgCells => { r with bfgCells := v }
  | infight => { r with infight := v }

/-- The fields of a set of global values. -/
def table : FieldTable MiscField Misc := ⟨all, name, kind, fun _ => 0, get, set⟩

end MiscField
end DoomPatch
