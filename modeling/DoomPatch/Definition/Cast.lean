import DoomPatch.Fault

/-!
# The finale

At the end of the game the monsters appear one after the other.  The cast numbers them from 1.
-/

namespace DoomPatch

/-- The order of appearance. -/
structure Cast where
  /-- The things in order. -/
  order : List Int

namespace Cast

/-- How many things fit into a cast. -/
def capacity : Nat := 20

/-- A cast that does not fit. -/
inductive Error where
  /-- Too many things. -/
  | tooMany (given : Nat)
deriving DecidableEq

/-- The fault. -/
def Error.fault : Error → Fault
  | tooMany n => Fault.new Code.resourceExhausted s!"cast table holds {capacity} entries, got {n}"

/-- The cast of things in their order. -/
def ofList (ids : List Int) : Except Error Cast :=
  if capacity < ids.length then .error (.tooMany ids.length) else .ok ⟨ids⟩

/-- The place of a thing, counted from 1; a thing listed twice has the first one. -/
def place? (c : Cast) (id : Int) : Option Nat := (c.order.idxOf? id).map (· + 1)

/-- The cast of the game. -/
def standard : Cast := ⟨[1, 2, 10, 11, 12, 18, 14, 17, 15, 20, 22, 5, 8, 3, 19, 21, 0]⟩

end Cast
end DoomPatch
