/-!
# Distance of words

How many bytes have to be put in, left out or exchanged to turn one word into another.

* `distance` — the least number of such steps.
-/

namespace DoomPatch
namespace Text

/-- The distances of a word that has grown by a byte from the beginnings of another.  `corner` and `left` are
the distances before, without and with the byte; `above` are the later ones without it. -/
def distanceRow (b : UInt8) : List UInt8 → Nat → Nat → List Nat → List Nat
  | c :: cs, corner, left, up :: above =>
    let here := if b = c then corner else 1 + min corner (min left up)
    here :: distanceRow b cs up here above
  | _, _, _, _ => []

/-- The distances of a word from the beginnings of another, the empty one first, from those of the part of it
that is passed. -/
def distances (other : List UInt8) : List Nat → List UInt8 → List Nat
  | row, [] => row
  | row, b :: bs =>
    let corner := row.headD 0
    distances other ((corner + 1) :: distanceRow b other corner (corner + 1) (row.drop 1)) bs

/-- The distance of two words. -/
def distance (s t : String) : Nat :=
  let other := t.toUTF8.toList
  (distances other (List.range (other.length + 1)) s.toUTF8.toList).getLastD 0

end Text
end DoomPatch
