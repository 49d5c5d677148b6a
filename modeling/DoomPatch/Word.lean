/-!
# Machine words

Quantities of a patch are integers, and arithmetic on them is that of signed 64-bit words: the exact
result is brought back into range modulo `2 ^ 64`.  Flag words have 32 bits.

* `wrap64` — the signed 64-bit word congruent to an integer.
* `low32` — the low 32 bits of an integer, also of a negative one.
-/

namespace DoomPatch
namespace Word

/-- The integer of the signed 64-bit range that is congruent modulo `2 ^ 64`. -/
def wrap64 (n : Int) : Int := n.bmod UInt64.size

/-- The integer of the signed 32-bit range that is congruent modulo `2 ^ 32`. -/
def wrap32 (n : Int) : Int := n.bmod UInt32.size

/-- The low 32 bits. -/
def low32 (n : Int) : UInt32 := UInt32.ofInt n

/-- A product of words. -/
def mul (a b : Int) : Int := wrap64 (a * b)

/-- The magnitude of a word.  The least word is its own negative and stays as it is. -/
def magnitude (n : Int) : Int := if n < 0 then wrap64 (-n) else n

/-- Whether bit `k` of an integer in two's complement is set. -/
def testBit (n : Int) (k : Nat) : Bool := (n >>> k) % 2 == 1

/-- An integer with bit `k` of its two's complement cleared. -/
def clearBit (n : Int) (k : Nat) : Int := if testBit n k then n - Int.ofNat (1 <<< k) else n

/-- Whether a flag word contains all bits of a mask. -/
def hasAll (word mask : UInt32) : Bool := word &&& mask == mask

end Word
end DoomPatch
