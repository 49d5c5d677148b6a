import DoomPatch.Text.Numeral

/-!
# Digests

The 64-bit hash by which a stored lump is checked: XXH64 of its UTF-8 bytes with seed 0.  Stripes of 32
bytes are absorbed by four lanes of 64 bits; what is left is absorbed in words, half words and bytes.
-/

namespace DoomPatch
namespace Digest

/-- The first multiplier. -/
def prime1 : UInt64 := 11400714785074694791

/-- The second multiplier. -/
def prime2 : UInt64 := 14029467366897019727

/-- The third multiplier. -/
def prime3 : UInt64 := 1609587929392839161

/-- The fourth multiplier. -/
def prime4 : UInt64 := 9650029242287828579

/-- The fifth multiplier. -/
def prime5 : UInt64 := 2870177450012600261

/-- Rotates a word to the left. -/
def rotate (x : UInt64) (k : UInt64) : UInt64 := (x <<< k) ||| (x >>> (64 - k))

/-- The word of some bytes, the least significant first. -/
def word (bytes : List UInt8) : UInt64 := bytes.foldr (fun b acc => (acc <<< 8) ||| b.toUInt64) 0

/-- One round of a lane. -/
def mix (acc input : UInt64) : UInt64 := rotate (acc + input * prime2) 31 * prime1

/-- Takes a lane into the result. -/
def merge (h lane : UInt64) : UInt64 := (h ^^^ mix 0 lane) * prime1 + prime4

/-- The four lanes. -/
structure Lanes where
  /-- The first lane. -/
  a : UInt64 := prime1 + prime2
  /-- The second lane. -/
  b : UInt64 := prime2
  /-- The third lane. -/
  c : UInt64 := 0
  /-- The fourth lane. -/
  d : UInt64 := 0 - prime1

namespace Lanes

/-- Absorbs a stripe. -/
def absorb (l : Lanes) (stripe : List UInt8) : Lanes where
  a := mix l.a (word (stripe.take 8))
  b := mix l.b (word ((stripe.drop 8).take 8))
  c := mix l.c (word ((stripe.drop 16).take 8))
  d := mix l.d (word ((stripe.drop 24).take 8))

/-- Absorbs a number of stripes. -/
def absorbAll (l : Lanes) : Nat → List UInt8 → Lanes
  | 0, _ => l
  | n + 1, bytes => (l.absorb (bytes.take 32)).absorbAll n (bytes.drop 32)

/-- The result of the lanes. -/
def join (l : Lanes) : UInt64 :=
  let h := rotate l.a 1 + rotate l.b 7 + rotate l.c 12 + rotate l.d 18
  merge (merge (merge (merge h l.a) l.b) l.c) l.d

end Lanes

/-- Absorbs a number of words. -/
def absorbWords (h : UInt64) : Nat → List UInt8 → UInt64
  | 0, _ => h
  | n + 1, bytes =>
    absorbWords (rotate (h ^^^ mix 0 (word (bytes.take 8))) 27 * prime1 + prime4) n (bytes.drop 8)

/-- Absorbs half a word. -/
def absorbHalf (h : UInt64) (bytes : List UInt8) : UInt64 :=
  rotate (h ^^^ (word bytes * prime1)) 23 * prime2 + prime3

/-- Absorbs single bytes. -/
def absorbBytes (h : UInt64) (bytes : List UInt8) : UInt64 :=
  bytes.foldl (fun h b => rotate (h ^^^ (b.toUInt64 * prime5)) 11 * prime1) h

/-- Spreads the result over all bits. -/
def finish (h : UInt64) : UInt64 :=
  let h := (h ^^^ (h >>> 33)) * prime2
  let h := (h ^^^ (h >>> 29)) * prime3
  h ^^^ (h >>> 32)

/-- The hash of some bytes. -/
def ofBytes (bytes : List UInt8) : UInt64 :=
  let n := bytes.length
  let h := if 32 ≤ n then (({} : Lanes).absorbAll (n / 32) bytes).join else prime5
  let tail := bytes.drop (n / 32 * 32)
  let h := absorbWords (h + UInt64.ofNat n) (n % 32 / 8) tail
  let tail := tail.drop (n % 32 / 8 * 8)
  if 4 ≤ n % 8 then finish (absorbBytes (absorbHalf h (tail.take 4)) (tail.drop 4))
  else finish (absorbBytes h tail)

/-- The digest of a text. -/
def ofText (text : String) : UInt64 := ofBytes text.toUTF8.toList

/-- The written form: hexadecimal, without leading zeros. -/
def text (d : UInt64) : String := Numeral.hex d.toNat

/-- Reads a digest. -/
def read? (text : String) : Option UInt64 :=
  match Numeral.readNat? 16 text.toList with
  | some n => if n < UInt64.size then some (UInt64.ofNat n) else none
  | none => none

end Digest
end DoomPatch
