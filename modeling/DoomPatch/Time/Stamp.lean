import DoomPatch.Text.Numeral
import DoomPatch.Time.Calendar

/-!
# Time stamps

A stamp is an instant, to the nanosecond, and the offset from universal time in which it was given.  It is
written as date, `T`, time of day, fraction without trailing zeros, and `Z` or the offset.

* `Stamp.text` — the written form.
* `Stamp.read?` — reads it; a fraction may have any number of digits, of which nine count.
* `Stamp.line` — the form for people.
-/

namespace DoomPatch

/-- An instant. -/
structure Stamp where
  /-- Seconds since the beginning of 1970, universal time. -/
  seconds : Int
  /-- Nanoseconds within the second. -/
  nanos : Nat := 0
  /-- Minutes east of universal time. -/
  offset : Int := 0
deriving DecidableEq, Repr

namespace Stamp

/-- The beginning of the year 1. -/
def zero : Stamp := { seconds := -62135596800 }

/-- The instant in universal time. -/
def utc (s : Stamp) : Stamp := { s with offset := 0 }

/-- The seconds that a clock at the offset has counted. -/
def localSeconds (s : Stamp) : Int := s.seconds + s.offset * 60

/-- The date at the offset. -/
def date (s : Stamp) : Date := Date.ofNumber (s.localSeconds / 86400)

/-- The time of day at the offset. -/
def clock (s : Stamp) : Int × Int × Int :=
  let t := s.localSeconds % 86400
  (t / 3600, t / 60 % 60, t % 60)

/-- A year in at least four digits. -/
def yearText (year : Int) : String :=
  (if year < 0 then "-" else "") ++ Numeral.padInt 4 year.natAbs

/-- The date in digits. -/
def dateText (s : Stamp) : String :=
  yearText s.date.year ++ "-" ++ Numeral.padInt 2 s.date.month ++ "-" ++ Numeral.padInt 2 s.date.day

/-- The time of day in digits. -/
def clockText (s : Stamp) : String :=
  Numeral.padInt 2 s.clock.1 ++ ":" ++ Numeral.padInt 2 s.clock.2.1 ++ ":" ++ Numeral.padInt 2 s.clock.2.2

/-- The fraction of the second: nothing if it is zero, otherwise without trailing zeros. -/
def fractionText (s : Stamp) : String :=
  let ds := Numeral.padLeft 9 (Numeral.render 10 s.nanos)
  let kept := (ds.reverse.dropWhile (· == '0')).reverse
  if kept.isEmpty then "" else String.ofList ('.' :: kept)

/-- An offset in digits. -/
def offsetText (offset : Int) (colon : String) : String :=
  (if offset < 0 then "-" else "+")
    ++ Numeral.padInt 2 (offset.natAbs / 60) ++ colon ++ Numeral.padInt 2 (offset.natAbs % 60)

/-- The written form. -/
def text (s : Stamp) : String :=
  s.dateText ++ "T" ++ s.clockText ++ s.fractionText
    ++ (if s.offset = 0 then "Z" else offsetText s.offset ":")

/-- The form for people: no fraction, and the name of the zone. -/
def line (s : Stamp) : String :=
  s.dateText ++ " " ++ s.clockText ++ " " ++ (if s.offset = 0 then "UTC" else offsetText s.offset "")

/-! ### Reading -/

/-- Reads a number of a given width. -/
def digits? (width : Nat) (cs : List Char) : Option (Int × List Char) :=
  let ds := cs.take width
  if ds.length = width then (Numeral.readNat? 10 ds).map fun n => (Int.ofNat n, cs.drop width) else none

/-- Reads a character. -/
def skip? (c : Char) : List Char → Option (List Char)
  | d :: cs => if c = d then some cs else none
  | [] => none

/-- Reads a date. -/
def readDate? (cs : List Char) : Option (Date × List Char) := do
  let (year, cs) ← digits? 4 cs
  let cs ← skip? '-' cs
  let (month, cs) ← digits? 2 cs
  let cs ← skip? '-' cs
  let (day, cs) ← digits? 2 cs
  if (Date.mk year month day).isValid then some (⟨year, month, day⟩, cs) else none

/-- Reads a fraction, if there is one.  Digits behind the ninth do not count. -/
def readFraction? (cs : List Char) : Option (Nat × List Char) :=
  match cs with
  | mark :: rest =>
    let ds := rest.takeWhile Char.isDigit
    if (mark = '.' ∨ mark = ',') ∧ !ds.isEmpty then
      let nine := ds.take 9
      (Numeral.readNat? 10 (nine ++ List.replicate (9 - nine.length) '0')).map fun n =>
        (n, rest.dropWhile Char.isDigit)
    else some (0, cs)
  | [] => some (0, [])

/-- Reads an hour, of which the first digit may be left out. -/
def readHour? (cs : List Char) : Option (Int × List Char) := (digits? 2 cs).orElse fun _ => digits? 1 cs

/-- Reads a time of day as seconds and nanoseconds. -/
def readClock? (cs : List Char) : Option (Int × Nat × List Char) := do
  let (hour, cs) ← readHour? cs
  let cs ← skip? ':' cs
  let (minute, cs) ← digits? 2 cs
  let cs ← skip? ':' cs
  let (second, cs) ← digits? 2 cs
  let (nanos, cs) ← readFraction? cs
  if hour < 24 ∧ minute < 60 ∧ second < 60 then some (hour * 3600 + minute * 60 + second, nanos, cs) else none

/-- Reads an offset in minutes.  A day and an hour are the greatest parts. -/
def readOffset? (cs : List Char) : Option Int :=
  match cs with
  | ['Z'] => some 0
  | sign :: cs =>
    if sign = '+' ∨ sign = '-' then do
      let (hour, cs) ← digits? 2 cs
      let cs ← skip? ':' cs
      let (minute, cs) ← digits? 2 cs
      if cs.isEmpty ∧ hour ≤ 24 ∧ minute ≤ 60 then
        some (if sign = '-' then -(hour * 60 + minute) else hour * 60 + minute)
      else none
    else none
  | [] => none

/-- The stamp of a date, a time of day and an offset. -/
def ofParts (d : Date) (clock : Int) (nanos : Nat) (offset : Int) : Stamp :=
  ⟨d.number * 86400 + clock - offset * 60, nanos, offset⟩

/-- Reads the written form. -/
def read? (text : String) : Option Stamp := do
  let (d, cs) ← readDate? text.toList
  let cs ← skip? 'T' cs
  let (clock, nanos, cs) ← readClock? cs
  let offset ← readOffset? cs
  return ofParts d clock nanos offset

end Stamp
end DoomPatch
