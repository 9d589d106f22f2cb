import PageHarvest.Decimal.Literal
import PageHarvest.Text.Blank

/-!
# Points in time

An instant is a count of seconds since the start of 1970 in UTC and a part of a second. It is read
from a date, a time and an offset, and written in UTC.
-/

namespace PageHarvest

structure Instant where
  /-- Whole seconds since the start of 1970, leap seconds not counted. -/
  seconds : Int
  /-- Nanoseconds; a whole second or more stands for a leap second. -/
  nanos : Nat
  deriving DecidableEq, Repr

namespace Instant

open Text

/-! ## Dates -/

structure Date where
  year : Int
  month : Nat
  day : Nat
  deriving DecidableEq, Repr

namespace Date

def isLeapYear (y : Int) : Bool := y % 4 = 0 && (y % 100 ≠ 0 || y % 400 = 0)

def daysInMonth (y : Int) (m : Nat) : Nat :=
  match m with
  | 2 => if isLeapYear y then 29 else 28
  | 4 | 6 | 9 | 11 => 30
  | _ => 31

def isValid (d : Date) : Bool :=
  1 ≤ d.month && d.month ≤ 12 && 1 ≤ d.day && d.day ≤ daysInMonth d.year d.month

/-- Days since the start of 1970. A year is counted from March on, so that the day to be added in
leap years is its last one. -/
def toDays (d : Date) : Int :=
  let y := if d.month ≤ 2 then d.year - 1 else d.year
  let m := (d.month + 9) % 12
  let dayOfYear := (153 * m + 2) / 5 + d.day - 1
  365 * y + y / 4 - y / 100 + y / 400 + dayOfYear - 719468

/-- The date of a number of days since the start of 1970. -/
def ofDays (days : Int) : Date :=
  let z := days + 719468
  let era := z / 146097
  let dayOfEra := (z % 146097).toNat
  let yearOfEra := (dayOfEra - dayOfEra / 1460 + dayOfEra / 36524 - dayOfEra / 146096) / 365
  let dayOfYear := dayOfEra - (365 * yearOfEra + yearOfEra / 4 - yearOfEra / 100)
  let m := (5 * dayOfYear + 2) / 153
  let month := if m < 10 then m + 3 else m - 9
  let year := yearOfEra + era * 400
  ⟨if month ≤ 2 then year + 1 else year, month, dayOfYear - (153 * m + 2) / 5 + 1⟩

end Date

/-! ## Writing -/

/-- A number with at least so many digits. -/
def padded (width n : Nat) : String :=
  let ds := Nat.toDigits 10 n
  String.ofList (List.replicate (width - ds.length) '0' ++ ds)

def yearText (y : Int) : String :=
  if 0 ≤ y ∧ y ≤ 9999 then padded 4 y.toNat
  else (if y < 0 then "-" else "+") ++ padded 4 y.natAbs

/-- The part of a second in thousandths, millionths or billionths, as many as it takes. -/
def fractionText (nanos : Nat) : String :=
  if nanos = 0 then ""
  else if nanos % 1000000 = 0 then "." ++ padded 3 (nanos / 1000000)
  else if nanos % 1000 = 0 then "." ++ padded 6 (nanos / 1000)
  else "." ++ padded 9 nanos

/-- The instant in UTC. -/
def text (t : Instant) : String :=
  let d := Date.ofDays (t.seconds / 86400)
  let s := (t.seconds % 86400).toNat
  yearText d.year ++ "-" ++ padded 2 d.month ++ "-" ++ padded 2 d.day ++ "T" ++
    padded 2 (s / 3600) ++ ":" ++ padded 2 (s / 60 % 60) ++ ":" ++
    padded 2 (s % 60 + t.nanos / 1000000000) ++ fractionText (t.nanos % 1000000000) ++ "Z"

/-! ## Reading -/

/-- Up to so many digits, at least one. -/
def readDigits? (width : Nat) (cs : List Char) : Option (Nat × List Char) :=
  let ds := (cs.take width).takeWhile isAsciiDigit
  if ds.isEmpty then none else some (Decimal.digitsValue ds 0, cs.drop ds.length)

/-- A number after blanks. -/
def readNumber? (width : Nat) (cs : List Char) : Option (Nat × List Char) :=
  readDigits? width (trimStartChars cs)

/-- A year: up to four digits, or any number of digits right after a sign. -/
def readYear? (cs : List Char) : Option (Int × List Char) :=
  match trimStartChars cs with
  | '-' :: rest => (readDigits? rest.length rest).map fun r => (-(r.1 : Int), r.2)
  | '+' :: rest => (readDigits? rest.length rest).map fun r => ((r.1 : Int), r.2)
  | rest => (readDigits? 4 rest).map fun r => ((r.1 : Int), r.2)

/-- A mark after blanks. -/
def readMark? (c : Char) (cs : List Char) : Option (List Char) :=
  match trimStartChars cs with
  | d :: rest => if c = d then some rest else none
  | [] => none

def readDate? (cs : List Char) : Option (Date × List Char) := do
  let (year, cs) ← readYear? cs
  let cs ← readMark? '-' cs
  let (month, cs) ← readNumber? 2 cs
  let cs ← readMark? '-' cs
  let (day, cs) ← readNumber? 2 cs
  return (⟨year, month, day⟩, cs)

/-- The nanoseconds of a fraction of which nine digits count. -/
def readFraction? : List Char → Option (Nat × List Char)
  | '.' :: cs =>
    let ds := cs.takeWhile isAsciiDigit
    let counted := ds.take 9
    if ds.isEmpty then none
    else some (Decimal.digitsValue counted 0 * Nat.pow 10 (9 - counted.length), cs.drop ds.length)
  | cs => some (0, cs)

/-- The second of a day and the nanoseconds; second 60 is a leap second. -/
def readTime? (cs : List Char) : Option (Nat × Nat × List Char) := do
  let (hour, cs) ← readNumber? 2 cs
  let cs ← readMark? ':' cs
  let (minute, cs) ← readNumber? 2 cs
  let cs ← readMark? ':' cs
  let (second, cs) ← readNumber? 2 cs
  let (nanos, cs) ← readFraction? cs
  if 23 < hour ∨ 59 < minute ∨ 60 < second then none
  else if second = 60 then return (3600 * hour + 60 * minute + 59, nanos + 1000000000, cs)
  else return (3600 * hour + 60 * minute + second, nanos, cs)

/-- Two digits for hours and two for minutes, with a colon between or without. -/
def readOffset? (cs : List Char) : Option (Nat × List Char) :=
  match cs with
  | a :: b :: rest =>
    match rest.dropWhile fun c => c = ':' || isBlank c with
    | c :: d :: rest =>
      if [a, b, c, d].all isAsciiDigit && c < '6' then
        let hours := Decimal.digitsValue [a, b] 0
        if hours < 24 then some (3600 * hours + 60 * Decimal.digitsValue [c, d] 0, rest) else none
      else none
    | _ => none
  | _ => none

def isZulu (cs : List Char) : Bool := cs.map asciiLowerChar == ['u', 't', 'c']

/-- The seconds that the local time is ahead of UTC. -/
def readZone? (cs : List Char) : Option (Int × List Char) :=
  match cs with
  | [] => none
  | c :: rest =>
    if isZulu (cs.take 3) then some (0, cs.drop 3)
    else if c = 'Z' ∨ c = 'z' then some (0, rest)
    else if c = '+' then (readOffset? rest).map fun r => ((r.1 : Int), r.2)
    else if c = '-' ∨ c.toNat = 0x2212 then
      (readOffset? rest).map fun r => (-(r.1 : Int), r.2)
    else none

/-- The mark between a date and a time. -/
def readSeparator? : List Char → Option (List Char)
  | c :: rest => if c = 'T' ∨ c = 't' ∨ c = ' ' then some rest else none
  | [] => none

/-- The years that a date may have. -/
def isYearInRange (y : Int) : Bool := -262143 ≤ y && y ≤ 262142

/-- The instant that a text denotes. Its year has to be in range at the offset and in UTC. -/
def read? (s : String) : Option Instant := do
  let (date, cs) ← readDate? s.toList
  let cs ← readSeparator? cs
  let (second, nanos, cs) ← readTime? cs
  let (ahead, cs) ← readZone? (trimStartChars cs)
  if !cs.all isBlank || !date.isValid || !isYearInRange date.year then none
  else
    let seconds := date.toDays * 86400 + second - ahead
    if isYearInRange (Date.ofDays (seconds / 86400)).year then return ⟨seconds, nanos⟩ else none

end Instant

end PageHarvest
