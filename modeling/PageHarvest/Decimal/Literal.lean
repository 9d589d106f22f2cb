import PageHarvest.Text.Case
import PageHarvest.Text.Letter

/-!
# Reading decimal numbers

`readNumeral?` reads a decimal: a sign or none, digits with a point or none, at least one digit in
all, and an exponent or none. The value is the binary number nearest to it. `readFloat?` also
admits the words `inf`, `infinity` and `nan` in any case.
-/

namespace PageHarvest.Decimal

open Text

/-- The number that the digits stand for, after the digits already read. -/
def digitsValue (cs : List Char) (before : Nat) : Nat :=
  cs.foldl (fun n c => 10 * n + (c.toNat - '0'.toNat)) before

/-- The binary number nearest to `m · 10 ^ e`. Exponents beyond every such number are cut off
first, so that no power of ten grows without bound. -/
def nearest (m : Nat) (e : Int) : Float :=
  let top := (Nat.toDigits 10 m).length + e
  if m = 0 ∨ top < -400 then 0.0
  else if 400 < top then 1.0 / 0.0
  else if 0 ≤ e then Float.ofScientific m false e.toNat
  else Float.ofScientific m true (-e).toNat

/-- The parts of a decimal without its sign. -/
structure Numeral where
  whole : List Char
  fraction : List Char
  exponent : Int

def Numeral.value (n : Numeral) : Float :=
  nearest (digitsValue (n.whole ++ n.fraction) 0) (n.exponent - n.fraction.length)

/-- An exponent after its letter: a sign or none, then digits up to the end. -/
def readExponent? (cs : List Char) : Option Int :=
  let (negative, ds) := match cs with
    | '-' :: r => (true, r)
    | '+' :: r => (false, r)
    | r => (false, r)
  if ds.isEmpty || !ds.all isAsciiDigit then none
  else some (if negative then -(digitsValue ds 0 : Int) else digitsValue ds 0)

/-- A decimal without a sign. -/
def readUnsigned? (cs : List Char) : Option Numeral :=
  let whole := cs.takeWhile isAsciiDigit
  let rest := cs.dropWhile isAsciiDigit
  let (fraction, rest) := match rest with
    | '.' :: r => (r.takeWhile isAsciiDigit, r.dropWhile isAsciiDigit)
    | r => ([], r)
  if whole.isEmpty && fraction.isEmpty then none
  else
    match rest with
    | [] => some ⟨whole, fraction, 0⟩
    | c :: r =>
      if c = 'e' ∨ c = 'E' then (readExponent? r).map (⟨whole, fraction, ·⟩) else none

/-- Whether there is a minus sign, and what follows a sign. -/
def splitSign : List Char → Bool × List Char
  | '-' :: r => (true, r)
  | '+' :: r => (false, r)
  | r => (false, r)

/-- A decimal with or without a sign. -/
def readNumeral? (cs : List Char) : Option Float :=
  let (negative, r) := splitSign cs
  (readUnsigned? r).map fun n => if negative then -n.value else n.value

/-- A decimal, or one of the words for infinity and for no number. -/
def readFloat? (cs : List Char) : Option Float :=
  let (negative, r) := splitSign cs
  let word := r.map asciiLowerChar
  if word = "inf".toList ∨ word = "infinity".toList then
    some (if negative then -1.0 / 0.0 else 1.0 / 0.0)
  else if word = "nan".toList then some (0.0 / 0.0)
  else readNumeral? cs

end PageHarvest.Decimal
