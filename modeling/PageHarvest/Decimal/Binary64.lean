/-!
# Binary floating point numbers taken apart

A finite number is its sign, its significand and a power of two: `± m · 2^q`. Printing and exact
integer values start from there, in exact arithmetic.
-/

namespace PageHarvest.Decimal

/-- What the bits of a 64-bit number stand for. -/
inductive Parts
  | nan
  | infinite (negative : Bool)
  | finite (negative : Bool) (significand : Nat) (exponent : Int)
  deriving Repr, DecidableEq

/-- The parts of a 64-bit pattern: a sign bit, 11 bits of exponent, 52 bits of fraction. -/
def Parts.ofBits (bits : Nat) : Parts :=
  let negative := bits / Nat.pow 2 63 == 1
  let biased : Nat := bits / Nat.pow 2 52 % Nat.pow 2 11
  let fraction : Nat := bits % Nat.pow 2 52
  if biased = 2047 then
    if fraction = 0 then .infinite negative else .nan
  else if biased = 0 then .finite negative fraction (-1074)
  else .finite negative (Nat.pow 2 52 + fraction) ((biased : Int) - 1075)

def parts (f : Float) : Parts := Parts.ofBits f.toBits.toNat

/-- The exact value, if it is an integer. -/
def Parts.integer? : Parts → Option Int
  | .finite negative m q =>
    let sign : Int := if negative then -1 else 1
    if 0 ≤ q then some (sign * (m * Nat.pow 2 q.toNat : Nat))
    else
      let d := Nat.pow 2 (-q).toNat
      if m % d = 0 then some (sign * (m / d : Nat)) else none
  | _ => none

/-- The exact value of a number that is an integer. -/
def integer? (f : Float) : Option Int := (parts f).integer?

end PageHarvest.Decimal
