import PageHarvest.Decimal.Binary64

/-!
# The shortest decimal that reads back

Among the decimals that round to a given binary number, `shortest` takes one with the fewest
digits, and of those the nearest to the number. With `n` digits only the two neighbours of the
number on the grid of `n`-digit decimals can be such a decimal, so the search tests those two for
`n = 1, 2, …, 17`.

`plain` writes it without an exponent; `pointed` writes it as data formats do.
-/

namespace PageHarvest.Decimal

/-- The number `coefficient · 10 ^ exponent`. -/
structure Scaled where
  coefficient : Nat
  exponent : Int
  deriving Repr, DecidableEq

/-- The interval of the reals that round to a number, as fractions over one denominator. The ends
belong to it if the significand is even. -/
structure Rounding where
  low : Nat
  mid : Nat
  high : Nat
  den : Nat
  closed : Bool

/-- The interval of `m · 2 ^ q`. Below a power of two the neighbours lie half as far apart. -/
def Rounding.of (m : Nat) (q : Int) : Rounding :=
  let step := if m = Nat.pow 2 52 ∧ q ≠ -1074 then 1 else 2
  let up := Nat.pow 2 (q - 2).toNat
  { low := (4 * m - step) * up, mid := 4 * m * up, high := (4 * m + 2) * up,
    den := Nat.pow 2 (2 - q).toNat, closed := m % 2 = 0 }

/-- How many digits the number has in decimal. -/
def digitCount (n : Nat) : Nat := (Nat.toDigits 10 n).length

/-- The least `j` from the given start on with `den ≤ num · 10 ^ j`, if one is near enough. -/
def leastShift (num den : Nat) : Nat → Nat → Nat
  | 0, j => j
  | fuel + 1, j => if den ≤ num * Nat.pow 10 j then j else leastShift num den fuel (j + 1)

/-- The `e` with `10 ^ e ≤ num / den < 10 ^ (e + 1)`. -/
def magnitude (num den : Nat) : Int :=
  if den ≤ num then (digitCount (num / den) : Int) - 1 else -(leastShift num den 400 1 : Int)

/-- The nearer of the two neighbours on the grid `10 ^ k` that lie in the interval. -/
def Rounding.onGrid? (r : Rounding) (k : Int) : Option Scaled :=
  let up := Nat.pow 10 (-k).toNat
  let d := r.den * Nat.pow 10 k.toNat
  let below := r.mid * up / d
  let inside (x : Nat) : Bool :=
    if r.closed then r.low * up ≤ x * d && x * d ≤ r.high * up
    else r.low * up < x * d && x * d < r.high * up
  let twice := 2 * (r.mid * up - below * d)
  match inside below, inside (below + 1) with
  | true, false => some ⟨below, k⟩
  | false, true => some ⟨below + 1, k⟩
  | true, true =>
    some ⟨if twice < d || (twice == d && below % 2 == 0) then below else below + 1, k⟩
  | false, false => none

/-- Tries one digit more at a time. -/
def Rounding.search (r : Rounding) (e : Int) : Nat → Nat → Scaled
  | 0, n => ⟨r.mid * Nat.pow 10 (n - e).toNat / r.den, e - n⟩
  | fuel + 1, n => (r.onGrid? (e - n)).getD (r.search e fuel (n + 1))

/-- Moves factors of ten from the coefficient to the exponent. -/
def Scaled.strip (d : Scaled) : Scaled := go d.coefficient d
where
  go : Nat → Scaled → Scaled
    | 0, d => d
    | fuel + 1, d =>
      if d.coefficient % 10 = 0 ∧ d.coefficient ≠ 0 then
        go (fuel / 10) ⟨d.coefficient / 10, d.exponent + 1⟩
      else d
  termination_by n => n
  decreasing_by omega

/-- The shortest decimal for `m · 2 ^ q`. -/
def shortest (m : Nat) (q : Int) : Scaled :=
  if m = 0 then ⟨0, 0⟩
  else
    let r := Rounding.of m q
    (r.search (magnitude r.mid r.den) 17 0).strip

def digits (n : Nat) : List Char := Nat.toDigits 10 n

/-- The decimal without an exponent, and without a point if it is an integer. -/
def Scaled.plain (d : Scaled) : List Char :=
  let ds := digits d.coefficient
  if 0 ≤ d.exponent then ds ++ List.replicate d.exponent.toNat '0'
  else
    let places := (-d.exponent).toNat
    if places < ds.length then ds.take (ds.length - places) ++ '.' :: ds.drop (ds.length - places)
    else '0' :: '.' :: List.replicate (places - ds.length) '0' ++ ds

/-- The decimal with a fraction or an exponent: positional for `10 ^ -5 ≤ x < 10 ^ 16`, else with
one digit in front of the point and a signed exponent. -/
def Scaled.pointed (d : Scaled) : List Char :=
  let ds := digits d.coefficient
  let e := d.exponent + ds.length - 1
  if d.coefficient = 0 then ['0', '.', '0']
  else if -5 ≤ e ∧ e < 16 then
    if 0 ≤ d.exponent then d.plain ++ ['.', '0'] else d.plain
  else
    let mantissa := match ds with
      | first :: second :: rest => first :: '.' :: second :: rest
      | short => short
    mantissa ++ 'e' :: (if e < 0 then '-' else '+') :: digits e.natAbs

/-- The text of a finite number by the given form of its decimal, `none` for the others. -/
def render? (form : Scaled → List Char) (f : Float) : Option (List Char) :=
  match parts f with
  | .finite negative m q =>
    let body := form (shortest m q)
    some (if negative then '-' :: body else body)
  | _ => none

end PageHarvest.Decimal
