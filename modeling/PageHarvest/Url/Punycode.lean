import PageHarvest.Text.Letter

/-!
# Punycode

A text as letters, digits and dashes. The ASCII characters come first; the others follow as
numbers of variable length that say, in the order of the characters' codes, where each is inserted.
The thresholds between the digits of a number adapt to the numbers before it. `encode` writes a text
in this form and `decode?` reads it.
-/

namespace PageHarvest.Url.Punycode

/-- A digit to base 36. -/
def digit (n : Nat) : Char :=
  if n < 26 then Char.ofNat ('a'.toNat + n) else Char.ofNat ('0'.toNat + n - 26)

/-- The threshold at a position, between 1 and 26. -/
def threshold (position bias : Nat) : Nat :=
  if position ≤ bias then 1 else if bias + 26 ≤ position then 26 else position - bias

/-- The digits of a number from a position on. The rest is smaller, since a threshold is at least
one and at most 26. -/
def digits (bias position n : Nat) : List Char :=
  let t := threshold position bias
  if n < t then [digit n]
  else digit (t + (n - t) % (36 - t)) :: digits bias (position + 36) ((n - t) / (36 - t))
termination_by n
decreasing_by
  have h : 1 ≤ threshold position bias := by
    unfold threshold
    split
    · exact Nat.le_refl 1
    · split <;> omega
  exact Nat.lt_of_le_of_lt (Nat.div_le_self _ _) (by omega)

/-- Divides until the number is small; the positions that this takes. -/
def scaleDown (delta position : Nat) : Nat × Nat :=
  if 455 < delta then scaleDown (delta / 35) (position + 36) else (delta, position)
termination_by delta
decreasing_by exact Nat.div_lt_self (by omega) (by omega)

/-- The bias after a number, with the count of characters written. -/
def adapt (delta count : Nat) (isFirst : Bool) : Nat :=
  let delta := if isFirst then delta / 700 else delta / 2
  let (delta, position) := scaleDown (delta + delta / count) 0
  position + 36 * delta / (delta + 38)

/-- What is known while the characters are written. -/
structure State where
  written : List Char
  delta : Nat
  bias : Nat
  count : Nat

/-- Passes over a character of the text while the characters with code `n` are written. -/
def pass (basic n : Nat) (s : State) (c : Char) : State :=
  if c.toNat < n then { s with delta := s.delta + 1 }
  else if c.toNat = n then
    ⟨s.written ++ digits s.bias 36 s.delta, 0, adapt s.delta (s.count + 1) (s.count == basic),
      s.count + 1⟩
  else s

/-- Writes the characters with the given codes, in ascending order. -/
def writeAll (cs : List Char) (basic : Nat) : List Nat → Nat → State → State
  | [], _, s => s
  | n :: rest, least, s =>
    let s := { s with delta := s.delta + (n - least) * (s.count + 1) }
    let s := cs.foldl (pass basic n) s
    writeAll cs basic rest (n + 1) { s with delta := s.delta + 1 }

/-- Puts a number in its place in an ascending list without repetition. -/
def place (n : Nat) : List Nat → List Nat
  | [] => [n]
  | m :: rest => if n < m then n :: m :: rest else if n = m then m :: rest else m :: place n rest

def encode (cs : List Char) : List Char :=
  let basic := cs.filter Text.isAscii
  let codes := ((cs.filter fun c => !Text.isAscii c).map Char.toNat).foldr place []
  let written := writeAll cs basic.length codes 0x80 ⟨[], 0, 72, basic.length⟩
  basic ++ (if basic.isEmpty then [] else ['-']) ++ written.written

/-! ## Reading -/

def digitValue? (c : Char) : Option Nat :=
  if 'a' ≤ c ∧ c ≤ 'z' then some (c.toNat - 'a'.toNat)
  else if '0' ≤ c ∧ c ≤ '9' then some (c.toNat - '0'.toNat + 26)
  else none

/-- A number from its digits, whose weights grow from position to position; what follows it. -/
def number? (bias : Nat) : Nat → Nat → List Char → Option (Nat × List Char)
  | _, _, [] => none
  | position, weight, c :: rest => do
    let d ← digitValue? c
    let t := threshold position bias
    if d < t then some (d * weight, rest)
    else
      let (n, rest) ← number? bias (position + 36) (weight * (36 - t)) rest
      return (d * weight + n, rest)

/-- The character with a code, if there is one. -/
def charOf? (code : Nat) : Option Char :=
  if code < 0xd800 ∨ (0xe000 ≤ code ∧ code < 0x110000) then some (Char.ofNat code) else none

/-- Inserts characters by their numbers, from the code and the place of the one before on. Every
number takes a digit or more. -/
def insertAll : Nat → Nat → Nat → Nat → Bool → List Char → List Char → Option (List Char)
  | _, _, _, _, _, text, [] => some text
  | 0, _, _, _, _, _, _ :: _ => none
  | fuel + 1, code, place, bias, isFirst, text, ds => do
    let (delta, rest) ← number? bias 36 1 ds
    let count := text.length + 1
    let code := code + (place + delta) / count
    let place := (place + delta) % count
    let c ← charOf? code
    insertAll fuel code (place + 1) (adapt delta count isFirst) false
      (text.take place ++ c :: text.drop place) rest

/-- The text that is written as `cs`, in lower case. The dash in front of the digits stands only
after other characters. -/
def decode? (cs : List Char) : Option (List Char) :=
  let digits := (cs.reverse.takeWhile (· != '-')).reverse
  let front := cs.take (cs.length - digits.length)
  if front.length = 1 then none else insertAll digits.length 0x80 0 72 true front.dropLast digits

end PageHarvest.Url.Punycode
