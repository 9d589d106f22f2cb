/-!
# Sets of code points

A set of code points is kept as the increasing list of the places where membership changes, the
first of them from outside to inside. A range `[a, b]` is the list `[a, b + 1]`. Union,
intersection and complement work on these lists, and one function, `combine`, does all binary
operations.

Long tables are kept as text. `Packed.numbers` reads the numbers of a text, which stand in base 26
one after the other: small letters are last digits and capitals the digits in front of them. Tables
with ascending keys hold the distances between them; `Packed.totals` and `Packed.lists` give the
keys back, and `unpack` reads a set.
-/

namespace PageHarvest.Text.Packed

/-- The numbers in characters, given the value of the digits in front of them. -/
def numbersFrom (leading : Nat) : List Char → List Nat
  | [] => []
  | c :: cs =>
    if 'a' ≤ c then (26 * leading + (c.toNat - 'a'.toNat)) :: numbersFrom 0 cs
    else numbersFrom (26 * leading + (c.toNat - 'A'.toNat)) cs

/-- The numbers that the lines hold. -/
def numbers (lines : List String) : List Nat := numbersFrom 0 (lines.flatMap (·.toList))

/-- What each number comes to with all in front of it and a start. -/
def totals (start : Nat) : List Nat → List Nat
  | [] => []
  | n :: ns => (start + n) :: totals (start + n) ns

/-- Lists under ascending keys: the distance from the key in front, the length, and the items. -/
def lists (key : Nat) : List Nat → List (Nat × List Nat)
  | gap :: n :: rest => (key + gap, rest.take n) :: lists (key + gap) (rest.drop n)
  | _ => []
termination_by ns => ns.length
decreasing_by
  simp only [List.length_drop, List.length_cons]
  omega

end PageHarvest.Text.Packed

namespace PageHarvest.Text

/-- A set of code points, as the places where membership changes. -/
structure CodeSet where
  bounds : List Nat
  deriving Repr, DecidableEq

namespace CodeSet

/-- Membership of `n`, starting from the state `inside` in front of the bounds. -/
def memberFrom (n : Nat) : List Nat → Bool → Bool
  | [], inside => inside
  | b :: bs, inside => if n < b then inside else memberFrom n bs (!inside)

/-- Whether the code point is in the set. -/
def contains (s : CodeSet) (n : Nat) : Bool := memberFrom n s.bounds false

/-- Whether the character is in the set. -/
def mem (s : CodeSet) (c : Char) : Bool := s.contains c.toNat

/-- The first number that is no code point. -/
def limit : Nat := 0x110000

def empty : CodeSet := ⟨[]⟩

/-- All code points that are characters, which the surrogates are not. -/
def full : CodeSet := ⟨[0, 0xd800, 0xe000, limit]⟩

/-- The code points from `a` to `b`, both included. -/
def range (a b : Nat) : CodeSet := ⟨[a, b + 1]⟩

def single (a : Nat) : CodeSet := range a a

/-- The bounds of the set `{ n | f (n ∈ a) (n ∈ b) }`, by a sweep over both lists. `out` tells
whether the sweep stands inside the result. -/
def combineBounds (f : Bool → Bool → Bool) :
    List Nat → Bool → List Nat → Bool → Bool → List Nat
  | [], _, [], _, _ => []
  | x :: xs, ia, [], ib, out =>
    let now := f (!ia) ib
    if now = out then combineBounds f xs (!ia) [] ib out
    else x :: combineBounds f xs (!ia) [] ib now
  | [], ia, y :: ys, ib, out =>
    let now := f ia (!ib)
    if now = out then combineBounds f [] ia ys (!ib) out
    else y :: combineBounds f [] ia ys (!ib) now
  | x :: xs, ia, y :: ys, ib, out =>
    if x < y then
      let now := f (!ia) ib
      if now = out then combineBounds f xs (!ia) (y :: ys) ib out
      else x :: combineBounds f xs (!ia) (y :: ys) ib now
    else if y < x then
      let now := f ia (!ib)
      if now = out then combineBounds f (x :: xs) ia ys (!ib) out
      else y :: combineBounds f (x :: xs) ia ys (!ib) now
    else
      let now := f (!ia) (!ib)
      if now = out then combineBounds f xs (!ia) ys (!ib) out
      else x :: combineBounds f xs (!ia) ys (!ib) now
termination_by xs _ ys => xs.length + ys.length

/-- The set of the code points `n` with `f (n ∈ a) (n ∈ b)`; `f false false` must be false. -/
def combine (f : Bool → Bool → Bool) (a b : CodeSet) : CodeSet :=
  ⟨combineBounds f a.bounds false b.bounds false false⟩

def union (a b : CodeSet) : CodeSet := combine or a b

def inter (a b : CodeSet) : CodeSet := combine and a b

/-- The members of `a` that are not in `b`. -/
def diff (a b : CodeSet) : CodeSet := combine (fun x y => x && !y) a b

/-- The code points in exactly one of the two sets. -/
def symmDiff (a b : CodeSet) : CodeSet := combine xor a b

def compl (a : CodeSet) : CodeSet := diff full a

def isEmpty (a : CodeSet) : Bool := a.bounds.isEmpty

/-- The ranges of the set, both ends included. -/
def ranges (s : CodeSet) : List (Nat × Nat) := pairUp s.bounds
where
  pairUp : List Nat → List (Nat × Nat)
    | a :: b :: rest => (a, b - 1) :: pairUp rest
    | _ => []

/-- The set whose bounds lie at the distances that the lines hold. -/
def unpack (lines : List String) : CodeSet := ⟨Packed.totals 0 (Packed.numbers lines)⟩

end CodeSet

end PageHarvest.Text
