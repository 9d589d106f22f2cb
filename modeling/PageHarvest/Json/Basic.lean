import PageHarvest.Data.Entries
import PageHarvest.Decimal.Binary64

/-!
# JSON values

Objects keep the order of their entries. A number is an integer of 64 bits or a binary floating
point number, and the two stay apart: `5` and `5.0` are different values with the same size.

`Json.same` is equality of values, where the order of object entries does not count.
-/

namespace PageHarvest

/-- A JSON number: an integer between `-2^63` and `2^64 - 1`, or a floating point number. -/
inductive Number
  | int (n : Int)
  | float (f : Float)

namespace Number

def toFloat : Number → Float
  | .int n => Float.ofInt n
  | .float f => f

def same : Number → Number → Bool
  | .int a, .int b => a == b
  | .float a, .float b => a == b
  | _, _ => false

/-- The least integer that is kept as an integer. -/
def minInt : Int := -Nat.pow 2 63

/-- The greatest integer that is kept as an integer. -/
def maxInt : Int := Nat.pow 2 64 - 1

/-- The natural number, if it is at most `limit`. -/
def nat? (limit : Nat) : Number → Option Nat
  | .int n => if 0 ≤ n ∧ n ≤ limit then some n.toNat else none
  | .float _ => none

end Number

inductive Json
  | null
  | bool (b : Bool)
  | num (n : Number)
  | str (s : String)
  | arr (items : List Json)
  | obj (entries : List (String × Json))

namespace Json

instance : Inhabited Json := ⟨.null⟩

/-- An integer value. -/
def int (n : Int) : Json := .num (.int n)

/-- An optional value, null if there is none. -/
def ofOption {α : Type} (f : α → Json) : Option α → Json
  | some a => f a
  | none => .null

mutual

/-- Equality of values, whatever the order of object entries. -/
def same : Json → Json → Bool
  | .null, .null => true
  | .bool a, .bool b => a == b
  | .num a, .num b => a.same b
  | .str a, .str b => a == b
  | .arr a, .arr b => sameItems a b
  | .obj a, .obj b => a.length == b.length && sameEntries a b
  | _, _ => false

def sameItems : List Json → List Json → Bool
  | [], [] => true
  | a :: as, b :: bs => same a b && sameItems as bs
  | _, _ => false

/-- Whether every entry of the first list has the same value in the second. -/
def sameEntries : List (String × Json) → List (String × Json) → Bool
  | [], _ => true
  | (k, a) :: rest, bs =>
    (match Entries.get? k bs with
      | some b => same a b
      | none => false) && sameEntries rest bs

end

mutual

/-- Merges repeated keys everywhere: each keeps its first place and takes its last value. -/
def collapse : Json → Json
  | .arr items => .arr (collapseItems items)
  | .obj entries => .obj (Entries.ofList (collapseEntries entries))
  | other => other

def collapseItems : List Json → List Json
  | [] => []
  | a :: rest => collapse a :: collapseItems rest

def collapseEntries : List (String × Json) → List (String × Json)
  | [] => []
  | (k, a) :: rest => (k, collapse a) :: collapseEntries rest

end

end Json

end PageHarvest
