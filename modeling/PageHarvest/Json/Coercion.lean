import PageHarvest.Decimal.Literal
import PageHarvest.Json.Printer
import PageHarvest.Text.Blank

/-!
# Values as texts, numbers and truth values

A value may be missing, which is not the same as null: `Option Json` stands for both. Every value
has a text (`display`), a number (`toFloat`, not a number where there is none to read) and a truth
value. `strictEq` compares without any of these readings; `looseEq` reads booleans, numbers and
numeric texts as numbers and takes null and missing as one.
-/

namespace PageHarvest.Json

open Text

/-! ## Numbers -/

/-- The integers below this size are the floating point numbers below it that are integral. -/
def exactLimit : Nat := Nat.pow 2 53

/-- A floating point number as a value: an integer if it is one of moderate size, null if it is
not finite. -/
def ofFloat (f : Float) : Json :=
  match Decimal.parts f with
  | .nan | .infinite _ => .null
  | p =>
    match p.integer? with
    | some n => if n.natAbs < exactLimit then .int n else .num (.float f)
    | none => .num (.float f)

/-- A natural number as a value, by way of floating point numbers. -/
def ofNat (n : Nat) : Json := ofFloat (Float.ofNat n)

/-- The text of a floating point number: an integer below `10^21` in full, anything else with the
fewest digits that read back, never with an exponent. -/
def formatFloat (f : Float) : String :=
  match Decimal.parts f with
  | .nan => "NaN"
  | .infinite negative => if negative then "-Infinity" else "Infinity"
  | p =>
    match p.integer? with
    | some n =>
      if n.natAbs < Nat.pow 10 21 then String.ofList (integerChars n) else shortestText
    | none => shortestText
where
  shortestText : String :=
    String.ofList ((Decimal.render? Decimal.Scaled.plain f).getD [])

def numberText : Number → String
  | .int n => String.ofList (integerChars n)
  | .float f => formatFloat f

/-- The number that a text reads as: zero for blanks alone, and nothing but decimals and words for
infinity otherwise. -/
def readNumeric (s : String) : Float :=
  let cs := trimChars s.toList
  if cs.isEmpty then 0.0 else (Decimal.readFloat? cs).getD (0.0 / 0.0)

/-! ## Readings of a value -/

mutual

def displayOf : Json → String
  | .null => ""
  | .bool b => if b then "true" else "false"
  | .num n => numberText n
  | .str s => s
  | .arr items => ",".intercalate (displayItems items)
  | .obj entries => compact (.obj entries)

def displayItems : List Json → List String
  | [] => []
  | a :: rest => displayOf a :: displayItems rest

end

/-- The text of a value; null and missing have the empty text. -/
def display : Option Json → String
  | none => ""
  | some v => displayOf v

def floatOf : Json → Float
  | .null => 0.0
  | .bool b => if b then 1.0 else 0.0
  | .num n => n.toFloat
  | .str s => readNumeric s
  | .arr [] => 0.0
  | .arr [a] => floatOf a
  | .arr (_ :: _ :: _) => 0.0 / 0.0
  | .obj _ => 0.0 / 0.0

/-- The number of a value. -/
def toFloat : Option Json → Float
  | none => 0.0 / 0.0
  | some v => floatOf v

def isNullish : Option Json → Bool
  | none | some .null => true
  | _ => false

/-- Missing, null, the empty text and the empty array. -/
def isEmpty : Option Json → Bool
  | none | some .null => true
  | some (.str s) => s == ""
  | some (.arr items) => items.isEmpty
  | _ => false

def isTruthy : Option Json → Bool
  | none | some .null => false
  | some (.bool b) => b
  | some (.num n) => n.toFloat != 0.0 && !n.toFloat.isNaN
  | some (.str s) => s != ""
  | some (.arr _) | some (.obj _) => true

/-! ## Equality -/

/-- Equality without readings; two numbers are equal if they have the same size. -/
def strictEq : Option Json → Option Json → Bool
  | none, none => true
  | some (.num a), some (.num b) => a.toFloat == b.toFloat
  | some a, some b => a.same b
  | _, _ => false

/-- Whether the two are compared as numbers. -/
def comparesAsNumbers : Option Json → Option Json → Bool
  | some (.bool _), _ | _, some (.bool _) => true
  | some (.num _), some (.str _) | some (.str _), some (.num _) => true
  | _, _ => false

def looseEq (a b : Option Json) : Bool :=
  if isNullish a || isNullish b then isNullish a && isNullish b
  else if comparesAsNumbers a b then toFloat a == toFloat b
  else strictEq a b

end PageHarvest.Json
