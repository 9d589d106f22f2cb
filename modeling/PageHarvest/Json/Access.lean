import PageHarvest.Json.Basic

/-!
# The kinds of JSON values

A value asked for one kind gives what it holds if it is of that kind, and nothing otherwise.
-/

namespace PageHarvest.Json

def text? : Json → Option String
  | .str s => some s
  | _ => none

def truth? : Json → Option Bool
  | .bool b => some b
  | _ => none

def items? : Json → Option (List Json)
  | .arr items => some items
  | _ => none

/-- A natural number up to the limit. -/
def nat? (limit : Nat) : Json → Option Nat
  | .num n => n.nat? limit
  | _ => none

/-- Fields that are written only if they have a value. -/
def field? (name : String) : Option Json → Entries Json
  | some v => [(name, v)]
  | none => []

/-- The greatest number of 64 bits. -/
def max64 : Nat := Nat.pow 2 64 - 1

/-- The greatest number of 32 bits. -/
def max32 : Nat := Nat.pow 2 32 - 1

end PageHarvest.Json
