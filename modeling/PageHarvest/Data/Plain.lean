import PageHarvest.Decimal.Literal
import PageHarvest.Json.Basic

/-!
# Plain words

A word written without quotes may stand for nothing, a truth value or a number; any other word is
the text itself. Integers have digits to base ten, or to base 16, 8 or 2 after `0x`, `0o` or `0b`;
with a leading zero, digits alone are a text.
-/

namespace PageHarvest.Plain

open Text

/-- The words for nothing. -/
def isNull (s : String) : Bool := s == "" || ["~", "null", "Null", "NULL"].contains s

def truth? (s : String) : Option Bool :=
  if ["true", "True", "TRUE"].contains s then some true
  else if ["false", "False", "FALSE"].contains s then some false
  else none

/-- The value of a digit to a base of at most 16. -/
def digit? (base : Nat) (c : Char) : Option Nat :=
  let v? :=
    if isAsciiDigit c then some (c.toNat - '0'.toNat)
    else if 'a' ≤ c && c ≤ 'f' then some (c.toNat - 'a'.toNat + 10)
    else if 'A' ≤ c && c ≤ 'F' then some (c.toNat - 'A'.toNat + 10)
    else none
  v?.filter (· < base)

/-- The number that the digits write, at least one. -/
def digits? (base : Nat) (cs : List Char) : Option Nat :=
  if cs.isEmpty then none else cs.foldlM (fun n c => (digit? base c).map (base * n + ·)) 0

/-- Whether the word has digits alone, more than one, and starts with zero. -/
def isPadded (unsigned : List Char) : Bool :=
  1 < unsigned.length && unsigned.head? == some '0' && unsigned.all isAsciiDigit

/-- An integer without a sign. -/
def unsigned? : List Char → Option Nat
  | '0' :: 'x' :: ds => digits? 16 ds
  | '0' :: 'o' :: ds => digits? 8 ds
  | '0' :: 'b' :: ds => digits? 2 ds
  | ds => if isPadded ds then none else digits? 10 ds

/-- An integer with or without a sign. -/
def integer? : List Char → Option Int
  | '+' :: cs => (unsigned? cs).map Int.ofNat
  | '-' :: cs => (unsigned? cs).map fun n => -(n : Int)
  | cs => (unsigned? cs).map Int.ofNat

/-- A natural number up to the limit. -/
def nat? (limit : Nat) (s : String) : Option Nat :=
  match s.toList with
  | '-' :: _ => none
  | cs => ((integer? cs).map Int.toNat).filter (· ≤ limit)

def isOneOf (words : List String) (cs : List Char) : Bool := words.contains (String.ofList cs)

/-- A floating point number: a finite decimal, or a word for infinity or for no number. -/
def float? (s : String) : Option Float :=
  let (negative, cs) := Decimal.splitSign s.toList
  if isOneOf [".inf", ".Inf", ".INF"] cs then some (if negative then -1.0 / 0.0 else 1.0 / 0.0)
  else if isOneOf [".nan", ".NaN", ".NAN"] s.toList then some (0.0 / 0.0)
  else if isPadded cs then none
  else (Decimal.readNumeral? s.toList).filter Float.isFinite

/-- What a word stands for; nothing for an integer that has no place in 64 bits but in 128. -/
def resolve? (s : String) : Option Json :=
  if isNull s then some .null
  else
    match truth? s with
    | some b => some (.bool b)
    | none =>
      match integer? s.toList with
      | some n =>
        if Number.minInt ≤ n && n ≤ Number.maxInt then some (.int n)
        else if -Nat.pow 2 127 ≤ n && n < Nat.pow 2 128 then none
        else some (floatOrText s)
      | none => some (floatOrText s)
where
  floatOrText (s : String) : Json :=
    match float? s with
    | some f => if f.isFinite then .num (.float f) else .null
    | none => .str s

end PageHarvest.Plain
