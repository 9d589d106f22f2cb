import PageHarvest.Decimal.Shortest
import PageHarvest.Json.Basic

/-!
# JSON text

`compact` writes a value without any blank. `pretty` writes one entry per line with two blanks
per level. Characters below U+0020, quotes and backslashes are escaped, all others stand for
themselves. A floating point number has the fewest digits that read back and always a point or an
exponent; one that is not finite is written as null.
-/

namespace PageHarvest.Json

def hexDigit (n : Nat) : Char := if n < 10 then Char.ofNat (48 + n) else Char.ofNat (87 + n)

/-- How a character is written inside a string. -/
def escapeChar (c : Char) : List Char :=
  if c = '"' then ['\\', '"']
  else if c = '\\' then ['\\', '\\']
  else if c = '\x08' then ['\\', 'b']
  else if c = '\x0c' then ['\\', 'f']
  else if c = '\n' then ['\\', 'n']
  else if c = '\r' then ['\\', 'r']
  else if c = '\t' then ['\\', 't']
  else if c.toNat < 0x20 then
    ['\\', 'u', '0', '0', hexDigit (c.toNat / 16), hexDigit (c.toNat % 16)]
  else [c]

def quoteChars (cs : List Char) : List Char := '"' :: (cs.flatMap escapeChar ++ ['"'])

def integerChars (n : Int) : List Char :=
  if n < 0 then '-' :: Decimal.digits n.natAbs else Decimal.digits n.natAbs

def numberChars : Number → List Char
  | .int n => integerChars n
  | .float f => (Decimal.render? Decimal.Scaled.pointed f).getD ['n', 'u', 'l', 'l']

mutual

def compactChars : Json → List Char
  | .null => ['n', 'u', 'l', 'l']
  | .bool true => ['t', 'r', 'u', 'e']
  | .bool false => ['f', 'a', 'l', 's', 'e']
  | .num n => numberChars n
  | .str s => quoteChars s.toList
  | .arr items => '[' :: (compactItems items ++ [']'])
  | .obj entries => '{' :: (compactEntries entries ++ ['}'])

def compactItems : List Json → List Char
  | [] => []
  | [a] => compactChars a
  | a :: b :: rest => compactChars a ++ ',' :: compactItems (b :: rest)

def compactEntries : List (String × Json) → List Char
  | [] => []
  | [(k, a)] => quoteChars k.toList ++ ':' :: compactChars a
  | (k, a) :: e :: rest =>
    quoteChars k.toList ++ ':' :: (compactChars a ++ ',' :: compactEntries (e :: rest))

end

/-- A line end and the blanks of a level. -/
def newline (level : Nat) : List Char := '\n' :: List.replicate (2 * level) ' '

mutual

/-- The lines of a value whose first line is already indented to the level. -/
def prettyChars (level : Nat) : Json → List Char
  | .arr [] => ['[', ']']
  | .arr (a :: rest) => '[' :: (prettyItems (level + 1) (a :: rest) ++ newline level ++ [']'])
  | .obj [] => ['{', '}']
  | .obj (e :: rest) => '{' :: (prettyEntries (level + 1) (e :: rest) ++ newline level ++ ['}'])
  | .null => ['n', 'u', 'l', 'l']
  | .bool true => ['t', 'r', 'u', 'e']
  | .bool false => ['f', 'a', 'l', 's', 'e']
  | .num n => numberChars n
  | .str s => quoteChars s.toList

def prettyItems (level : Nat) : List Json → List Char
  | [] => []
  | [a] => newline level ++ prettyChars level a
  | a :: b :: rest => newline level ++ prettyChars level a ++ ',' :: prettyItems level (b :: rest)

def prettyEntries (level : Nat) : List (String × Json) → List Char
  | [] => []
  | [(k, a)] => newline level ++ quoteChars k.toList ++ ':' :: ' ' :: prettyChars level a
  | (k, a) :: e :: rest =>
    newline level ++ quoteChars k.toList ++ ':' :: ' ' ::
      (prettyChars level a ++ ',' :: prettyEntries level (e :: rest))

end

def compact (j : Json) : String := String.ofList (compactChars j)

def pretty (j : Json) : String := String.ofList (prettyChars 0 j)

end PageHarvest.Json
