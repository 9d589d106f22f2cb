import PageHarvest.Json.Printer

/-!
# Writing TOML texts

A text of sections: every section is a header and its entries, and every entry is a truth value, an
integer of 64 bits with a sign, or a text in quotes.
-/

namespace PageHarvest.Toml

/-- A character in quotes. -/
def escapeChar (c : Char) : List Char :=
  if c = '"' ∨ c = '\\' then ['\\', c]
  else if c = '\n' then ['\\', 'n']
  else if 0x20 ≤ c.toNat ∧ c.toNat ≠ 0x7f then [c]
  else
    let ds := (Nat.toDigits 16 c.toNat).map Char.toUpper
    '\\' :: 'u' :: (List.replicate (4 - ds.length) '0' ++ ds)

def writeText (s : String) : List Char := '"' :: (s.toList.flatMap escapeChar ++ ['"'])

def writeValue? : Json → Option (List Char)
  | .bool b => some (toString b).toList
  | .num (.int n) =>
    if -Nat.pow 2 63 ≤ n ∧ n < Nat.pow 2 63 then some (toString n).toList else none
  | .str s => some (writeText s)
  | _ => none

def writeEntry? (e : String × Json) : Option (List Char) :=
  (writeValue? e.2).map fun v => e.1.toList ++ " = ".toList ++ v ++ ['\n']

def writeSection? (s : String × Entries Json) : Option (List Char) := do
  let entries ← s.2.mapM writeEntry?
  return '[' :: (s.1.toList ++ [']', '\n'] ++ entries.flatten)

/-- Sections with an empty line between them; their names and keys are bare. -/
def write? (sections : List (String × Entries Json)) : Option String := do
  let parts ← sections.mapM writeSection?
  return String.ofList (List.intercalate ['\n'] parts)

end PageHarvest.Toml
