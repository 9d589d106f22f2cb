import PageHarvest.Text.CodeSet

/-!
# Sets with names

The tables of character properties are lists of entries. An entry has the names of a property, in
the form in which names are compared, and its characters as a packed set.
-/

namespace PageHarvest.Regex.Property

open Text

/-- A set of characters with the names it goes by, the long one first. -/
structure Entry where
  names : List String
  packed : List String

namespace Entry

/-- The characters of the entry. -/
def chars (e : Entry) : CodeSet := CodeSet.unpack e.packed

end Entry

/-- The entry of a table with the given name. -/
def find? (table : List Entry) (name : String) : Option Entry :=
  table.find? (·.names.contains name)

/-- The characters of the entry with the given name. -/
def chars? (table : List Entry) (name : String) : Option CodeSet := (find? table name).map (·.chars)

/-- The form in which names are compared: ASCII characters in lower case, without blanks, hyphens,
underscores and a leading `is`. The name `isc` is not `c` with `is` in front. -/
def normalizeName (cs : List Char) : List Char :=
  let (isFirst, rest) := match cs with
    | a :: b :: rest =>
      if (a = 'i' ∨ a = 'I') ∧ (b = 's' ∨ b = 'S') then (true, rest) else (false, cs)
    | _ => (false, cs)
  let kept := (rest.filter fun c => c.toNat < 0x80 ∧ c ≠ ' ' ∧ c ≠ '_' ∧ c ≠ '-').map fun c =>
    if 'A' ≤ c ∧ c ≤ 'Z' then Char.ofNat (c.toNat + 32) else c
  if isFirst ∧ kept = ['c'] then ['i', 's', 'c'] else kept

end PageHarvest.Regex.Property
