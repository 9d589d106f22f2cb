import PageHarvest.Regex.Property.Age
import PageHarvest.Regex.Property.Binary
import PageHarvest.Regex.Property.Break
import PageHarvest.Regex.Property.Category
import PageHarvest.Regex.Property.Script

/-!
# Asking for characters by property

`named?` answers a name alone, which may be a property with two values, a general category or a
script. `valued?` answers the name of a property together with one of its values.
-/

namespace PageHarvest.Regex.Property

open Text

/-- The characters of a general category, or of one of the three classes that are no category. -/
def category? (name : String) : Option CodeSet :=
  match name with
  | "any" => some CodeSet.full
  | "assigned" => (chars? category "unassigned").map (·.compl)
  | "ascii" => some (CodeSet.range 0 0x7f)
  | _ => chars? category name

/-- The characters that are used in a script. -/
def scriptExtension? (name : String) : Option CodeSet :=
  (chars? scriptExtension name).orElse fun _ => chars? script name

/-- The characters that were assigned when a version came out: what it added, and what the versions
before it added. -/
def age? (name : String) : Option CodeSet :=
  (find? age name).map fun last =>
    (upTo last age).foldl (fun s e => s.union e.chars) CodeSet.empty
where
  /-- The entries down to the given one. -/
  upTo (last : Entry) : List Entry → List Entry
    | [] => []
    | e :: es => if e.names == last.names then [e] else e :: upTo last es

/-- The characters of a name alone. The names `cf`, `sc` and `lc` are short both for a category and
for a property that has more than two values; here they mean the category. -/
def named? (name : List Char) : Option CodeSet :=
  let name := String.ofList (normalizeName name)
  (chars? binary name).orElse fun _ => (category? name).orElse fun _ => chars? script name

/-- The characters for which a property has a value. -/
def valued? (property value : List Char) : Option CodeSet :=
  let value := String.ofList (normalizeName value)
  match String.ofList (normalizeName property) with
  | "generalcategory" | "gc" => category? value
  | "script" | "sc" => chars? script value
  | "scriptextensions" | "scx" => scriptExtension? value
  | "age" => age? value
  | "graphemeclusterbreak" | "gcb" => chars? graphemeBreak value
  | "wordbreak" | "wb" => chars? wordBreak value
  | "sentencebreak" | "sb" => chars? sentenceBreak value
  | _ => none

end PageHarvest.Regex.Property
