import PageHarvest.Data.Plain
import PageHarvest.Json.Access

/-!
# Trees of scalars, lists and records

The common form of the texts that schemas, conditions and settings are written in. A scalar has a
kind of its own, or is a plain word whose kind the field that takes it decides. A part that stands
for no value is left unread and can only be ignored.

- Fields of a record are looked up by name. Fields that the record does not have are ignored; one of
  its own fields given twice is an error. Where keys may be of any kind, a number stands for the
  field at that place.
- A list is read as a record too, its items in the order of the fields.
- A field that may be absent has a default; null counts as absent only where the field is optional.
- A plain word is a text wherever a text is asked for, and an empty one is also the empty list and
  the empty record.
- A number that is not finite has no JSON form. Its value is null, but a field that has it is not
  absent.
-/

namespace PageHarvest

inductive Tree
  | null
  | truth (b : Bool)
  | number (n : Number)
  /-- A number that is infinite or no number. -/
  | notFinite
  | text (s : String)
  | plain (s : String)
  | list (items : List Tree)
  | record (entries : List (String × Tree))
  /-- A record with a key that is no text. -/
  | keyed (entries : List (Tree × Tree))
  | unread

namespace Tree

mutual

def ofJson : Json → Tree
  | .null => .null
  | .bool b => .truth b
  | .num n => .number n
  | .str s => .text s
  | .arr items => .list (ofItems items)
  | .obj entries => .record (ofEntries entries)

def ofItems : List Json → List Tree
  | [] => []
  | j :: rest => ofJson j :: ofItems rest

def ofEntries : List (String × Json) → List (String × Tree)
  | [] => []
  | (k, j) :: rest => (k, ofJson j) :: ofEntries rest

end

mutual

/-- The value of a tree that is read to the last part. -/
def toJson? : Tree → Option Json
  | .null => some .null
  | .truth b => some (.bool b)
  | .number n => some (.num n)
  | .notFinite => some .null
  | .text s => some (.str s)
  | .plain s => Plain.resolve? s
  | .list items => (itemsToJson? items).map .arr
  | .record entries => (entriesToJson? entries).map .obj
  | .keyed _ | .unread => none

def itemsToJson? : List Tree → Option (List Json)
  | [] => some []
  | t :: rest => do
    let j ← t.toJson?
    return j :: (← itemsToJson? rest)

def entriesToJson? : List (String × Tree) → Option (List (String × Json))
  | [] => some []
  | (k, t) :: rest => do
    let j ← t.toJson?
    return (k, j) :: (← entriesToJson? rest)

end

def text? : Tree → Option String
  | .text s | .plain s => some s
  | _ => none

def truth? : Tree → Option Bool
  | .truth b => some b
  | .plain s => Plain.truth? s
  | _ => none

/-- A natural number up to the limit. -/
def nat? (limit : Nat) : Tree → Option Nat
  | .number n => n.nat? limit
  | .plain s => Plain.nat? limit s
  | _ => none

/-- The value of a tree, every key of its records once. -/
def value? (t : Tree) : Option Json := t.toJson?.map Json.collapse

/-- The name of a choice without data. -/
def choice? : Tree → Option String
  | .text s | .plain s => some s
  | .record [(name, .null)] => some name
  | _ => none

/-- The name of a choice without data where a number may stand for the name at that place: a text,
or a record with that one key and nothing under it. A place behind the last name has no name. -/
def choiceOf? (names : List String) : Tree → Option String
  | .text s => some s
  | .record [(name, .null)] | .record [(name, .record [])] => some name
  | .keyed [(.number n, .null)] | .keyed [(.number n, .record [])] =>
    (n.nat? Json.max64).map fun i => names.getD i ""
  | _ => none

/-- Whether an optional field with this value is absent. -/
def isNull : Tree → Bool
  | .null => true
  | .plain s => Plain.isNull s
  | _ => false

def items? : Tree → Option (List Tree)
  | .list items => some items
  | .plain "" => some []
  | _ => none

/-- Whether every field is given once at most. -/
def noneRepeated (fields : List String) (entries : Entries Tree) : Bool :=
  fields.all fun f => (entries.filter fun e => e.1 == f).length ≤ 1

/-- The name that a key stands for among the fields of a record: a text stands for itself, a number
for the field at that place, if there is one. -/
def fieldName? (fields : List String) : Tree → Option (Option String)
  | .text s => some (some s)
  | .number n => (n.nat? Json.max64).map fun i => fields[i]?
  | _ => none

/-- The entries under the names that their keys stand for. -/
def named? (fields : List String) (entries : List (Tree × Tree)) : Option (Entries Tree) := do
  let es ← entries.mapM fun e => (fieldName? fields e.1).map (·, e.2)
  return es.filterMap fun e => e.1.map (·, e.2)

/-- The entries of a record with the given fields; a list gives them in this order. -/
def record? (fields : List String) : Tree → Option (Entries Tree)
  | .record entries => if noneRepeated fields entries then some entries else none
  | .keyed entries => (named? fields entries).filter (noneRepeated fields)
  | .list items => if items.length ≤ fields.length then some (fields.zip items) else none
  | .plain "" => some []
  | _ => none

/-- The entries of a record that says in the field `tag` which fields it has. A list gives the tag
first, but the places of the fields are counted without it. -/
def taggedRecord? (tag : String) (fields : List String) : Tree → Option (Entries Tree)
  | .keyed entries => (named? fields entries).filter (noneRepeated (tag :: fields))
  | t => record? (tag :: fields) t

/-- What a record says in the field `tag`. -/
def tag? (tag : String) : Tree → Option Tree
  | .record entries => Entries.get? tag entries
  | .keyed entries => (entries.find? fun e => e.1.text? == some tag).map Prod.snd
  | .list items => items.head?
  | _ => none

/-- The record of the entries given, whatever their keys are. -/
def ofPairs (entries : List (Tree × Tree)) : Tree :=
  match entries.mapM fun e => e.1.text?.map (·, e.2) with
  | some es => .record es
  | none => .keyed entries

/-- A field that must be there. -/
def required? {α : Type} (read : Tree → Option α) (name : String) (es : Entries Tree) : Option α :=
  (es.get? name).bind read

/-- A field that may be absent or null. -/
def optional? {α : Type} (read : Tree → Option α) (name : String) (es : Entries Tree) :
    Option (Option α) :=
  match es.get? name with
  | none => some none
  | some v => if v.isNull then some none else (read v).map some

/-- A field that may be absent, but not null. -/
def orDefault? {α : Type} (read : Tree → Option α) (default : α) (name : String)
    (es : Entries Tree) : Option α :=
  match es.get? name with
  | none => some default
  | some v => read v

end Tree

end PageHarvest
