import PageHarvest.Data.Tree

/-!
# Tables under construction

A TOML text builds its tables step by step, and what may still be added to a table depends on how
it came about:

- a table that a header names is `defined`, once and for all;
- a table that only the header of a table inside it names is `implied`, and may be defined later;
- a table that a dotted key names is `dotted`, and grows by dotted keys alone.

Values between brackets and braces are closed.
-/

namespace PageHarvest.Toml

inductive Origin
  | defined
  | implied
  | dotted
  deriving DecidableEq, Repr

inductive Item
  | value (v : Tree)
  | table (origin : Origin) (entries : List (String × Item))
  /-- Tables under one name, of which the last one can still grow. -/
  | tables (earlier : List (List (String × Item))) (last : List (String × Item))

/-- A table that something is added to. -/
structure Table where
  origin : Origin
  entries : Entries Item

namespace Table

def empty : Table := ⟨.defined, []⟩

def set (name : String) (item : Item) (t : Table) : Table :=
  { t with entries := t.entries.insert name item }

/-- Changes the table at a path; tables that are missing on the way come about as `origin`. A
dotted key leads through no table that is defined. -/
def change? (origin : Origin) (f : Table → Option Table) : List String → Table → Option Table
  | [], t => f t
  | name :: path, t =>
    match t.entries.get? name with
    | none => do
      let inner ← change? origin f path ⟨origin, []⟩
      return t.set name (.table inner.origin inner.entries)
    | some (.table o es) =>
      if origin = .dotted ∧ o = .defined then none
      else do
        let inner ← change? origin f path ⟨o, es⟩
        return t.set name (.table inner.origin inner.entries)
    | some (.tables earlier last) => do
      let inner ← change? origin f path ⟨.defined, last⟩
      return t.set name (.tables earlier inner.entries)
    | some (.value _) => none

/-- Defines a table by its header. -/
def define? (name : String) (t : Table) : Option Table :=
  match t.entries.get? name with
  | none => some (t.set name (.table .defined []))
  | some (.table .implied es) => some (t.set name (.table .defined es))
  | some _ => none

/-- Begins a further table under a name. -/
def append? (name : String) (t : Table) : Option Table :=
  match t.entries.get? name with
  | none => some (t.set name (.tables [] []))
  | some (.tables earlier last) => some (t.set name (.tables (earlier ++ [last]) []))
  | some _ => none

/-- Gives a new name a value. -/
def assign? (name : String) (v : Tree) (t : Table) : Option Table :=
  if t.entries.contains name then none else some (t.set name (.value v))

/-- Gives a path a value: its last name in the table that the names before it lead to. -/
def assignAt? (path : List String) (name : String) (v : Tree) : Table → Option Table :=
  change? .dotted
    (fun inner =>
      if (inner.origin == .dotted) == path.isEmpty then none else inner.assign? name v)
    path

end Table

mutual

def Item.toTree : Item → Tree
  | .value v => v
  | .table _ entries => .record (entriesToTree entries)
  | .tables earlier last => .list (tablesToTree earlier ++ [.record (entriesToTree last)])

def entriesToTree : List (String × Item) → List (String × Tree)
  | [] => []
  | (name, i) :: rest => (name, i.toTree) :: entriesToTree rest

def tablesToTree : List (List (String × Item)) → List Tree
  | [] => []
  | es :: rest => .record (entriesToTree es) :: tablesToTree rest

end

def Table.toTree (t : Table) : Tree := .record (entriesToTree t.entries)

end PageHarvest.Toml
