/-!
# Entries in order of insertion

A finite map kept as the list of its entries. A key that is set again keeps its place and takes
the new value; a new key goes to the end. `ofList` applies this to a list that may name a key
twice, so its result has the first place and the last value of every key.
-/

namespace PageHarvest

/-- A map from names, its entries in the order in which the names were first set. -/
abbrev Entries (α : Type) := List (String × α)

namespace Entries

variable {α β : Type}

def get? (name : String) : Entries α → Option α
  | [] => none
  | (k, v) :: rest => if k = name then some v else get? name rest

/-- Sets a name, in its place if it has one and at the end otherwise. -/
def insert (name : String) (value : α) : Entries α → Entries α
  | [] => [(name, value)]
  | (k, v) :: rest => if k = name then (k, value) :: rest else (k, v) :: insert name value rest

def keys (es : Entries α) : List String := es.map Prod.fst

def contains (name : String) (es : Entries α) : Bool := (es.get? name).isSome

/-- Sets every entry of the second map in the first. -/
def overwrite (es : Entries α) (news : Entries α) : Entries α :=
  news.foldl (fun acc e => acc.insert e.1 e.2) es

def ofList (es : List (String × α)) : Entries α := overwrite [] es

theorem get?_insert (name key : String) (value : α) (es : Entries α) :
    (es.insert key value).get? name = if key = name then some value else es.get? name := by
  induction es with
  | nil => simp [insert, get?]
  | cons e rest ih =>
    obtain ⟨k, v⟩ := e
    by_cases hk : k = key
    · subst hk; by_cases hn : k = name <;> simp [insert, get?, hn]
    · by_cases hn : k = name
      · subst hn; simp [insert, get?, hk, Ne.symm hk]
      · simp [insert, get?, hk, hn, ih]

end Entries

end PageHarvest
