import PageHarvest.Schema.Rule

/-!
# Extraction schemas

A schema is a list of rules for every page and a policy for going from page to page.
-/

namespace PageHarvest

structure Pagination where
  nextSelector : Option String := none
  maxPages : Option Nat := none
  /-- Milliseconds to wait on a new page. -/
  waitBetweenPages : Option Nat := none

namespace Pagination

def toJson (p : Pagination) : Json :=
  .obj (Json.field? "nextSelector" (p.nextSelector.map Json.str) ++
    Json.field? "maxPages" (p.maxPages.map fun n : Nat => Json.int n) ++
    Json.field? "waitBetweenPages" (p.waitBetweenPages.map fun n : Nat => Json.int n))

end Pagination

structure Schema where
  id : String
  name : Option String := none
  rules : List Rule
  pagination : Option Pagination := none

namespace Schema

def toJson (s : Schema) : Json :=
  .obj ([("id", .str s.id)] ++ Json.field? "name" (s.name.map Json.str) ++
    [("rules", .arr (Rule.listToJson s.rules))] ++
    Json.field? "pagination" (s.pagination.map Pagination.toJson))

/-- The first rule of a name. -/
def rule? (s : Schema) (name : String) : Option Rule := s.rules.find? fun r => r.name == name

end Schema

end PageHarvest
