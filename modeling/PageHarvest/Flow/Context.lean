import PageHarvest.Json.Basic

/-!
# The context of a run

The variables and the results of steps that a run has at a time. A result hides a variable of the
same name.
-/

namespace PageHarvest

structure Context where
  vars : Entries Json
  results : Entries Json

namespace Context

def empty : Context := ⟨[], []⟩

def setVariable (c : Context) (name : String) (value : Json) : Context :=
  { c with vars := c.vars.insert name value }

/-- Sets every variable of the list, in order. -/
def setVariables (c : Context) (bindings : Entries Json) : Context :=
  { c with vars := c.vars.overwrite bindings }

def setResult (c : Context) (name : String) (value : Json) : Context :=
  { c with results := c.results.insert name value }

/-- The result of the name, else the variable of the name. -/
def lookup (c : Context) (name : String) : Option Json :=
  (c.results.get? name).orElse fun _ => c.vars.get? name

/-- Variables and results as one map. -/
def merged (c : Context) : Entries Json := c.vars.overwrite c.results

end Context

end PageHarvest
