/-!
# Location paths

The part of XPath that selectors can express: child and descendant steps with names or `*`, and
predicates that join positions, attributes, equalities and containments by `and`. `toCss` writes a
path as a selector.
-/

namespace PageHarvest.XPath

/-- Where a path starts. -/
inductive Anchor
  /-- `/`: the element at the top. -/
  | top
  /-- `//`: any element of the document. -/
  | anywhere
  /-- `.//`: any element inside the context. -/
  | inside
  deriving DecidableEq, Repr

/-- How a step relates to the step in front of it. -/
inductive Axis
  | child
  | descendant
  deriving DecidableEq, Repr

/-- One term of a predicate. -/
inductive Term
  | position (n : Nat)
  | has (name : String)
  | equals (name value : String)
  | contains (name value : String)
  deriving DecidableEq, Repr

/-- A name or `*` with its predicates. -/
structure Step where
  name : String
  predicates : List (List Term)
  deriving DecidableEq, Repr

structure Path where
  anchor : Anchor
  first : Step
  rest : List (Axis × Step)
  deriving DecidableEq, Repr

/-- Backslashes and double quotes get a backslash in front. -/
def escapeValue (value : List Char) : List Char :=
  value.flatMap fun c => if c = '\\' ∨ c = '"' then ['\\', c] else [c]

def quotedValue (value : String) : String :=
  "\"" ++ String.ofList (escapeValue value.toList) ++ "\""

/-- A term as a condition on an element with the given name. -/
def Term.toCss (element : String) : Term → String
  | position n =>
    (if element = "*" then ":nth-child(" else ":nth-of-type(") ++ toString n ++ ")"
  | has name => "[" ++ name ++ "]"
  | equals name value => "[" ++ name ++ "=" ++ quotedValue value ++ "]"
  | contains name value => "[" ++ name ++ "*=" ++ quotedValue value ++ "]"

/-- The conditions of a step. -/
def Step.conditions (s : Step) : String :=
  String.join (s.predicates.flatten.map (Term.toCss s.name))

def Axis.toCss : Axis → String
  | child => " > "
  | descendant => " "

/-- The selector with the matches of the path. -/
def Path.toCss (p : Path) : String :=
  p.first.name ++ (if p.anchor = .top then ":root" else "") ++ p.first.conditions ++
    String.join (p.rest.map fun s => s.1.toCss ++ s.2.name ++ s.2.conditions)

end PageHarvest.XPath
