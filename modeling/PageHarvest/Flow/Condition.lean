import PageHarvest.Data.Tree
import PageHarvest.Expression.Eval
import PageHarvest.Regex.Match
import PageHarvest.Text.Search

/-!
# Conditions

A condition compares two operands, joins other conditions, or is an expression. Text operands are
resolved in the context, other operands stand for themselves. A compound without members is true,
whatever its logic. An operator that is not known is false of everything, and so is a pattern that
is no pattern.
-/

namespace PageHarvest

inductive Operator
  | equals
  | notEquals
  | contains
  | startsWith
  | endsWith
  | greaterThan
  | lessThan
  | greaterOrEqual
  | lessOrEqual
  | isEmpty
  | isNotEmpty
  | isMatch
  | exists
  | notExists
  | isTrue
  | isFalse
  | unknown
  deriving DecidableEq, Repr

inductive Logic
  | and
  | or
  deriving DecidableEq, Repr

inductive Condition
  | simple (left : Json) (operator : Operator) (right : Option Json)
  | compound (logic : Logic) (members : List Condition)
  | expression (source : String)

/-! ## Meaning -/

namespace Operator

/-- Null and missing do not exist. -/
def existsValue (v : Option Json) : Bool := !Json.isNullish v

/-- True, the text `true`, and the number one. -/
def saysTrue : Option Json → Bool
  | some (.bool b) => b
  | some (.str s) => s == "true"
  | some (.num n) => n.toFloat == 1.0
  | _ => false

/-- False, the text `false`, and the number zero. -/
def saysFalse : Option Json → Bool
  | some (.bool b) => !b
  | some (.str s) => s == "false"
  | some (.num n) => n.toFloat == 0.0
  | _ => false

/-- Whether the text of the first value has a match of the pattern that the second one shows. -/
def matchesPattern (left right : Option Json) : Bool :=
  match Regex.ofPattern? (Json.display right) with
  | some r => r.isMatch (Json.display left)
  | none => false

def holds (op : Operator) (left right : Option Json) : Bool :=
  match op with
  | equals => Json.strictEq left right
  | notEquals => !Json.strictEq left right
  | contains => Text.contains (Json.display left) (Json.display right)
  | startsWith => Text.startsWith (Json.display left) (Json.display right)
  | endsWith => Text.endsWith (Json.display left) (Json.display right)
  | greaterThan => Json.toFloat right < Json.toFloat left
  | lessThan => Json.toFloat left < Json.toFloat right
  | greaterOrEqual => Json.toFloat right ≤ Json.toFloat left
  | lessOrEqual => Json.toFloat left ≤ Json.toFloat right
  | isEmpty => Json.isEmpty left
  | isNotEmpty => !Json.isEmpty left
  | isMatch => matchesPattern left right
  | .exists => existsValue left
  | notExists => !existsValue left
  | isTrue => saysTrue left
  | isFalse => saysFalse left
  | unknown => false

end Operator

namespace Condition

/-- The value of an operand: a text is resolved, any other value stands for itself. -/
def operand (context : Context) : Json → Option Json
  | .str token => Reference.resolve context token
  | v => some v

mutual

def evaluate (context : Context) : Condition → Bool
  | .simple left op right => op.holds (operand context left) (right.bind (operand context))
  | .compound _ [] => true
  | .compound .and (c :: cs) => evaluateAll context (c :: cs)
  | .compound .or (c :: cs) => evaluateAny context (c :: cs)
  | .expression source => Expr.holds context source

def evaluateAll (context : Context) : List Condition → Bool
  | [] => true
  | c :: cs => evaluate context c && evaluateAll context cs

def evaluateAny (context : Context) : List Condition → Bool
  | [] => false
  | c :: cs => evaluate context c || evaluateAny context cs

end

end Condition

/-! ## Written form -/

namespace Operator

def name : Operator → String
  | equals => "equals"
  | notEquals => "notEquals"
  | contains => "contains"
  | startsWith => "startsWith"
  | endsWith => "endsWith"
  | greaterThan => "greaterThan"
  | lessThan => "lessThan"
  | greaterOrEqual => "greaterOrEqual"
  | lessOrEqual => "lessOrEqual"
  | isEmpty => "isEmpty"
  | isNotEmpty => "isNotEmpty"
  | isMatch => "matches"
  | .exists => "exists"
  | notExists => "notExists"
  | isTrue => "isTrue"
  | isFalse => "isFalse"
  | unknown => "unknown"

/-- The operator of a name; every other name is the unknown operator. -/
def ofName : String → Operator
  | "equals" => equals
  | "notEquals" => notEquals
  | "contains" => contains
  | "startsWith" => startsWith
  | "endsWith" => endsWith
  | "greaterThan" => greaterThan
  | "lessThan" => lessThan
  | "greaterOrEqual" => greaterOrEqual
  | "lessOrEqual" => lessOrEqual
  | "isEmpty" => isEmpty
  | "isNotEmpty" => isNotEmpty
  | "matches" => isMatch
  | "exists" => .exists
  | "notExists" => notExists
  | "isTrue" => isTrue
  | "isFalse" => isFalse
  | _ => unknown

/-- The names of all operators, in order. -/
def names : List String :=
  [equals, notEquals, contains, startsWith, endsWith, greaterThan, lessThan, greaterOrEqual,
    lessOrEqual, isEmpty, isNotEmpty, isMatch, .exists, notExists, isTrue, isFalse, unknown].map name

end Operator

namespace Logic

def name : Logic → String
  | and => "and"
  | or => "or"

def ofName? : String → Option Logic
  | "and" => some and
  | "or" => some or
  | _ => none

def names : List String := [and, or].map name

end Logic

namespace Condition

mutual

def toJson : Condition → Json
  | .simple left op right =>
    .obj ([("type", .str "simple"), ("left", left), ("operator", .str op.name)] ++
      Json.field? "right" right)
  | .compound logic members =>
    .obj [("type", .str "compound"), ("logic", .str logic.name),
      ("conditions", .arr (membersToJson members))]
  | .expression source => .obj [("type", .str "expression"), ("expression", .str source)]

def membersToJson : List Condition → List Json
  | [] => []
  | c :: cs => c.toJson :: membersToJson cs

end

/-- The fields of each kind of condition behind `type`, in order. -/
def fieldsOf? : String → Option (List String)
  | "simple" => some ["left", "operator", "right"]
  | "compound" => some ["logic", "conditions"]
  | "expression" => some ["expression"]
  | _ => none

/-- The kinds of condition. -/
def kinds : List String := ["simple", "compound", "expression"]

/-- The kind of a condition. Inside a step or another condition it may be given by its place in the
list of kinds. -/
def kind? (isInner : Bool) (t : Tree) : Option String :=
  match t.tag? "type" with
  | some (.text kind) => some kind
  | some (.number n) =>
    if isInner then (n.nat? kinds.length).bind fun i => kinds[i]? else none
  | _ => none

/-- The entries of a condition, and its kind. -/
def entries? (isInner : Bool) (t : Tree) : Option (String × Entries Tree) := do
  let kind ← kind? isInner t
  let fields ← fieldsOf? kind
  return (kind, (← t.taggedRecord? "type" fields))

/-- A condition without members. -/
def leaf? (kind : String) (es : Entries Tree) : Option Condition :=
  match kind with
  | "simple" => do
    let left ← Tree.required? Tree.value? "left" es
    let op ← Tree.required? (Tree.choiceOf? Operator.names) "operator" es
    let right ← Tree.optional? Tree.value? "right" es
    return .simple left (Operator.ofName op) right
  | "expression" => (Tree.required? Tree.text? "expression" es).map .expression
  | _ => none

/-- The logic of a compound. -/
def logic? (es : Entries Tree) : Option Logic :=
  (Tree.required? (Tree.choiceOf? Logic.names) "logic" es).bind Logic.ofName?

/-- Whether a key leads to the members of a compound. -/
def leadsToMembers (key : Tree) : Bool :=
  Tree.fieldName? ["logic", "conditions"] key == some (some "conditions")

mutual

/-- The condition that a tree denotes, alone or inside something else. -/
def ofTreeIn? (isInner : Bool) : Tree → Option Condition
  | .record entries =>
    match entries? isInner (.record entries) with
    | some ("compound", es) => do
      let logic ← logic? es
      return .compound logic (← membersIn? entries)
    | some (kind, es) => leaf? kind es
    | none => none
  | .keyed entries =>
    match entries? isInner (.keyed entries) with
    | some ("compound", es) => do
      let logic ← logic? es
      return .compound logic (← membersUnder? entries)
    | some (kind, es) => leaf? kind es
    | none => none
  | .list items =>
    match entries? isInner (.list items) with
    | some ("compound", es) => do
      let logic ← logic? es
      return .compound logic (← membersAt? 2 items)
    | some (kind, es) => leaf? kind es
    | none => none
  | _ => none

/-- The members in the entries of a compound. -/
def membersIn? : List (String × Tree) → Option (List Condition)
  | [] => some []
  | (key, t) :: rest => if key = "conditions" then membersOf? t else membersIn? rest

/-- The members in the entries of a compound with keys of any kind. -/
def membersUnder? : List (Tree × Tree) → Option (List Condition)
  | [] => some []
  | (key, t) :: rest => if leadsToMembers key then membersOf? t else membersUnder? rest

/-- The members in the items of a compound. -/
def membersAt? : Nat → List Tree → Option (List Condition)
  | _, [] => some []
  | 0, t :: _ => membersOf? t
  | n + 1, _ :: rest => membersAt? n rest

def membersOf? : Tree → Option (List Condition)
  | .list items => allOfTree? items
  | _ => none

def allOfTree? : List Tree → Option (List Condition)
  | [] => some []
  | t :: rest => do
    let c ← ofTreeIn? true t
    return c :: (← allOfTree? rest)

end

/-- The condition that a tree denotes. -/
def ofTree? (t : Tree) : Option Condition := ofTreeIn? false t

/-- The condition that a value denotes. -/
def ofJson? (j : Json) : Option Condition := ofTree? (.ofJson j)

end Condition

end PageHarvest
