import PageHarvest.Expression.Reading
import PageHarvest.Flow.Reference

/-!
# The value of an expression

`&&` and `||` give one of their operands and leave the second one alone if the first decides. Two
texts are ordered by their characters, any other two values by their numbers. A property of null
or of a missing value is an error, and so is a name that the context does not have; a reference to
nothing is a missing value.
-/

namespace PageHarvest.Expr

/-- The order of two values, if they have one. -/
def order? (a b : Option Json) : Option Ordering :=
  match a, b with
  | some (.str s), some (.str t) => some (compareOfLessAndEq s t)
  | _, _ =>
    let x := Json.toFloat a
    let y := Json.toFloat b
    if x < y then some .lt else if x == y then some .eq else if y < x then some .gt else none

/-- Whether a comparison holds. -/
def Comparison.holds (op : Comparison) (a b : Option Json) : Bool :=
  match op with
  | .eq => Json.looseEq a b
  | .notEq => !Json.looseEq a b
  | .strictEq => Json.strictEq a b
  | .strictNotEq => !Json.strictEq a b
  | .lt => order? a b == some .lt
  | .le => order? a b == some .lt || order? a b == some .eq
  | .gt => order? a b == some .gt
  | .ge => order? a b == some .gt || order? a b == some .eq

/-- A part of a value by name. -/
def property (target : Option Json) (name : String) : Except Problem (Option Json) :=
  match target with
  | none => .error (.propertyOfNothing name true)
  | some .null => .error (.propertyOfNothing name false)
  | some v => .ok (Reference.descend v name)

/-- The name that a value in brackets stands for. -/
def keyText : Option Json → String
  | some (.str s) => s
  | some (.num n) => String.ofList (Json.numberChars n)
  | v => Json.display v

def eval (context : Context) : Expr → Except Problem (Option Json)
  | .literal v => .ok v
  | .identifier name =>
    match context.lookup name with
    | some v => .ok (some v)
    | none => .error (.undefinedName name)
  | .reference path => .ok (Reference.resolvePath context path)
  | .member target name => do property (← target.eval context) name
  | .index target key => do
    let t ← target.eval context
    let k ← key.eval context
    property t (keyText k)
  | .not operand => do return some (.bool (!Json.isTruthy (← operand.eval context)))
  | .negate operand => do return some (Json.ofFloat (-Json.toFloat (← operand.eval context)))
  | .and left right => do
    let l ← left.eval context
    if Json.isTruthy l then right.eval context else return l
  | .or left right => do
    let l ← left.eval context
    if Json.isTruthy l then return l else right.eval context
  | .compare op left right => do
    let l ← left.eval context
    let r ← right.eval context
    return some (.bool (op.holds l r))

/-- The truth value of an expression. -/
def evalBool (context : Context) (e : Expr) : Except Problem Bool :=
  (e.eval context).map Json.isTruthy

/-- Whether a text is an expression that is true; any failure counts as false. -/
def holds (context : Context) (source : String) : Bool :=
  match (read source).bind (evalBool context) with
  | .ok b => b
  | .error _ => false

end PageHarvest.Expr
