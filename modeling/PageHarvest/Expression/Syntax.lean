import PageHarvest.Json.Basic

/-!
# Expressions

Literals, names, references, access to parts, and operators. A literal may be the missing value.
There are no calls and no assignments, and the only arithmetic is the sign.
-/

namespace PageHarvest

namespace Expr

/-- The operators that compare two values. -/
inductive Comparison
  | eq
  | notEq
  | strictEq
  | strictNotEq
  | lt
  | le
  | gt
  | ge
  deriving DecidableEq, Repr

end Expr

inductive Expr
  | literal (value : Option Json)
  | identifier (name : String)
  | reference (path : String)
  | member (target : Expr) (property : String)
  | index (target key : Expr)
  | not (operand : Expr)
  | negate (operand : Expr)
  | and (left right : Expr)
  | or (left right : Expr)
  | compare (op : Expr.Comparison) (left right : Expr)

/-- The number of operators and accessors. -/
def Expr.nodes : Expr → Nat
  | .literal _ | .identifier _ | .reference _ => 0
  | .member target _ => target.nodes + 1
  | .index target key => target.nodes + key.nodes + 1
  | .not operand | .negate operand => operand.nodes + 1
  | .and left right | .or left right | .compare _ left right => left.nodes + right.nodes + 1

end PageHarvest
