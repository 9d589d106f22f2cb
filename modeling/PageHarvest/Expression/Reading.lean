import PageHarvest.Expression.Lexer
import PageHarvest.Expression.Syntax
import PageHarvest.Json.Coercion

/-!
# From tokens to expressions

From the weakest operator to the strongest: `||`, `&&`, the equalities, the orders, the signs `!`
and `-`, and access to parts by `.name` and `[key]`. Operators of one strength group to the left.
`true`, `false`, `null` and `undefined` are literals where an operand is expected and plain names
after a dot.

At most `maxNesting` signs, parentheses and brackets may be open at once, and an expression has at
most `maxNodes` operators and accessors. The nesting that is left is the argument that the
recursion descends on, the operators and accessors that are left are part of its state.
-/

namespace PageHarvest.Expr

/-- The tokens that are left, and the number of operators and accessors that may still come. -/
structure ReadState where
  rest : List Token
  spare : Nat

/-- Reads something from the front of the tokens. -/
abbrev Reading (α : Type) := ReadState → Except Problem (α × ReadState)

/-- Counts an operator or accessor. -/
def count (e : Expr) : Reading Expr := fun s =>
  match s.spare with
  | 0 => .error .tooManyNodes
  | spare + 1 => .ok (e, { s with spare })

/-- Operands joined by operators of one strength, after the first operand. Every round takes two
tokens or more, so as many rounds as tokens are enough. -/
def chainFrom (op : Token → Option (Expr → Expr → Expr)) (operand : Reading Expr) :
    Nat → Expr → Reading Expr
  | 0, left, s => .ok (left, s)
  | fuel + 1, left, s =>
    match s.rest with
    | [] => .ok (left, s)
    | t :: rest =>
      match op t with
      | none => .ok (left, s)
      | some join => do
        let (right, s) ← operand { s with rest }
        let (joined, s) ← count (join left right) s
        chainFrom op operand fuel joined s

/-- Operands joined by operators of one strength. -/
def chain (op : Token → Option (Expr → Expr → Expr)) (operand : Reading Expr) : Reading Expr :=
  fun s => do
    let (left, s) ← operand s
    chainFrom op operand s.rest.length left s

def orOperator? : Token → Option (Expr → Expr → Expr)
  | .or => some .or
  | _ => none

def andOperator? : Token → Option (Expr → Expr → Expr)
  | .and => some .and
  | _ => none

def equalityOperator? : Token → Option (Expr → Expr → Expr)
  | .eq => some (.compare .eq)
  | .notEq => some (.compare .notEq)
  | .strictEq => some (.compare .strictEq)
  | .strictNotEq => some (.compare .strictNotEq)
  | _ => none

def orderOperator? : Token → Option (Expr → Expr → Expr)
  | .lt => some (.compare .lt)
  | .le => some (.compare .le)
  | .gt => some (.compare .gt)
  | .ge => some (.compare .ge)
  | _ => none

/-- All operators with two operands, over a reading of the operands. -/
def binary (operand : Reading Expr) : Reading Expr :=
  chain orOperator? (chain andOperator? (chain equalityOperator? (chain orderOperator? operand)))

/-- What a name means where an operand is expected. -/
def ofName : String → Expr
  | "true" => .literal (some (.bool true))
  | "false" => .literal (some (.bool false))
  | "null" => .literal (some .null)
  | "undefined" => .literal none
  | name => .identifier name

/-- The expected token, and nothing else. -/
def expectRBracket : Reading Unit := fun s =>
  match s.rest with
  | .rBracket :: rest => .ok ((), { s with rest })
  | rest => .error (.expectedToken .rBracket rest.head?)

def expectRParen : Reading Unit := fun s =>
  match s.rest with
  | .rParen :: rest => .ok ((), { s with rest })
  | rest => .error (.expectedToken .rParen rest.head?)

/-- An operand without signs and accessors. `nested` reads what stands in parentheses. -/
def primary (nested : Reading Expr) : Reading Expr := fun s =>
  match s.rest with
  | .number f :: rest => .ok (.literal (some (Json.ofFloat f)), { s with rest })
  | .str text :: rest => .ok (.literal (some (.str text)), { s with rest })
  | .reference path :: rest => .ok (.reference path, { s with rest })
  | .ident name :: rest => .ok (ofName name, { s with rest })
  | .lParen :: rest => do
    let (e, s) ← nested { s with rest }
    let ((), s) ← expectRParen s
    return (e, s)
  | rest => .error (.unexpectedToken rest.head?)

/-- Accessors after an operand. `nested` reads what stands in brackets. -/
def accessors (nested : Reading Expr) : Nat → Expr → Reading Expr
  | 0, e, s => .ok (e, s)
  | fuel + 1, e, s =>
    match s.rest with
    | .dot :: .ident name :: rest => do
      let (e, s) ← count (.member e name) { s with rest }
      accessors nested fuel e s
    | .dot :: rest => .error (.expectedProperty rest.head?)
    | .lBracket :: rest => do
      let (key, s) ← nested { s with rest }
      let ((), s) ← expectRBracket s
      let (e, s) ← count (.index e key) s
      accessors nested fuel e s
    | _ => .ok (e, s)

/-- An operand with its accessors. -/
def postfixed (nested : Reading Expr) : Reading Expr := fun s => do
  let (e, s) ← primary nested s
  accessors nested s.rest.length e s

/-- An operand with its signs. `signed` reads what a sign stands before. -/
def signedWith (signed nested : Reading Expr) : Reading Expr := fun s =>
  match s.rest with
  | .not :: rest => do
    let (e, s) ← signed { s with rest }
    count (.not e) s
  | .minus :: rest => do
    let (e, s) ← signed { s with rest }
    count (.negate e) s
  | _ => postfixed nested s

/-- An operand with its signs, where `depth` more levels of nesting may be opened. -/
def operand : Nat → Reading Expr
  | 0 => signedWith (fun _ => .error .nestedTooDeeply) (fun _ => .error .nestedTooDeeply)
  | depth + 1 => signedWith (operand depth) (binary (operand depth))

/-- The expression that all the tokens make up, within a nesting and a number of operators and
accessors. -/
def ofTokensWithin (nesting nodes : Nat) (ts : List Token) : Except Problem Expr :=
  match ts with
  | [] => .error .empty
  | ts => do
    let (e, s) ← binary (operand nesting) ⟨ts, nodes⟩
    match s.rest with
    | [] => return e
    | t :: _ => throw (.trailingToken t)

/-- The expression that all the tokens make up. -/
def ofTokens (ts : List Token) : Except Problem Expr := ofTokensWithin maxNesting maxNodes ts

/-- The expression that a text denotes. -/
def read (source : String) : Except Problem Expr := (tokenize source).bind ofTokens

end PageHarvest.Expr
