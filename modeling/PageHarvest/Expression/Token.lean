import PageHarvest.Decimal.Shortest
import PageHarvest.Text.Quoted

/-!
# Tokens of expressions, and what can be wrong with an expression
-/

namespace PageHarvest

namespace Expr

inductive Token
  | number (value : Float)
  | str (text : String)
  | ident (name : String)
  | reference (path : String)
  | dot
  | lBracket
  | rBracket
  | lParen
  | rParen
  | not
  | minus
  | and
  | or
  | eq
  | notEq
  | strictEq
  | strictNotEq
  | lt
  | le
  | gt
  | ge

/-- A number as messages show it: with a point, or with an exponent if it is very large or
small. -/
def numberLabel (f : Float) : String :=
  match Decimal.parts f with
  | .nan => "NaN"
  | .infinite negative => if negative then "-inf" else "inf"
  | .finite negative m q =>
    let d := Decimal.shortest m q
    let e := d.exponent + (Decimal.digits d.coefficient).length - 1
    let body :=
      if m ≠ 0 ∧ (16 ≤ e ∨ e < -4) then
        match Decimal.digits d.coefficient with
        | first :: second :: rest => first :: '.' :: second :: rest ++ exponentLabel e
        | short => short ++ exponentLabel e
      else if 0 ≤ d.exponent then d.plain ++ ['.', '0']
      else d.plain
    String.ofList (if negative then '-' :: body else body)
where
  exponentLabel (e : Int) : List Char := 'e' :: (toString e).toList

/-- The token as messages show it. -/
def Token.label : Token → String
  | number value => "Number(" ++ numberLabel value ++ ")"
  | str text => "Str(" ++ Text.quoted text ++ ")"
  | ident name => "Ident(" ++ Text.quoted name ++ ")"
  | reference path => "Reference(" ++ Text.quoted path ++ ")"
  | dot => "Dot"
  | lBracket => "LBracket"
  | rBracket => "RBracket"
  | lParen => "LParen"
  | rParen => "RParen"
  | not => "Not"
  | minus => "Minus"
  | and => "And"
  | or => "Or"
  | eq => "Eq"
  | notEq => "NotEq"
  | strictEq => "StrictEq"
  | strictNotEq => "StrictNotEq"
  | lt => "Lt"
  | le => "Le"
  | gt => "Gt"
  | ge => "Ge"

/-- A token that may be missing, as messages show it. -/
def Token.labelOf : Option Token → String
  | some t => "Some(" ++ t.label ++ ")"
  | none => "None"

/-- The deepest nesting of signs, parentheses and brackets. -/
def maxNesting : Nat := 64

/-- The greatest number of operators and accessors. -/
def maxNodes : Nat := 512

/-- What is wrong with an expression or its evaluation. -/
inductive Problem
  | empty
  | unexpectedCharacter (c : Char) (position : Nat)
  | unterminatedReference
  | unterminatedString
  | invalidNumber (literal : String)
  /-- A token after the end of the expression. -/
  | trailingToken (found : Token)
  /-- No operand where one is needed. -/
  | unexpectedToken (found : Option Token)
  | expectedProperty (found : Option Token)
  | expectedToken (expected : Token) (found : Option Token)
  | nestedTooDeeply
  | tooManyNodes
  | undefinedName (name : String)
  /-- A property of null or of a missing value. -/
  | propertyOfNothing (name : String) (isMissing : Bool)

def Problem.message : Problem → String
  | empty => "empty expression"
  | unexpectedCharacter c position =>
    "unexpected character '" ++ c.toString ++ "' at " ++ toString position
  | unterminatedReference => "unterminated reference"
  | unterminatedString => "unterminated string"
  | invalidNumber digits => "invalid number '" ++ digits ++ "'"
  | trailingToken found => "unexpected token " ++ found.label
  | unexpectedToken found => "unexpected token " ++ Token.labelOf found
  | expectedProperty found => "expected property name, found " ++ Token.labelOf found
  | expectedToken expected found =>
    "expected " ++ expected.label ++ ", found " ++ Token.labelOf found
  | nestedTooDeeply => "expression nested too deeply"
  | tooManyNodes => "expression exceeds " ++ toString maxNodes ++ " operators"
  | undefinedName name => name ++ " is not defined"
  | propertyOfNothing name isMissing =>
    "cannot read property '" ++ name ++ "' of " ++ (if isMissing then "undefined" else "null")

end Expr

end PageHarvest
