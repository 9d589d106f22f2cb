import PageHarvest.Decimal.Literal
import PageHarvest.Expression.Token
import PageHarvest.Text.Blank
import PageHarvest.Text.Letter

/-!
# Splitting an expression into tokens

Blanks separate tokens and are dropped. A token is read from its first character: a reference, a
text in quotes, a number, a name, or else the longest operator.
-/

namespace PageHarvest.Expr

open Text

/-- The path of a reference up to its end mark, and what follows the mark. -/
def readUntil? (mark : List Char) : List Char → Option (List Char × List Char)
  | [] => none
  | c :: rest =>
    if mark.isPrefixOf (c :: rest) then some ([], (c :: rest).drop mark.length)
    else (readUntil? mark rest).map fun r => (c :: r.1, r.2)

/-- A reference from after its opening mark. -/
def lexReference (mark : List Char) (cs : List Char) : Except Problem (Token × List Char) :=
  match readUntil? mark cs with
  | some (path, rest) => .ok (.reference (String.ofList (trimChars path)), rest)
  | none => .error .unterminatedReference

/-- The character that an escape in a text stands for. -/
def unescape : Char → Char
  | 'n' => '\n'
  | 't' => '\t'
  | 'r' => '\r'
  | c => c

/-- The characters of a text up to its closing quote, and what follows the quote. -/
def readQuoted? (quote : Char) : List Char → Option (List Char × List Char)
  | [] => none
  | '\\' :: [] => none
  | '\\' :: c :: rest => (readQuoted? quote rest).map fun r => (unescape c :: r.1, r.2)
  | c :: rest =>
    if c = quote then some ([], rest)
    else (readQuoted? quote rest).map fun r => (c :: r.1, r.2)

def isNumberChar (c : Char) : Bool := isAsciiDigit c || c == '.'

/-- An exponent at the start of a text, as far as it goes. -/
def takeExponent : List Char → List Char × List Char
  | c :: rest =>
    if c = 'e' ∨ c = 'E' then
      match rest with
      | s :: more =>
        if s = '+' ∨ s = '-' then
          (c :: s :: more.takeWhile isAsciiDigit, more.dropWhile isAsciiDigit)
        else (c :: (s :: more).takeWhile isAsciiDigit, (s :: more).dropWhile isAsciiDigit)
      | [] => ([c], [])
    else ([], c :: rest)
  | [] => ([], [])

/-- A number from its first character on. -/
def lexNumber (cs : List Char) : Except Problem (Token × List Char) :=
  let front := cs.takeWhile isNumberChar
  let (back, rest) := takeExponent (cs.dropWhile isNumberChar)
  match Decimal.readFloat? (front ++ back) with
  | some f => .ok (.number f, rest)
  | none => .error (.invalidNumber (String.ofList (front ++ back)))

def isNameStart (c : Char) : Bool := isLetter c || c == '_' || c == '$'

def isNamePart (c : Char) : Bool := isAlphanumeric c || c == '_' || c == '$'

/-- The operator at the start of a text, the longest one. -/
def lexOperator? : List Char → Option (Token × List Char)
  | '=' :: '=' :: '=' :: rest => some (.strictEq, rest)
  | '!' :: '=' :: '=' :: rest => some (.strictNotEq, rest)
  | '=' :: '=' :: rest => some (.eq, rest)
  | '!' :: '=' :: rest => some (.notEq, rest)
  | '<' :: '=' :: rest => some (.le, rest)
  | '>' :: '=' :: rest => some (.ge, rest)
  | '&' :: '&' :: rest => some (.and, rest)
  | '|' :: '|' :: rest => some (.or, rest)
  | '<' :: rest => some (.lt, rest)
  | '>' :: rest => some (.gt, rest)
  | '!' :: rest => some (.not, rest)
  | '-' :: rest => some (.minus, rest)
  | '.' :: rest => some (.dot, rest)
  | '[' :: rest => some (.lBracket, rest)
  | ']' :: rest => some (.rBracket, rest)
  | '(' :: rest => some (.lParen, rest)
  | ')' :: rest => some (.rParen, rest)
  | _ => none

/-- Whether a number starts here: at a digit, or at a point in front of one. -/
def startsNumber (c : Char) (rest : List Char) : Bool :=
  isAsciiDigit c || (c == '.' && (rest.head?.any isAsciiDigit))

/-- The token that starts with the character `c`, at the given position. -/
def lexToken (position : Nat) (c : Char) (rest : List Char) :
    Except Problem (Token × List Char) :=
  if c = '$' ∧ rest.head? = some '\x7b' then lexReference ['\x7d'] rest.tail
  else if c = '\x7b' ∧ rest.head? = some '\x7b' then lexReference ['\x7d', '\x7d'] rest.tail
  else if c = '\'' ∨ c = '"' then
    match readQuoted? c rest with
    | some (text, rest) => .ok (.str (String.ofList text), rest)
    | none => .error .unterminatedString
  else if startsNumber c rest then lexNumber (c :: rest)
  else if isNameStart c then
    .ok (.ident (String.ofList ((c :: rest).takeWhile isNamePart)),
      (c :: rest).dropWhile isNamePart)
  else
    match lexOperator? (c :: rest) with
    | some r => .ok r
    | none => .error (.unexpectedCharacter c position)

/-- The tokens of the rest of a text of `total` characters. Every step takes a character or more,
so as many steps as characters are enough. -/
def lexAll (total : Nat) : Nat → List Char → Except Problem (List Token)
  | _, [] => .ok []
  | 0, _ :: _ => .ok []
  | fuel + 1, c :: rest =>
    if isBlank c then lexAll total fuel rest
    else
      match lexToken (total - (rest.length + 1)) c rest with
      | .error p => .error p
      | .ok (t, rest) => (lexAll total fuel rest).map (t :: ·)

def tokenize (source : String) : Except Problem (List Token) :=
  let cs := source.toList
  lexAll cs.length cs.length cs

end PageHarvest.Expr
