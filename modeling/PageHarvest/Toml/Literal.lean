import PageHarvest.Data.Tree
import PageHarvest.Time.Instant

/-!
# Words and strings of TOML texts

A word is a truth value, a number, or a date, a time or both. Digits may have single underscores
between them. A string stands on one line between quotes or apostrophes, or on several lines
between three of them; apostrophes keep everything between them as it is.
-/

namespace PageHarvest.Toml

open Text

def isSpace (c : Char) : Bool := c = ' ' || c = '\t'

def skipSpaces (cs : List Char) : List Char := cs.dropWhile isSpace

/-! ## Numbers -/

/-- The digits without the underscores between them. -/
def plainDigits? (cs : List Char) : Option (List Char) :=
  if (splitChars (· = '_') cs).any List.isEmpty then none else some (cs.filter (· ≠ '_'))

/-- The number that digits to a base write. -/
def digits? (base : Nat) (cs : List Char) : Option Nat :=
  (plainDigits? cs).bind (Plain.digits? base)

/-- Digits without a needless zero in front. -/
def isWhole (cs : List Char) : Bool :=
  cs.all (fun c => isAsciiDigit c || c = '_') && (plainDigits? cs).isSome &&
    (cs.head? != some '0' || cs.length = 1)

/-- An integer of 64 bits with a sign. -/
def integer? (cs : List Char) : Option Int :=
  let n : Option Int := match cs with
    | '0' :: 'x' :: ds => (digits? 16 ds).map Int.ofNat
    | '0' :: 'o' :: ds => (digits? 8 ds).map Int.ofNat
    | '0' :: 'b' :: ds => (digits? 2 ds).map Int.ofNat
    | _ =>
      let (isNegative, ds) := Decimal.splitSign cs
      if isWhole ds then (digits? 10 ds).map fun n => if isNegative then -(n : Int) else n
      else none
  n.filter fun n => -Nat.pow 2 63 ≤ n ∧ n < Nat.pow 2 63

/-- Whether digits follow a point. -/
def isFraction : List Char → Bool
  | '.' :: ds => ds.all (fun c => isAsciiDigit c || c = '_') && (plainDigits? ds).isSome
  | cs => cs.isEmpty

/-- Whether digits follow the letter of an exponent. -/
def isExponent : List Char → Bool
  | e :: cs =>
    let ds := (Decimal.splitSign cs).2
    (e = 'e' || e = 'E') && ds.all (fun c => isAsciiDigit c || c = '_') &&
      (plainDigits? ds).isSome
  | [] => true

def isExponentMark (c : Char) : Bool := c = 'e' || c = 'E'

/-- A number with a fraction or an exponent, or a word for a number that is none. A number too large
is refused, one below all numbers is infinite. -/
def float? (cs : List Char) : Option Float :=
  let (isNegative, body) := Decimal.splitSign cs
  if body = "inf".toList then some (if isNegative then -1.0 / 0.0 else 1.0 / 0.0)
  else if body = "nan".toList then some (0.0 / 0.0)
  else
    let whole := body.takeWhile fun c => isAsciiDigit c || c = '_'
    let rest := body.drop whole.length
    let fraction := rest.takeWhile (!isExponentMark ·)
    let exponent := rest.drop fraction.length
    if isWhole whole && isFraction fraction && isExponent exponent && !rest.isEmpty then
      (Decimal.readNumeral? (cs.filter (· ≠ '_'))).filter fun f => f.isFinite || isNegative
    else none

/-! ## Dates and times -/

/-- Two digits with a value up to the limit. -/
def isPair (limit : Nat) (a b : Char) : Bool :=
  isAsciiDigit a && isAsciiDigit b && Decimal.digitsValue [a, b] 0 ≤ limit

def isDate : List Char → Bool
  | [a, b, c, d, '-', e, f, '-', g, h] =>
    [a, b, c, d, e, f, g, h].all isAsciiDigit &&
      (Instant.Date.mk (Decimal.digitsValue [a, b, c, d] 0) (Decimal.digitsValue [e, f] 0)
        (Decimal.digitsValue [g, h] 0)).isValid
  | _ => false

/-- The distance to UTC, or none. -/
def isOffset : List Char → Bool
  | [] => true
  | [c] => c = 'Z' || c = 'z'
  | [sign, a, b, ':', c, d] => (sign = '+' || sign = '-') && isPair 23 a b && isPair 59 c d
  | _ => false

/-- A time, with a distance to UTC where `allowsOffset` holds. -/
def isTime (allowsOffset : Bool) : List Char → Bool
  | a :: b :: ':' :: c :: d :: ':' :: e :: f :: rest =>
    isPair 23 a b && isPair 59 c d && isPair 60 e f &&
      (match rest with
        | '.' :: ds =>
          let offset := ds.dropWhile isAsciiDigit
          offset.length < ds.length && isOffset offset && (allowsOffset || offset.isEmpty)
        | offset => isOffset offset && (allowsOffset || offset.isEmpty))
  | _ => false

def isDateTime (cs : List Char) : Bool :=
  isDate (cs.take 10) && (match cs.drop 10 with
    | [] => true
    | c :: time => (c = 'T' || c = 't' || c = ' ') && isTime true time)

/-! ## Words -/

def isWordChar (c : Char) : Bool :=
  isAsciiLetter c || isAsciiDigit c || ['+', '-', '_', '.', ':'].contains c

/-- A word; a date and a time with a blank between them are one. -/
def splitWord (cs : List Char) : List Char × List Char :=
  let word := cs.takeWhile isWordChar
  match cs.drop word.length with
  | ' ' :: rest =>
    let time := rest.takeWhile isWordChar
    if isDate word && isTime true time then (word ++ ' ' :: time, rest.drop time.length)
    else (word, ' ' :: rest)
  | rest => (word, rest)

/-- What a word stands for. A point in time is a record of its own kind. -/
def ofWord? (cs : List Char) : Option Tree :=
  if cs = "true".toList then some (.truth true)
  else if cs = "false".toList then some (.truth false)
  else
    match integer? cs, float? cs with
    | some n, _ => some (.number (.int n))
    | none, some f => some (.number (.float f))
    | none, none =>
      if isDateTime cs || isTime false cs then some (.record [("$time", .text (String.ofList cs))])
      else none

/-! ## Strings -/

/-- Characters that a string or a comment may have besides line ends. -/
def isTextChar (c : Char) : Bool := c = '\t' || (0x20 ≤ c.toNat && c.toNat ≠ 0x7f)

def simpleEscape? : Char → Option Char
  | 'b' => some '\x08'
  | 't' => some '\t'
  | 'n' => some '\n'
  | 'f' => some '\x0c'
  | 'r' => some '\r'
  | '"' => some '"'
  | '\\' => some '\\'
  | _ => none

/-- The character with a number in hexadecimal digits. -/
def numbered? (ds : List Char) : Option Char :=
  ((Plain.digits? 16 ds).filter Nat.isValidChar).map Char.ofNat

/-- A reader's result with a character in front. -/
def withChar (c : Option Char) (r : Option (List Char × List Char)) :
    Option (List Char × List Char) := do
  let (cs, rest) ← r
  return ((← c) :: cs, rest)

/-- A string on one line after its quote. -/
def readQuoted? : List Char → Option (List Char × List Char)
  | [] => none
  | '"' :: rest => some ([], rest)
  | '\\' :: 'u' :: a :: b :: c :: d :: rest => withChar (numbered? [a, b, c, d]) (readQuoted? rest)
  | '\\' :: 'U' :: a :: b :: c :: d :: e :: f :: g :: h :: rest =>
    withChar (numbered? [a, b, c, d, e, f, g, h]) (readQuoted? rest)
  | '\\' :: c :: rest => withChar (simpleEscape? c) (readQuoted? rest)
  | c :: rest => if isTextChar c && c ≠ '\\' then withChar (some c) (readQuoted? rest) else none

/-- A string on one line after its apostrophe. -/
def readLiteral? (cs : List Char) : Option (List Char × List Char) :=
  let text := cs.takeWhile (· ≠ '\'')
  match cs.drop text.length with
  | _ :: rest => if text.all isTextChar then some (text, rest) else none
  | [] => none

/-- Up to two more quotes before the three that end a string belong to it. -/
def closeLines (quote : Char) : List Char → List Char × List Char
  | a :: b :: rest =>
    if a = quote then if b = quote then ([a, b], rest) else ([a], b :: rest) else ([], a :: b :: rest)
  | [a] => if a = quote then ([a], []) else ([], [a])
  | [] => ([], [])

/-- Whether nothing but blanks is left of the line. -/
def isAtLineEnd (cs : List Char) : Bool :=
  match skipSpaces cs with
  | '\n' :: _ => true
  | '\r' :: '\n' :: _ => true
  | _ => false

/-- A string on several lines after its quotes. A backslash at the end of a line takes away all
blanks and line ends up to the next character; while that goes on, `isTrimming` holds. -/
def readQuotedLines? (isTrimming : Bool) : List Char → Option (List Char × List Char)
  | [] => none
  | '"' :: '"' :: '"' :: rest => some (closeLines '"' rest)
  | '\\' :: 'u' :: a :: b :: c :: d :: rest =>
    withChar (numbered? [a, b, c, d]) (readQuotedLines? false rest)
  | '\\' :: 'U' :: a :: b :: c :: d :: e :: f :: g :: h :: rest =>
    withChar (numbered? [a, b, c, d, e, f, g, h]) (readQuotedLines? false rest)
  | '\\' :: c :: rest =>
    if isAtLineEnd (c :: rest) then readQuotedLines? true (c :: rest)
    else withChar (simpleEscape? c) (readQuotedLines? false rest)
  | '\r' :: '\n' :: rest =>
    if isTrimming then readQuotedLines? true rest
    else withChar (some '\n') (readQuotedLines? false rest)
  | c :: rest =>
    if isTrimming && (isSpace c || c = '\n') then readQuotedLines? true rest
    else if c = '\n' || (isTextChar c && c ≠ '\\') then
      withChar (some c) (readQuotedLines? false rest)
    else none

/-- A string on several lines after its apostrophes. -/
def readLiteralLines? : List Char → Option (List Char × List Char)
  | [] => none
  | '\'' :: '\'' :: '\'' :: rest => some (closeLines '\'' rest)
  | '\r' :: '\n' :: rest => withChar (some '\n') (readLiteralLines? rest)
  | c :: rest =>
    if c = '\n' || isTextChar c then withChar (some c) (readLiteralLines? rest) else none

/-- The line end right after the quotes of a string on several lines is not part of it. -/
def dropFirstLineEnd : List Char → List Char
  | '\n' :: cs => cs
  | '\r' :: '\n' :: cs => cs
  | cs => cs

/-- A string of any kind. -/
def readString? : List Char → Option (List Char × List Char)
  | '"' :: '"' :: '"' :: cs => readQuotedLines? false (dropFirstLineEnd cs)
  | '"' :: cs => readQuoted? cs
  | '\'' :: '\'' :: '\'' :: cs => readLiteralLines? (dropFirstLineEnd cs)
  | '\'' :: cs => readLiteral? cs
  | _ => none

end PageHarvest.Toml
