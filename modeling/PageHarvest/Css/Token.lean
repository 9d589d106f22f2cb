import PageHarvest.Text.Letter

/-!
# Tokens of style sheets

What a selector is made of. Comments are dropped; runs of blanks are one token. A string or an
escape may be ended by the end of the text.
-/

namespace PageHarvest.Css

open Text

inductive Token
  | space
  | ident (name : String)
  | function (name : String)
  | string (text : String)
  | badString
  /-- `#name` where the name is an identifier. -/
  | idHash (name : String)
  | hash (name : String)
  /-- A number without a fraction, if `value` is there; `signed` tells whether it has a sign. -/
  | number (signed : Bool) (value : Option Int)
  | percentage
  | dimension (signed : Bool) (value : Option Int) (unit : String)
  | delim (c : Char)
  | includeMatch
  | dashMatch
  | startMatch
  | endMatch
  | containMatch
  | lParen
  | rParen
  | lBracket
  | rBracket
  | lBrace
  | rBrace
  | comma
  | colon
  | semicolon
  | other
  deriving DecidableEq, Repr

namespace Token

def isSpace (c : Char) : Bool := c = ' ' || c = '\t' || c = '\n' || c = '\r' || c = '\x0c'

def isLineEnd (c : Char) : Bool := c = '\n' || c = '\r' || c = '\x0c'

def isNameStart (c : Char) : Bool :=
  isAsciiLetter c || c = '_' || c.toNat = 0 || !isAscii c

def isNameChar (c : Char) : Bool := isNameStart c || isAsciiDigit c || c = '-'

def hexValue? (c : Char) : Option Nat :=
  if '0' ≤ c ∧ c ≤ '9' then some (c.toNat - 48)
  else if 'a' ≤ c ∧ c ≤ 'f' then some (c.toNat - 87)
  else if 'A' ≤ c ∧ c ≤ 'F' then some (c.toNat - 55)
  else none

def replacement : Char := Char.ofNat 0xfffd

/-- The null character is not kept. -/
def keep (c : Char) : Char := if c.toNat = 0 then replacement else c

/-- One blank, with a carriage return and a line feed as one. -/
def dropOneSpace : List Char → List Char
  | '\r' :: '\n' :: rest => rest
  | c :: rest => if isSpace c then rest else c :: rest
  | [] => []

/-- An escape after its backslash: up to six hexadecimal digits and a blank, or one character. -/
def readEscape : List Char → Char × List Char
  | [] => (replacement, [])
  | c :: rest =>
    let ds := ((c :: rest).take 6).takeWhile fun d => (hexValue? d).isSome
    if ds.isEmpty then (keep c, rest)
    else
      let n := ds.foldl (fun n d => 16 * n + (hexValue? d).getD 0) 0
      let valid := n ≠ 0 ∧ (n < 0xd800 ∨ (0xe000 ≤ n ∧ n < 0x110000))
      (if valid then Char.ofNat n else replacement, dropOneSpace ((c :: rest).drop ds.length))

theorem length_dropOneSpace_le (cs : List Char) : (dropOneSpace cs).length ≤ cs.length := by
  unfold dropOneSpace
  split
  · simp; omega
  · split <;> simp
  · simp

theorem length_readEscape_le (cs : List Char) : (readEscape cs).2.length ≤ cs.length := by
  unfold readEscape
  split
  · simp
  · dsimp only
    split
    · simp
    · refine Nat.le_trans (length_dropOneSpace_le _) ?_
      simp only [List.length_drop]
      omega

/-- A backslash starts an escape unless a line ends after it. -/
def startsEscape : List Char → Bool
  | '\\' :: c :: _ => !isLineEnd c
  | ['\\'] => true
  | _ => false

/-- Whether an identifier starts here. A dash before a backslash starts one even where the backslash
starts no escape. -/
def startsIdent : List Char → Bool
  | '-' :: '-' :: _ | '-' :: '\\' :: _ => true
  | '-' :: c :: rest => isNameStart c || startsEscape (c :: rest)
  | c :: rest => isNameStart c || startsEscape (c :: rest)
  | [] => false

/-- The characters of a name, and what follows them. -/
def readName : List Char → List Char × List Char
  | [] => ([], [])
  | c :: rest =>
    if isNameChar c then
      let r := readName rest
      (keep c :: r.1, r.2)
    else if startsEscape (c :: rest) then
      let e := readEscape rest
      have := length_readEscape_le rest
      let r := readName e.2
      (e.1 :: r.1, r.2)
    else ([], c :: rest)
termination_by cs => cs.length
decreasing_by
  · simp
  · simp; omega

/-- The characters of a string after its opening quote; `none` if a line ends inside it. -/
def readString (quote : Char) : List Char → Option (List Char) × List Char
  | [] => (some [], [])
  | '\\' :: [] => (some [], [])
  | '\\' :: '\r' :: '\n' :: rest => readString quote rest
  | '\\' :: c :: rest =>
    if isLineEnd c then readString quote rest
    else
      let e := readEscape (c :: rest)
      have := length_readEscape_le (c :: rest)
      let r := readString quote e.2
      (r.1.map (e.1 :: ·), r.2)
  | c :: rest =>
    if c = quote then (some [], rest)
    else if isLineEnd c then (none, c :: rest)
    else
      let r := readString quote rest
      (r.1.map (keep c :: ·), r.2)
termination_by cs => cs.length
decreasing_by
  · simp only [List.length_cons]; omega
  · simp only [List.length_cons]; omega
  · simp only [List.length_cons] at *; omega
  · simp only [List.length_cons]; omega

def natOf (ds : List Char) : Nat := ds.foldl (fun n c => 10 * n + (c.toNat - 48)) 0

/-- Integers are kept within 32 bits. -/
def clamp (n : Int) : Int := max (-2147483648) (min 2147483647 n)

/-- Whether a number starts here. -/
def startsNumber : List Char → Bool
  | '.' :: d :: _ => isAsciiDigit d
  | s :: '.' :: d :: _ =>
    isAsciiDigit s || ((s = '+' || s = '-') && isAsciiDigit d)
  | s :: d :: _ => isAsciiDigit s || ((s = '+' || s = '-') && isAsciiDigit d)
  | [d] => isAsciiDigit d
  | [] => false

/-- An exponent, if one starts here. -/
def dropExponent : List Char → Bool × List Char
  | e :: s :: d :: rest =>
    if e = 'e' ∨ e = 'E' then
      if isAsciiDigit s then (true, (s :: d :: rest).dropWhile isAsciiDigit)
      else if (s = '+' ∨ s = '-') ∧ isAsciiDigit d then (true, (d :: rest).dropWhile isAsciiDigit)
      else (false, e :: s :: d :: rest)
    else (false, e :: s :: d :: rest)
  | [e, d] =>
    if (e = 'e' ∨ e = 'E') ∧ isAsciiDigit d then (true, []) else (false, [e, d])
  | cs => (false, cs)

/-- Whether a number has a sign, whether that is a minus, and what follows it. -/
def readSign : List Char → Bool × Bool × List Char
  | '-' :: rest => (true, true, rest)
  | '+' :: rest => (true, false, rest)
  | cs => (false, false, cs)

/-- A fraction, if one starts here. -/
def dropFraction : List Char → Bool × List Char
  | '.' :: d :: rest =>
    if isAsciiDigit d then (true, (d :: rest).dropWhile isAsciiDigit) else (false, '.' :: d :: rest)
  | cs => (false, cs)

/-- A number with its unit. -/
def readNumber (cs : List Char) : Token × List Char :=
  let (signed, negative, cs) := readSign cs
  let whole := cs.takeWhile isAsciiDigit
  let (fraction, rest) := dropFraction (cs.dropWhile isAsciiDigit)
  let (exponent, rest) := dropExponent rest
  let n : Int := natOf whole
  let value := if fraction || exponent then none else some (clamp (if negative then -n else n))
  match rest with
  | '%' :: rest => (.percentage, rest)
  | rest =>
    if startsIdent rest then
      let (unit, rest) := readName rest
      (.dimension signed value (String.ofList unit), rest)
    else (.number signed value, rest)

/-- What follows a comment. -/
def dropComment : List Char → List Char
  | '*' :: '/' :: rest => rest
  | _ :: rest => dropComment rest
  | [] => []

/-- An identifier, or a function if a parenthesis follows. -/
def readIdentLike (cs : List Char) : Token × List Char :=
  match readName cs with
  | (name, '(' :: rest) => (.function (String.ofList name), rest)
  | (name, rest) => (.ident (String.ofList name), rest)

/-- The token that starts with the character `c`. The end mark of a markup comment is read before an
identifier. -/
def next (c : Char) (rest : List Char) : Token × List Char :=
  if startsNumber (c :: rest) then readNumber (c :: rest)
  else if c = '-' && rest.take 2 == ['-', '>'] then (.other, rest.drop 2)
  else if startsIdent (c :: rest) then readIdentLike (c :: rest)
  else
    match c, rest with
    | '"', rest | '\'', rest =>
      match readString c rest with
      | (some text, rest) => (.string (String.ofList text), rest)
      | (none, rest) => (.badString, rest)
    | '#', rest =>
      if startsIdent rest then
        let (name, rest) := readName rest
        (.idHash (String.ofList name), rest)
      else if rest.head?.any fun d => isAsciiDigit d || d = '-' then
        let (name, rest) := readName rest
        (.hash (String.ofList name), rest)
      else (.delim '#', rest)
    | '~', '=' :: rest => (.includeMatch, rest)
    | '|', '=' :: rest => (.dashMatch, rest)
    | '^', '=' :: rest => (.startMatch, rest)
    | '$', '=' :: rest => (.endMatch, rest)
    | '*', '=' :: rest => (.containMatch, rest)
    | '(', rest => (.lParen, rest)
    | ')', rest => (.rParen, rest)
    | '[', rest => (.lBracket, rest)
    | ']', rest => (.rBracket, rest)
    | '\x7b', rest => (.lBrace, rest)
    | '\x7d', rest => (.rBrace, rest)
    | ',', rest => (.comma, rest)
    | ':', rest => (.colon, rest)
    | ';', rest => (.semicolon, rest)
    | '<', '!' :: '-' :: '-' :: rest => (.other, rest)
    | '@', rest =>
      if startsIdent rest then (.other, (readName rest).2) else (.delim '@', rest)
    | c, rest => (.delim c, rest)

/-- The tokens of a text. Every step takes a character or more. -/
def readAll : Nat → List Char → List Token
  | _, [] => []
  | 0, _ :: _ => []
  | fuel + 1, c :: rest =>
    if isSpace c then .space :: readAll fuel (rest.dropWhile isSpace)
    else
      match c, rest with
      | '/', '*' :: rest => readAll fuel (dropComment rest)
      | c, rest =>
        let (t, rest) := next c rest
        t :: readAll fuel rest

def tokenize (s : String) : List Token := readAll s.toList.length s.toList

end Token

end PageHarvest.Css
