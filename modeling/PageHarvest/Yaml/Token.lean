import PageHarvest.Text.Letter

/-!
# Tokens of YAML texts

What a text is made of once its indentation has been made explicit: blocks are opened and closed
like brackets, and every key and every value is announced. Line ends are one character here;
`unifyLines` makes them so.
-/

namespace PageHarvest.Yaml

inductive Token
  | documentStart
  | documentEnd
  /-- The begin of a list whose items start with `-`. -/
  | openList
  /-- The begin of a record whose entries stand on lines of their own. -/
  | openRecord
  /-- The end of a list or record that has no brackets. -/
  | close
  | leftBracket
  | rightBracket
  | leftBrace
  | rightBrace
  | item
  | comma
  | key
  | value
  | scalar (isPlain : Bool) (text : List Char)
  deriving DecidableEq, Repr

/-! ## Characters -/

def isGap (c : Char) : Bool := c = ' ' || c = '\t'

/-- A line feed, or one of the two characters that separate lines and paragraphs. -/
def isLineEnd (c : Char) : Bool := c = '\n' || c.toNat = 0x2028 || c.toNat = 0x2029

/-- Whether the text goes on with a blank or a line end, or not at all. -/
def isAtGap : List Char → Bool
  | [] => true
  | c :: _ => isGap c || isLineEnd c

/-- Characters that a text may have. -/
def isAllowed (c : Char) : Bool :=
  let n := c.toNat
  n = 0x09 || n = 0x0a || n = 0x0d || (0x20 ≤ n && n ≤ 0x7e) || n = 0x85 ||
    (0xa0 ≤ n && n ≤ 0xfffd) || 0x10000 ≤ n

/-- The mark of byte order, which may stand at the start of a line and takes a column there. -/
def isOrderMark (c : Char) : Bool := c.toNat = 0xfeff

/-- Makes every line end one character: line feeds stand for all but the separators. -/
def unifyLines : List Char → List Char
  | '\r' :: '\n' :: cs => '\n' :: unifyLines cs
  | c :: cs => (if c = '\r' ∨ c.toNat = 0x85 then '\n' else c) :: unifyLines cs
  | [] => []

/-- The characters that stand alone in lists and records with brackets. -/
def isFlowMark (c : Char) : Bool := c = ',' || c = '[' || c = ']' || c = '\x7b' || c = '\x7d'

/-- Marks that no plain scalar starts with. -/
def isMark (c : Char) : Bool :=
  isFlowMark c || ['#', '&', '*', '!', '|', '>', '\'', '"', '%', '@', Char.ofNat 0x60].contains c

/-- Whether three marks end the document or start one here, given at the start of a line. -/
def isDocumentMark (mark : Char) : List Char → Bool
  | a :: b :: c :: rest => a = mark && b = mark && c = mark && isAtGap rest
  | _ => false

def isDocumentLine (cs : List Char) : Bool := isDocumentMark '-' cs || isDocumentMark '.' cs

/-! ## Positions -/

structure Position where
  index : Nat
  line : Nat
  column : Nat
  deriving DecidableEq, Repr

namespace Position

def start : Position := ⟨0, 0, 0⟩

/-- The position after a character. -/
def after (p : Position) (c : Char) : Position :=
  if isLineEnd c then ⟨p.index + 1, p.line + 1, 0⟩ else ⟨p.index + 1, p.line, p.column + 1⟩

/-- The position after characters of one line. -/
def plus (p : Position) (n : Nat) : Position := ⟨p.index + n, p.line, p.column + n⟩

end Position

/-- What is still to be read, and where it stands. -/
structure Rest where
  chars : List Char
  position : Position

end PageHarvest.Yaml
