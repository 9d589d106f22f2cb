import PageHarvest.Yaml.Scalar

/-!
# From indentation to tokens

The indentations of the open blocks stand on a stack. A deeper column opens a block, a shallower
one closes those that are deeper than it. Whether a scalar or a bracket is a key turns out only at
the colon behind it; so each one that may be a key is remembered with the number of tokens before
it, and the key is put in there. A key stands on one line and has at most 1024 characters.

- `Layout.next?` reads one token with all that it opens and closes.
- `tokens?` reads a whole text.
-/

namespace PageHarvest.Yaml

/-- Something that is a key if a colon follows it. -/
structure Candidate where
  position : Position
  /-- The number of tokens before it. -/
  before : Nat
  /-- Whether nothing but a key can stand there. -/
  isRequired : Bool

/-- The state of reading. -/
structure Layout where
  rest : List Char
  position : Position
  /-- The tokens read so far, the last one first, and their number. -/
  done : List Token
  count : Nat
  /-- The columns of the open blocks, the innermost one first. -/
  indents : List Nat
  candidate : Option Candidate
  /-- The candidates around the open brackets, the innermost one first. -/
  outer : List (Option Candidate)
  /-- Whether a key may start here. -/
  allowsKey : Bool

namespace Layout

def start (cs : List Char) : Layout := ⟨cs, .start, [], 0, [], none, [], true⟩

def isFlow (l : Layout) : Bool := !l.outer.isEmpty

/-- The least column inside the innermost block. -/
def innerColumn (l : Layout) : Nat :=
  match l.indents with
  | [] => 0
  | n :: _ => n + 1

def push (t : Token) (l : Layout) : Layout := { l with done := t :: l.done, count := l.count + 1 }

/-- Puts tokens in after the first `n`. -/
def splice (n : Nat) (ts : List Token) (l : Layout) : Layout :=
  let k := l.count - n
  { l with done := l.done.take k ++ ts.reverse ++ l.done.drop k, count := l.count + ts.length }

/-- Goes over characters of one line. -/
def skip (n : Nat) (l : Layout) : Layout :=
  { l with rest := l.rest.drop n, position := l.position.plus n }

def goTo (r : Rest) (l : Layout) : Layout := { l with rest := r.chars, position := r.position }

/-! ## Blocks -/

/-- Closes the blocks deeper than a column. -/
def closeDeeper (column : Nat) (l : Layout) : Layout :=
  let deeper := l.indents.takeWhile (column < ·)
  { l with
    indents := l.indents.drop deeper.length
    done := deeper.map (fun _ => Token.close) ++ l.done
    count := l.count + deeper.length }

def closeAll (l : Layout) : Layout :=
  { l with
    indents := []
    done := l.indents.map (fun _ => Token.close) ++ l.done
    count := l.count + l.indents.length }

/-- Whether a block at the column is deeper than the open ones. -/
def isDeeper (column : Nat) (l : Layout) : Bool := !l.isFlow && l.innerColumn ≤ column

/-- Opens a block here, if this is deeper than the open ones. -/
def openHere (t : Token) (l : Layout) : Layout :=
  if l.isDeeper l.position.column then
    { l.push t with indents := l.position.column :: l.indents }
  else l

/-! ## Candidates -/

/-- Whether a candidate is too far back to be a key. -/
def isStale (p : Position) (c : Candidate) : Bool :=
  c.position.line < p.line || c.position.index + 1024 < p.index

/-- Drops a candidate that is too far back. -/
def refresh? (p : Position) : Option Candidate → Option (Option Candidate)
  | none => some none
  | some c => if !isStale p c then some (some c) else if c.isRequired then none else some none

def dropStale? (l : Layout) : Option Layout := do
  return { l with
    candidate := ← refresh? l.position l.candidate
    outer := ← l.outer.mapM (refresh? l.position) }

/-- Gives the candidate up. -/
def dropCandidate? (l : Layout) : Option Layout :=
  match l.candidate with
  | some c => if c.isRequired then none else some { l with candidate := none }
  | none => some l

/-- Remembers that a key may start here. -/
def saveCandidate? (l : Layout) : Option Layout :=
  if l.allowsKey then do
    let isRequired := !l.isFlow && l.indents.head? == some l.position.column
    return { ← l.dropCandidate? with candidate := some ⟨l.position, l.count, isRequired⟩ }
  else some l

/-! ## Tokens -/

/-- Goes over blanks, comments, line ends, and marks of byte order. -/
def skipGaps (isFlow : Bool) (allowsKey : Bool) (inComment : Bool) :
    List Char → Position → Bool × Rest
  | [], p => (allowsKey, ⟨[], p⟩)
  | c :: cs, p =>
    if isLineEnd c then skipGaps isFlow (allowsKey || !isFlow) false cs (p.after c)
    else if inComment || c = ' ' || (c = '\t' && (isFlow || !allowsKey)) ||
        (p.column = 0 && isOrderMark c) then
      skipGaps isFlow allowsKey inComment cs (p.after c)
    else if c = '#' then skipGaps isFlow allowsKey true cs (p.after c)
    else (allowsKey, ⟨c :: cs, p⟩)

def toNextToken (l : Layout) : Layout :=
  let (allowsKey, rest) := skipGaps l.isFlow l.allowsKey false l.rest l.position
  { l.goTo rest with allowsKey }

def readDocumentMark? (t : Token) (l : Layout) : Option Layout := do
  let l ← l.closeAll.dropCandidate?
  return { (l.skip 3).push t with allowsKey := false }

def openBracket? (t : Token) (l : Layout) : Option Layout := do
  let l ← l.saveCandidate?
  return { (l.skip 1).push t with
    outer := l.candidate :: l.outer, candidate := none, allowsKey := true }

def closeBracket? (t : Token) (l : Layout) : Option Layout := do
  let l ← l.dropCandidate?
  let l := { (l.skip 1).push t with allowsKey := false }
  return match l.outer with
    | [] => l
    | c :: outer => { l with candidate := c, outer }

def readComma? (l : Layout) : Option Layout := do
  let l ← l.dropCandidate?
  return { (l.skip 1).push .comma with allowsKey := true }

def readItem? (l : Layout) : Option Layout := do
  if !l.isFlow && !l.allowsKey then none
  let l ← (l.openHere .openList).dropCandidate?
  return { (l.skip 1).push .item with allowsKey := true }

/-- A question mark announces a key. -/
def readKey? (l : Layout) : Option Layout := do
  if !l.isFlow && !l.allowsKey then none
  let l ← (l.openHere .openRecord).dropCandidate?
  return { (l.skip 1).push .key with allowsKey := !l.isFlow }

/-- A colon makes the candidate a key. -/
def readValue? (l : Layout) : Option Layout :=
  match l.candidate with
  | some c =>
    let column := c.position.column
    let l :=
      if l.isDeeper column then
        { l.splice c.before [.openRecord, .key] with indents := column :: l.indents }
      else l.splice c.before [.key]
    some { (l.skip 1).push .value with candidate := none, allowsKey := false }
  | none =>
    if l.isFlow then some { (l.skip 1).push .value with allowsKey := false }
    else if l.allowsKey then
      some { ((l.openHere .openRecord).skip 1).push .value with allowsKey := true }
    else none

def readQuoted? (isDouble : Bool) (l : Layout) : Option Layout := do
  let l ← l.saveCandidate?
  let read := if isDouble then readDouble else readSingle
  let (cs, rest) ← read [] Gap.none (l.rest.drop 1) (l.position.plus 1)
  return { (l.push (.scalar false cs)).goTo rest with allowsKey := false }

def readPlain? (l : Layout) : Option Layout := do
  let l ← l.saveCandidate?
  let (cs, isOverLines, rest) ←
    readPlain l.isFlow l.innerColumn [] Gap.none l.rest l.position
  return { (l.push (.scalar true cs)).goTo rest with allowsKey := isOverLines }

def readBlock? (isLiteral : Bool) (l : Layout) : Option Layout := do
  let l ← l.dropCandidate?
  let (cs, rest) ←
    readBlockScalar isLiteral l.innerColumn (l.rest.drop 1) (l.position.plus 1)
  return { (l.push (.scalar false cs)).goTo rest with allowsKey := true }

/-- Whether a plain scalar starts with the character. -/
def startsPlain (isFlow : Bool) (c : Char) (cs : List Char) : Bool :=
  if c = '-' then
    match cs with
    | d :: _ => !isGap d
    | [] => true
  else if c = '?' ∨ c = ':' then !isFlow && !isAtGap cs
  else !isGap c && !isMark c

/-- Reads the token that starts with a character. -/
def readToken? (c : Char) (cs : List Char) (l : Layout) : Option Layout :=
  if l.position.column = 0 && isDocumentMark '-' (c :: cs) then l.readDocumentMark? .documentStart
  else if l.position.column = 0 && isDocumentMark '.' (c :: cs) then
    l.readDocumentMark? .documentEnd
  else if c = '[' then l.openBracket? .leftBracket
  else if c = '\x7b' then l.openBracket? .leftBrace
  else if c = ']' then l.closeBracket? .rightBracket
  else if c = '\x7d' then l.closeBracket? .rightBrace
  else if c = ',' then l.readComma?
  else if c = '-' ∧ isAtGap cs then l.readItem?
  else if c = '?' ∧ (l.isFlow || isAtGap cs) then l.readKey?
  else if c = ':' ∧ (l.isFlow || isAtGap cs) then l.readValue?
  else if c = '|' ∧ !l.isFlow then l.readBlock? true
  else if c = '>' ∧ !l.isFlow then l.readBlock? false
  else if c = '\'' then l.readQuoted? false
  else if c = '"' then l.readQuoted? true
  else if startsPlain l.isFlow c cs then l.readPlain?
  else none

/-- Closes everything at the end of the text. -/
def finish? (l : Layout) : Option Layout :=
  let l := if l.isFlow then l else l.closeAll
  l.dropCandidate?

/-- Reads up to the end of the text, at most so many tokens. -/
def readAll? : Nat → Layout → Option Layout
  | 0, _ => none
  | fuel + 1, l => do
    let l ← l.toNextToken.dropStale?
    let l := if l.isFlow then l else l.closeDeeper l.position.column
    match l.rest with
    | [] => l.finish?
    | c :: cs => readAll? fuel (← l.readToken? c cs)

end Layout

/-- The tokens of a text. -/
def tokens? (text : String) : Option (List Token) :=
  if !text.toList.all isAllowed then none
  else
    let cs := unifyLines text.toList
    (Layout.readAll? (cs.length + 1) (.start cs)).map fun l => l.done.reverse

end PageHarvest.Yaml
