import PageHarvest.Data.Plain
import PageHarvest.Yaml.Token

/-!
# Scalars

The four ways to write a text.

- Plain words end at a mark and at a line that is not indented enough.
- Quotes: in single ones a quote is written twice, in double ones there are escapes.
- Blocks after `|` keep their lines, blocks after `>` fold them.

Between two words a gap inside one line is kept; a gap over one line end is one blank, and a gap
over several is all line ends but the first.
-/

namespace PageHarvest.Yaml

/-! ## Gaps -/

/-- What stands between two words of a scalar. -/
inductive Gap
  | blanks (cs : List Char)
  /-- Line ends; the first one counts as a blank if the gap folds. -/
  | lines (folds : Bool) (ends : List Char)

namespace Gap

def none : Gap := .blanks []

def blank (c : Char) : Gap → Gap
  | blanks cs => blanks (cs ++ [c])
  | lines folds ends => lines folds ends

def lineEnd (c : Char) : Gap → Gap
  | blanks _ => lines true [c]
  | lines folds ends => lines folds (ends ++ [c])

def isOverLines : Gap → Bool
  | blanks _ => false
  | lines _ _ => true

def isEmpty : Gap → Bool
  | blanks cs => cs.isEmpty
  | lines _ _ => false

/-- The gap as text. -/
def text : Gap → List Char
  | blanks cs => cs
  | lines true ['\n'] => [' ']
  | lines true ('\n' :: ends) => ends
  | lines _ ends => ends

end Gap

/-! ## Plain words -/

/-- Whether a plain scalar ends before this character. -/
def endsPlain (isFlow : Bool) (c : Char) (cs : List Char) : Bool :=
  (c = ':' && isAtGap cs) || (isFlow && isFlowMark c)

/-- Whether a colon stands where it cannot be told what it means. -/
def isUnclearColon (isFlow : Bool) (c : Char) (cs : List Char) : Bool :=
  isFlow && c = ':' && (match cs with
    | d :: _ => isFlowMark d || d = '?'
    | [] => false)

/-- Whether a plain scalar ends between two words. -/
def endsBetweenWords (isFlow : Bool) (indent : Nat) (c : Char) (cs : List Char) (p : Position) :
    Bool :=
  c = '#' || (!isFlow && p.column < indent) || (p.column = 0 && isDocumentLine (c :: cs))

/-- A plain scalar after `done`, its characters in reverse, and after a gap. Lines have to be
indented by `indent`. Gives the text and whether a line end follows it. -/
def readPlain (isFlow : Bool) (indent : Nat) (done : List Char) (gap : Gap) :
    List Char → Position → Option (List Char × Bool × Rest)
  | [], p => some (done.reverse, gap.isOverLines, ⟨[], p⟩)
  | c :: cs, p =>
    let stop (rest : Rest) := some (done.reverse, gap.isOverLines, rest)
    if isGap c then
      if c = '\t' && gap.isOverLines && p.column < indent then none
      else readPlain isFlow indent done (gap.blank c) cs (p.after c)
    else if isLineEnd c then readPlain isFlow indent done (gap.lineEnd c) cs (p.after c)
    else if !gap.isEmpty && endsBetweenWords isFlow indent c cs p then stop ⟨c :: cs, p⟩
    else if isUnclearColon isFlow c cs then none
    else if endsPlain isFlow c cs then stop ⟨c :: cs, p⟩
    else readPlain isFlow indent (c :: (gap.text.reverse ++ done)) Gap.none cs (p.after c)

/-! ## Quotes -/

/-- The value of hexadecimal digits. -/
def hexValue? (ds : List Char) : Option Nat := Plain.digits? 16 ds

/-- The characters that a one-letter escape stands for. -/
def simpleEscape? : Char → Option Nat
  | '0' => some 0x00
  | 'a' => some 0x07
  | 'b' => some 0x08
  | 't' | '\t' => some 0x09
  | 'n' => some 0x0a
  | 'v' => some 0x0b
  | 'f' => some 0x0c
  | 'r' => some 0x0d
  | 'e' => some 0x1b
  | ' ' => some 0x20
  | '"' => some 0x22
  | '/' => some 0x2f
  | '\\' => some 0x5c
  | 'N' => some 0x85
  | '_' => some 0xa0
  | 'L' => some 0x2028
  | 'P' => some 0x2029
  | _ => none

/-- The number of hexadecimal digits after the letter of an escape. -/
def escapeWidth : Char → Nat
  | 'x' => 2
  | 'u' => 4
  | 'U' => 8
  | _ => 0

/-- An escape, given the characters after its backslash: what it stands for, and how many
characters it takes. -/
def readEscape? (c : Char) (cs : List Char) : Option (Char × Nat) :=
  match simpleEscape? c with
  | some n => some (Char.ofNat n, 1)
  | none =>
    let width := escapeWidth c
    if width = 0 ∨ cs.length < width then none
    else ((hexValue? (cs.take width)).filter Nat.isValidChar).map (Char.ofNat ·, width + 1)

/-- A scalar in double quotes after `done`, its characters in reverse, and after a gap. -/
def readDouble (done : List Char) (gap : Gap) :
    List Char → Position → Option (List Char × Rest)
  | [], _ => none
  | c :: cs, p =>
    if p.column = 0 && isDocumentLine (c :: cs) then none
    else if isGap c then readDouble done (gap.blank c) cs (p.after c)
    else if isLineEnd c then readDouble done (gap.lineEnd c) cs (p.after c)
    else
      let done := gap.text.reverse ++ done
      if c = '"' then some (done.reverse, ⟨cs, p.after c⟩)
      else if c = '\\' then
        match cs with
        | [] => none
        | d :: rest =>
          if isLineEnd d then readDouble done (.lines false []) rest ((p.after c).after d)
          else
            match readEscape? d rest with
            | none => none
            | some (e, n) => readDouble (e :: done) Gap.none (rest.drop (n - 1)) (p.plus (n + 1))
      else readDouble (c :: done) Gap.none cs (p.after c)
termination_by cs => cs.length
decreasing_by all_goals simp_all; try omega

/-- A scalar in single quotes after `done`, its characters in reverse, and after a gap. -/
def readSingle (done : List Char) (gap : Gap) :
    List Char → Position → Option (List Char × Rest)
  | [], _ => none
  | '\'' :: '\'' :: cs, p =>
    readSingle ('\'' :: (gap.text.reverse ++ done)) Gap.none cs (p.plus 2)
  | c :: cs, p =>
    if p.column = 0 && isDocumentLine (c :: cs) then none
    else if isGap c then readSingle done (gap.blank c) cs (p.after c)
    else if isLineEnd c then readSingle done (gap.lineEnd c) cs (p.after c)
    else
      let done := gap.text.reverse ++ done
      if c = '\'' then some (done.reverse, ⟨cs, p.after c⟩)
      else readSingle (c :: done) Gap.none cs (p.after c)

/-! ## Blocks -/

/-- What becomes of the line ends at the end of a block. -/
inductive Ending
  | clip
  | strip
  | keep

structure BlockHeader where
  isLiteral : Bool
  ending : Ending
  /-- How much deeper than its parent the block is indented, if that is said. -/
  indent : Option Nat

def ending? : Char → Option Ending
  | '+' => some .keep
  | '-' => some .strip
  | _ => none

def indentDigit? (c : Char) : Option Nat :=
  if '1' ≤ c ∧ c ≤ '9' then some (c.toNat - '0'.toNat) else none

/-- The header after `|` or `>`, without the rest of its line. -/
def readHeader (isLiteral : Bool) : List Char → BlockHeader × List Char
  | c :: d :: cs =>
    match ending? c, indentDigit? d, indentDigit? c, ending? d with
    | some e, some n, _, _ => (⟨isLiteral, e, some n⟩, cs)
    | some e, none, _, _ => (⟨isLiteral, e, none⟩, d :: cs)
    | none, _, some n, some e => (⟨isLiteral, e, some n⟩, cs)
    | none, _, some n, none => (⟨isLiteral, .clip, some n⟩, d :: cs)
    | none, _, none, _ => (⟨isLiteral, .clip, none⟩, c :: d :: cs)
  | [c] =>
    match ending? c, indentDigit? c with
    | some e, _ => (⟨isLiteral, e, none⟩, [])
    | none, some n => (⟨isLiteral, .clip, some n⟩, [])
    | none, none => (⟨isLiteral, .clip, none⟩, [c])
  | [] => (⟨isLiteral, .clip, none⟩, [])

/-- Blanks and a comment up to the end of the line. -/
def skipToLineEnd (cs : List Char) : List Char :=
  match cs.dropWhile isGap with
  | '#' :: rest => rest.dropWhile fun c => !isLineEnd c
  | rest => rest

/-- Lines of spaces alone: their ends and the greatest column reached. Only `limit` spaces count
as indentation, and no tab may stand among them. -/
def readEmptyLines (limit : Option Nat) (widest : Nat) (ends : List Char) :
    List Char → Position → Option (List Char × Nat × Rest)
  | [], p => some (ends.reverse, max widest p.column, ⟨[], p⟩)
  | c :: cs, p =>
    let isIndent := match limit with
      | some n => p.column < n
      | none => true
    if isIndent && c = ' ' then readEmptyLines limit widest ends cs (p.after c)
    else if isIndent && c = '\t' then none
    else if isLineEnd c then
      readEmptyLines limit (max widest p.column) (c :: ends) cs (p.after c)
    else some (ends.reverse, max widest p.column, ⟨c :: cs, p⟩)

/-- The lines of a block read so far. -/
structure Block where
  /-- The characters in reverse. -/
  done : List Char
  /-- The end of the last line that is not empty, and the ends of the empty lines after it. -/
  lineEnd : List Char
  emptyEnds : List Char
  /-- Whether that line starts with a blank. -/
  startsBlank : Bool

namespace Block

/-- The line ends between the last line and a new one. -/
def between (isLiteral startsBlank : Bool) (b : Block) : List Char :=
  if !isLiteral && b.lineEnd == ['\n'] && !b.startsBlank && !startsBlank then
    if b.emptyEnds.isEmpty then [' '] else b.emptyEnds
  else b.lineEnd ++ b.emptyEnds

/-- Begins a line. -/
def begin (isLiteral : Bool) (c : Char) (b : Block) : Block :=
  ⟨(b.between isLiteral (isGap c)).reverse ++ b.done, [], [], isGap c⟩

def text (ending : Ending) (b : Block) : List Char :=
  b.done.reverse ++ match ending with
    | .strip => []
    | .clip => b.lineEnd
    | .keep => b.lineEnd ++ b.emptyEnds

end Block

/-- The lines of a block that is indented by `indent`; `inLine` tells whether the text goes on
inside a line. -/
def readBlock (isLiteral : Bool) (indent : Nat) (inLine : Bool) (b : Block) :
    List Char → Position → Option (Block × Rest)
  | [], p => some (b, ⟨[], p⟩)
  | c :: cs, p =>
    if inLine then
      if isLineEnd c then
        readBlock isLiteral indent false { b with lineEnd := [c] } cs (p.after c)
      else readBlock isLiteral indent true { b with done := c :: b.done } cs (p.after c)
    else if p.column < indent && c = ' ' then
      readBlock isLiteral indent false b cs (p.after c)
    else if p.column < indent && c = '\t' then none
    else if isLineEnd c then
      readBlock isLiteral indent false { b with emptyEnds := b.emptyEnds ++ [c] } cs (p.after c)
    else if p.column = indent then
      let b := b.begin isLiteral c
      readBlock isLiteral indent true { b with done := c :: b.done } cs (p.after c)
    else some (b, ⟨c :: cs, p⟩)

/-- A block scalar after `|` or `>`, in a block whose lines are indented by `parent`. -/
def readBlockScalar (isLiteral : Bool) (parent : Nat) (cs : List Char) (p : Position) :
    Option (List Char × Rest) := do
  let (header, rest) := readHeader isLiteral cs
  let rest := skipToLineEnd rest
  let p := p.plus (cs.length - rest.length)
  let (rest, p) ← match rest with
    | [] => some ([], p)
    | c :: more => if isLineEnd c then some (more, p.after c) else none
  let declared := header.indent.map (parent - 1 + ·)
  let (ends, widest, rest) ← readEmptyLines declared 0 [] rest p
  let indent := declared.getD (max widest (max parent 1))
  let start : Block := ⟨[], [], ends, false⟩
  let (b, rest) ← readBlock isLiteral indent false start rest.chars rest.position
  return (b.text header.ending, rest)

end PageHarvest.Yaml
