import PageHarvest.Data.Plain
import PageHarvest.Json.Printer
import PageHarvest.Yaml.Token

/-!
# Writing YAML texts

Records and lists stand in blocks, the items of a list at the indentation of the record that it
belongs to. A text is written plain if it reads back as that text, else in single quotes; in double
quotes if some of its characters have to be escaped; and as a literal block if it has line feeds.
-/

namespace PageHarvest.Yaml

/-! ## Kinds of text -/

/-- Whether a character can stand for itself. -/
def isPrintable (c : Char) : Bool :=
  let n := c.toNat
  n = 0x0a || (0x20 ≤ n && n ≤ 0x7e) || (0xa0 ≤ n && n ≤ 0xfffd && n ≠ 0xfeff) || 0x10000 ≤ n

/-- Whether two neighbours of the given kinds stand in the text, in this order. -/
def hasPair (p q : Char → Bool) : List Char → Bool
  | a :: b :: rest => (p a && q b) || hasPair p q (b :: rest)
  | _ => false

def isSpace (c : Char) : Bool := c = ' '

def isSpaceOrLineEnd (c : Char) : Bool := isSpace c || isLineEnd c

/-- Whether a mark inside the text would be taken for the end of a word or for a comment. -/
def hasInnerMark (afterGap : Bool) : List Char → Bool
  | [] => false
  | c :: cs =>
    (c = ':' && isAtGap cs) || (c = '#' && afterGap) || hasInnerMark (isGap c || isLineEnd c) cs

/-- Whether a plain word could not start with these characters. -/
def hasStartMark : List Char → Bool
  | [] => false
  | c :: cs => isMark c || ((c = '?' || c = ':' || c = '-') && isAtGap cs)

def hasMark (cs : List Char) : Bool :=
  hasStartMark cs || hasInnerMark false cs ||
    [['-', '-', '-'], ['.', '.', '.']].any fun mark => mark.isPrefixOf cs

/-- Whether a word would be taken for something else than a text. -/
def isAmbiguous (s : String) : Bool :=
  (match Plain.resolve? s with
    | some (.str _) => false
    | _ => true) ||
  Plain.isPadded (match s.toList with
    | '-' :: cs | '+' :: cs => cs
    | cs => cs)

inductive Style
  | plain
  | single
  | double
  | literal
  deriving DecidableEq, Repr

/-- Whether a text has to be escaped if it is written in quotes or as a block. -/
def needsEscapes (cs : List Char) : Bool := cs.any (!isPrintable ·) || hasPair isSpace isLineEnd cs

def isLiteralAllowed (cs : List Char) : Bool := !needsEscapes cs && cs.getLast? != some ' '

def isSingleAllowed (cs : List Char) : Bool := !needsEscapes cs && !hasPair isLineEnd isSpace cs

def isPlainAllowed (cs : List Char) : Bool :=
  isSingleAllowed cs && !cs.any isLineEnd && cs.head? != some ' ' && cs.getLast? != some ' ' &&
    !hasMark cs

/-- How a text is written. -/
def Style.ofText (s : String) : Style :=
  let cs := s.toList
  if cs.contains '\n' then if isLiteralAllowed cs then literal else double
  else if isPlainAllowed cs && !isAmbiguous s then plain
  else if isSingleAllowed cs then single
  else double

/-! ## Texts -/

def spaces (n : Nat) : List Char := List.replicate n ' '

/-- At least so many hexadecimal digits. -/
def hexDigits (width n : Nat) : List Char :=
  let ds := (Nat.toDigits 16 n).map Char.toUpper
  List.replicate (width - ds.length) '0' ++ ds

/-- A character in double quotes. -/
def escape (c : Char) : List Char :=
  let n := c.toNat
  if isPrintable c && !isLineEnd c && c ≠ '"' && c ≠ '\\' then [c]
  else
    '\\' :: match n with
      | 0x00 => ['0']
      | 0x07 => ['a']
      | 0x08 => ['b']
      | 0x09 => ['t']
      | 0x0a => ['n']
      | 0x0b => ['v']
      | 0x0c => ['f']
      | 0x0d => ['r']
      | 0x1b => ['e']
      | 0x22 => ['"']
      | 0x5c => ['\\']
      | 0x85 => ['N']
      | 0x2028 => ['L']
      | 0x2029 => ['P']
      | _ => if n ≤ 0xff then 'x' :: hexDigits 2 n else 'u' :: hexDigits 4 n

/-- A character in single quotes. -/
def doubleQuote (c : Char) : List Char := if c = '\'' then [c, c] else [c]

/-- Characters with an indentation after every line end that more characters follow. -/
def indented (indent : Nat) : List Char → List Char
  | c :: d :: cs =>
    if isLineEnd c && !isLineEnd d then c :: (spaces indent ++ indented indent (d :: cs))
    else c :: indented indent (d :: cs)
  | cs => cs

/-- The signs behind the bar of a literal block: its indentation, if the text starts with a blank,
and what becomes of the line ends at its end. -/
def literalHints (cs : List Char) : List Char :=
  (if (cs.head?.map isSpaceOrLineEnd).getD false then ['2'] else []) ++
    match cs.reverse with
    | [] => ['-']
    | [c] => if isLineEnd c then ['+'] else ['-']
    | c :: d :: _ => if !isLineEnd c then ['-'] else if isLineEnd d then ['+'] else []

/-- A text up to the end of its last line; the lines of a block are indented as given. -/
def writeText (indent : Nat) (s : String) : List Char :=
  let cs := s.toList
  match Style.ofText s with
  | .plain => cs ++ ['\n']
  | .single => '\'' :: (indented indent (cs.flatMap doubleQuote ++ ['\'']) ++ ['\n'])
  | .double => '"' :: (cs.flatMap escape ++ ['"', '\n'])
  | .literal =>
    let start := if (cs.head?.map isLineEnd).getD false then [] else spaces indent
    '|' :: (literalHints cs ++ '\n' :: (start ++ indented indent cs)) ++
      (if (cs.getLast?.map isLineEnd).getD false then [] else ['\n'])

/-- A key on one line. -/
def writeKey (s : String) : List Char :=
  match Style.ofText s with
  | .plain => s.toList
  | .single => '\'' :: (s.toList.flatMap doubleQuote ++ ['\''])
  | .double | .literal => '"' :: (s.toList.flatMap escape ++ ['"'])

/-! ## Values -/

mutual

/-- A value behind the key of a record at an indentation. -/
def writeValue (indent : Nat) : Json → List Char
  | .obj entries =>
    if entries.isEmpty then " \x7b\x7d\n".toList
    else '\n' :: writeEntries (indent + 2) false entries
  | .arr items => if items.isEmpty then " []\n".toList else '\n' :: writeItems indent false items
  | .str s => ' ' :: writeText (indent + 2) s
  | j => ' ' :: (j.compact.toList ++ ['\n'])

/-- The entries of a record; the first one may stand on the line of what is before it. -/
def writeEntries (indent : Nat) (onLine : Bool) : List (String × Json) → List Char
  | [] => []
  | (key, j) :: rest =>
    (if onLine then [] else spaces indent) ++ writeKey key ++ ':' :: writeValue indent j ++
      writeEntries indent false rest

/-- The items of a list; the first one may stand on the line of what is before it. -/
def writeItems (indent : Nat) (onLine : Bool) : List Json → List Char
  | [] => []
  | j :: rest =>
    (if onLine then [] else spaces indent) ++ '-' :: ' ' :: writeItem indent j ++
      writeItems indent false rest

/-- A value behind the mark of an item. -/
def writeItem (indent : Nat) : Json → List Char
  | .obj entries =>
    if entries.isEmpty then "\x7b\x7d\n".toList else writeEntries (indent + 2) true entries
  | .arr items => if items.isEmpty then "[]\n".toList else writeItems (indent + 2) true items
  | .str s => writeText (indent + 2) s
  | j => j.compact.toList ++ ['\n']

end

/-- A document with a record. -/
def write (entries : Entries Json) : String := String.ofList (writeEntries 0 false entries)

end PageHarvest.Yaml
