import PageHarvest.Regex.CharClass
import PageHarvest.Regex.Pattern
import PageHarvest.Text.Blank
import PageHarvest.Text.Letter

/-!
# Reading patterns

The notation of regular expressions without look-around and back references: flags such as
`(?i)`, groups with and without names, counted and lazy repetition, classes with ranges, nesting
and the operations `&&`, `--` and `~~`, and classes by name. A text that is not in the notation
gives `none`.

One flag matters while reading: where `x` is on, blanks and comments stand between any two parts
and mean nothing. The readers take it as `v` and call `skip v` wherever a gap may be.
-/

namespace PageHarvest.Regex

open Text

/-! ## Gaps -/

/-- The text after blanks and comments; a comment goes from `#` to the end of its line. -/
def skipGap (cs : List Char) : List Char :=
  match _h : cs.dropWhile isBlank with
  | '#' :: rest => skipGap (rest.dropWhile (· ≠ '\n'))
  | rest => rest
termination_by cs.length
decreasing_by
  have h₁ := (List.dropWhile_suffix (l := cs) isBlank).length_le
  have h₂ := (List.dropWhile_suffix (l := rest) (· ≠ '\n')).length_le
  simp only [_h, List.length_cons] at h₁
  omega

/-- The text from the next part on. -/
def skip (v : Bool) (cs : List Char) : List Char := if v then skipGap cs else cs

/-- The first character of what follows a dash in a class. Where gaps may be, blanks do not count,
and neither does the mark of a comment, whose text however does. -/
def peek? (v : Bool) (cs : List Char) : Option Char :=
  if !v then cs.head?
  else
    match cs.dropWhile isBlank with
    | '#' :: rest => (rest.find? (!isBlank ·)).orElse fun _ => cs.head?
    | c :: _ => some c
    | [] => cs.head?

/-! ## Escapes -/

def hexDigit? (c : Char) : Option Nat :=
  if '0' ≤ c ∧ c ≤ '9' then some (c.toNat - 48)
  else if 'a' ≤ c ∧ c ≤ 'f' then some (c.toNat - 87)
  else if 'A' ≤ c ∧ c ≤ 'F' then some (c.toNat - 55)
  else none

/-- The character with the given number. -/
def charOf? (n : Nat) : Option Char :=
  if n < 0xd800 ∨ (0xe000 ≤ n ∧ n < CodeSet.limit) then some (Char.ofNat n) else none

/-- The given number of hexadecimal digits, with the gap after them. -/
def readDigits? (v : Bool) : Nat → Nat → List Char → Option (Nat × List Char)
  | 0, n, cs => some (n, cs)
  | _ + 1, _, [] => none
  | count + 1, n, c :: rest => do
    let d ← hexDigit? c
    readDigits? v count (16 * n + d) (skip v rest)

/-- The characters up to a closing brace, without the gaps among them. -/
def readBraced? (v : Bool) : Nat → List Char → Option (List Char × List Char)
  | 0, _ => none
  | fuel + 1, cs =>
    match skip v cs with
    | [] => none
    | '}' :: rest => some ([], rest)
    | c :: rest => (readBraced? v fuel rest).map fun r => (c :: r.1, r.2)

/-- A hexadecimal escape after its letter: digits in braces, or a fixed number of digits. -/
def readHex? (v : Bool) (letter : Char) (cs : List Char) : Option (Literal × List Char) :=
  match skip v cs with
  | '{' :: rest => do
    let (ds, rest) ← readBraced? v (rest.length + 1) rest
    let n ← ds.foldlM (fun n d => (hexDigit? d).map (16 * n + ·)) 0
    if ds.isEmpty then none else return (⟨← charOf? n, false⟩, skip v rest)
  | cs => do
    let (n, rest) ← readDigits? v (if letter = 'x' then 2 else if letter = 'u' then 4 else 8) 0 cs
    return (⟨← charOf? n, letter = 'x'⟩, rest)

/-- The place of a character in a list and what stands around it. -/
def splitAtChar? (c : Char) (cs : List Char) : Option (List Char × List Char) :=
  match cs.dropWhile (· ≠ c) with
  | _ :: rest => some (cs.takeWhile (· ≠ c), rest)
  | [] => none

/-- What stands before and after the first `!=`. -/
def splitAtUnequal? : List Char → Option (List Char × List Char)
  | '!' :: '=' :: rest => some ([], rest)
  | c :: rest => (splitAtUnequal? rest).map fun (k, v) => (c :: k, v)
  | [] => none

/-- The name of a property in braces: `name`, `name=value`, `name:value` or `name!=value`. -/
def propertyOf (negated : Bool) (name : List Char) : NamedClass :=
  match splitAtUnequal? name with
  | some (k, v) => ⟨.propertyValue k v, !negated⟩
  | none =>
    match (splitAtChar? ':' name).orElse fun _ => splitAtChar? '=' name with
    | some (k, v) => ⟨.propertyValue k v, negated⟩
    | none => ⟨.property name, negated⟩

/-- A class by property, from after its letter. -/
def readProperty? (v : Bool) (negated : Bool) (cs : List Char) : Option (NamedClass × List Char) :=
  match skip v cs with
  | [] => none
  | '\\' :: _ => none
  | '{' :: rest => (readBraced? v (rest.length + 1) rest).map fun r => (propertyOf negated r.1, r.2)
  | c :: rest => some (⟨.property [c], negated⟩, rest)

/-- The word of an assertion in braces, without the gaps in it, and the rest. -/
def readAnchorWord (v : Bool) : Nat → List Char → List Char × List Char
  | 0, cs => ([], cs)
  | fuel + 1, cs =>
    match cs with
    | c :: rest =>
      if isAsciiLetter c || c = '-' then
        let (word, rest) := readAnchorWord v fuel (skip v rest)
        (c :: word, rest)
      else ([], cs)
    | [] => ([], [])

/-- The assertion of `\b`, which a word in braces makes more special. Braces that do not start with
a letter or a dash are left to be read as a count. -/
def readBoundary? (v : Bool) (cs : List Char) : Option (Anchor × List Char) :=
  match cs with
  | '{' :: more =>
    let inner := skip v more
    match readAnchorWord v inner.length inner with
    | ([], _) => if inner.isEmpty then none else some (.wordBoundary, cs)
    | (word, '}' :: rest) =>
      match String.ofList word with
      | "start" => some (.wordStart, rest)
      | "end" => some (.wordEnd, rest)
      | "start-half" => some (.wordStartHalf, rest)
      | "end-half" => some (.wordEndHalf, rest)
      | _ => none
    | _ => none
  | _ => some (.wordBoundary, cs)

/-- What an escape or a plain character stands for. -/
inductive Primitive
  | literal (l : Literal)
  | named (c : NamedClass)
  | anchor (a : Anchor)

/-- A character that stands for itself. -/
def Primitive.plain (c : Char) : Primitive := .literal ⟨c, false⟩

/-- An escape after its backslash. -/
def readEscape? (v : Bool) : List Char → Option (Primitive × List Char)
  | [] => none
  | c :: rest =>
    match c with
    | 'x' | 'u' | 'U' => (readHex? v c rest).map fun r => (.literal r.1, r.2)
    | 'p' => (readProperty? v false rest).map fun r => (.named r.1, r.2)
    | 'P' => (readProperty? v true rest).map fun r => (.named r.1, r.2)
    | 'd' => some (.named ⟨.letter .digit, false⟩, rest)
    | 's' => some (.named ⟨.letter .space, false⟩, rest)
    | 'w' => some (.named ⟨.letter .word, false⟩, rest)
    | 'D' => some (.named ⟨.letter .digit, true⟩, rest)
    | 'S' => some (.named ⟨.letter .space, true⟩, rest)
    | 'W' => some (.named ⟨.letter .word, true⟩, rest)
    | 'a' => some (.plain '\x07', rest)
    | 'f' => some (.plain '\x0c', rest)
    | 't' => some (.plain '\t', rest)
    | 'n' => some (.plain '\n', rest)
    | 'r' => some (.plain '\r', rest)
    | 'v' => some (.plain '\x0b', rest)
    | 'A' => some (.anchor .textStart, rest)
    | 'z' => some (.anchor .textEnd, rest)
    | 'b' => (readBoundary? v rest).map fun r => (.anchor r.1, r.2)
    | 'B' => some (.anchor .notWordBoundary, rest)
    | '<' => some (.anchor .wordStart, rest)
    | '>' => some (.anchor .wordEnd, rest)
    | _ =>
      if isAscii c && !isAsciiLetter c && !isAsciiDigit c then some (.plain c, rest) else none

/-! ## Classes in brackets -/

/-- A class with an ASCII name, from after its opening bracket. -/
def readAsciiClass? : List Char → Option (NamedClass × List Char)
  | ':' :: rest =>
    let (negated, rest) := match rest with
      | '^' :: r => (true, r)
      | r => (false, r)
    match rest.dropWhile (· ≠ ':') with
    | ':' :: ']' :: after =>
      (CharClass.ascii? (String.ofList (rest.takeWhile (· ≠ ':')))).map fun s =>
        (⟨.ascii s, negated⟩, after)
    | _ => none
  | _ => none

def readClassPrimitive? (v : Bool) : List Char → Option (Primitive × List Char)
  | '\\' :: rest => readEscape? v rest
  | c :: rest => some (.plain c, rest)
  | [] => none

/-- An item of a class on its own; an assertion is none. -/
def Primitive.item? : Primitive → Option ClassItem
  | .literal l => some (.literal l)
  | .named c => some (.named c)
  | .anchor _ => none

/-- One item of a class: a character, a range, or a class by name. -/
def readClassRange? (v : Bool) (cs : List Char) : Option (ClassItem × List Char) := do
  let (p, rest) ← readClassPrimitive? v cs
  match skip v rest with
  | [] => none
  | '-' :: after =>
    if peek? v after = some ']' ∨ peek? v after = some '-' then return (← p.item?, '-' :: after)
    else
      let (q, rest) ← readClassPrimitive? v (skip v after)
      match p, q with
      | .literal a, .literal b => if a.char ≤ b.char then return (.range a b, rest) else none
      | _, _ => none
  | rest => return (← p.item?, rest)

/-- The items read so far, last first, joined to the part in front of them, if there is one. -/
def joinBody (pending : Option (ClassOp × ClassBody)) (items : List ClassItem) : ClassBody :=
  match pending with
  | none => .items items.reverse
  | some (kind, left) => .op kind left (.items items.reverse)

/-- The dashes that a class may start with. -/
def readDashes (v : Bool) : Nat → List Char → List ClassItem × List Char
  | fuel + 1, '-' :: rest =>
    let (dashes, rest) := readDashes v fuel (skip v rest)
    (.literal ⟨'-', false⟩ :: dashes, rest)
  | _, cs => ([], cs)

/-- How a class starts: whether it is negated, the items that only count as such at the start, and
the rest. -/
def readClassStart (v : Bool) (cs : List Char) : Bool × List ClassItem × List Char :=
  let cs := skip v cs
  let (negated, cs) := match cs with
    | '^' :: r => (true, skip v r)
    | r => (false, r)
  match readDashes v cs.length cs with
  | ([], ']' :: rest) => (negated, [.literal ⟨']', false⟩], rest)
  | (dashes, rest) => (negated, dashes, rest)

/-- The deepest nesting that a pattern may have. -/
def maxNesting : Nat := 250

/-- The items of a class up to its closing bracket, with the levels that may still be opened. -/
def readClassBody? (v : Bool) (levels : Nat) :
    Nat → Option (ClassOp × ClassBody) → List ClassItem → List Char → Option (ClassBody × List Char)
  | 0, _, _, _ => none
  | fuel + 1, pending, items, cs =>
    let op (kind : ClassOp) (rest : List Char) :=
      readClassBody? v levels fuel (some (kind, joinBody pending items)) [] rest
    match skip v cs with
    | [] => none
    | ']' :: rest => some (joinBody pending items, rest)
    | '[' :: rest =>
      match readAsciiClass? rest, levels with
      | some (c, rest), _ => readClassBody? v levels fuel pending (.named c :: items) rest
      | none, 0 => none
      | none, levels + 1 => do
        let (negated, first, rest) := readClassStart v rest
        let (body, rest) ← readClassBody? v levels fuel none first.reverse rest
        readClassBody? v (levels + 1) fuel pending (.bracketed negated body :: items) rest
    | '&' :: '&' :: rest => op .inter rest
    | '-' :: '-' :: rest => op .diff rest
    | '~' :: '~' :: rest => op .symmDiff rest
    | cs => do
      let (item, rest) ← readClassRange? v cs
      readClassBody? v levels fuel pending (item :: items) rest

/-- A class from after its opening bracket. -/
def readClass? (v : Bool) (cs : List Char) : Option (Pattern × List Char) :=
  let (negated, first, rest) := readClassStart v cs
  (readClassBody? v maxNesting (rest.length + 1) none first.reverse rest).map fun r =>
    (.bracketed negated r.1, r.2)

/-! ## Groups and repetition -/

/-- What is left to read, the index of the next group, and the names in use. -/
structure ReaderState where
  rest : List Char
  nextGroup : Nat
  names : List (List Char)

/-- The flag of a letter. -/
def Flag.ofLetter? : Char → Option Flag
  | 'i' => some .caseless
  | 'm' => some .multiLine
  | 's' => some .dotAll
  | 'R' => some .crlf
  | 'U' => some .swapGreed
  | 'u' => some .unicode
  | 'x' => some .verbose
  | _ => none

/-- Flag letters up to `:` or `)`. Gives the changes, whether a group is opened by them, and the
rest. A letter, or the dash, may stand once, and the dash not last. -/
def readFlags? (value dangling : Bool) (seen : List Char) :
    List Char → Option (FlagChanges × Bool × List Char)
  | [] => none
  | ':' :: rest => if dangling then none else some ([], true, rest)
  | ')' :: rest => if dangling || seen.isEmpty then none else some ([], false, rest)
  | '-' :: rest => if value then readFlags? false true ('-' :: seen) rest else none
  | c :: rest =>
    if seen.contains c then none
    else do
      let flag ← Flag.ofLetter? c
      let (changes, opens, rest) ← readFlags? value false (c :: seen) rest
      return ((flag, value) :: changes, opens, rest)

/-- Whether gaps may be after the changes. -/
def FlagChanges.verbose (changes : FlagChanges) (before : Bool) : Bool :=
  (changes.lookup .verbose).getD before

/-- Whether a name can start with the character, or go on with it. -/
def isNameChar (first : Bool) (c : Char) : Bool :=
  c = '_' || isLetter c || (!first && (isAlphanumeric c || c = '.' || c = '[' || c = ']'))

/-- A group name up to `>`. -/
def readName? (cs : List Char) : Option (List Char × List Char) := do
  let (name, rest) ← splitAtChar? '>' cs
  match name with
  | [] => none
  | c :: more => if isNameChar true c && more.all (isNameChar false) then some (name, rest) else none

/-- A decimal number with the gaps among its digits, `none` if there is no digit. -/
def readNumber? (v : Bool) : Nat → Option Nat → List Char → Option (Nat × List Char)
  | fuel + 1, n, c :: rest =>
    if isAsciiDigit c then readNumber? v fuel (some (10 * n.getD 0 + (c.toNat - 48))) (skip v rest)
    else n.map (·, c :: rest)
  | _, n, cs => n.map (·, cs)

/-- A count with blanks around it. -/
def readCount? (v : Bool) (cs : List Char) : Option (Nat × List Char) := do
  let cs := cs.dropWhile isBlank
  let (n, rest) ← readNumber? v cs.length none cs
  if n < Nat.pow 2 32 then return (n, rest.dropWhile isBlank) else none

/-- The bounds of a counted repetition, from after its opening brace. -/
def readBounds? (v : Bool) (cs : List Char) : Option (Nat × Option Nat × List Char) := do
  let (least, rest) ← readCount? v (skip v cs)
  match rest with
  | '}' :: rest => return (least, some least, rest)
  | ',' :: rest =>
    match skip v rest with
    | '}' :: rest => return (least, none, rest)
    | rest =>
      let (most, rest) ← readCount? v rest
      match rest with
      | '}' :: rest => if least ≤ most then return (least, some most, rest) else none
      | _ => none
  | _ => none

/-- Puts a repetition around the last of the parts, which stand last first. A question mark after
it makes it lazy. -/
def repeatLast? (least : Nat) (most : Option Nat) (parts : List Pattern) (rest : List Char) :
    Option (List Pattern × List Char) :=
  match parts with
  | p :: before =>
    if p.canRepeat then
      match rest with
      | '?' :: rest => some (.repeated least most true p :: before, rest)
      | _ => some (.repeated least most false p :: before, rest)
    else none
  | [] => none

/-- A character with its special meaning outside classes, or itself. -/
def readPrimitive? (v : Bool) : List Char → Option (Pattern × List Char)
  | '\\' :: rest => do
    match ← readEscape? v rest with
    | (.literal l, rest) => return (.literal l, rest)
    | (.named c, rest) => return (.named c, rest)
    | (.anchor a, rest) => return (.anchor a, rest)
  | '.' :: rest => some (.dot, rest)
  | '^' :: rest => some (.anchor .start, rest)
  | '$' :: rest => some (.anchor .stop, rest)
  | c :: rest => some (.literal ⟨c, false⟩, rest)
  | [] => none

/-- The branches of a group, or of the whole pattern, to its end. Of the branch that is being read
the parts stand last first. `levels` counts the groups that may still be opened; at the outermost
level it is one more than there may be. -/
def readBranches? :
    Nat → Nat → Bool → List Pattern → List Pattern → ReaderState → Option (Pattern × ReaderState)
  | 0, _, _, _, _, _ => none
  | fuel + 1, levels, v, branches, parts, st =>
    let withBranch (branches : List Pattern) : List Pattern :=
      Pattern.ofParts parts.reverse :: branches
    let finish (rest : List Char) : Option (Pattern × ReaderState) :=
      some (Pattern.ofBranches (withBranch branches).reverse, { st with rest })
    let goOn (parts : List Pattern) (rest : List Char) :=
      readBranches? fuel levels v branches parts { st with rest }
    let group (kind : GroupKind) (inner : Bool) (st : ReaderState) := do
      if levels = 0 then none
      let (body, st) ← readBranches? fuel (levels - 1) inner [] [] st
      readBranches? fuel levels v branches (.group kind body :: parts) st
    let named (rest : List Char) := do
      let (name, rest) ← readName? rest
      if st.names.contains name then none
      else group (.capture st.nextGroup) v ⟨rest, st.nextGroup + 1, name :: st.names⟩
    match skip v st.rest with
    | [] => if levels ≤ maxNesting then none else finish []
    | ')' :: rest => if levels ≤ maxNesting then finish rest else none
    | '|' :: rest => readBranches? fuel levels v (withBranch branches) [] { st with rest }
    | '(' :: rest =>
      match skip v rest with
      | '?' :: 'P' :: '<' :: rest => named rest
      | '?' :: '<' :: rest => named rest
      | '?' :: rest => do
        let (changes, opens, rest) ← readFlags? true false [] rest
        let inner := changes.verbose v
        if opens then group (.scope changes) inner { st with rest }
        else readBranches? fuel levels inner branches (.flags changes :: parts) { st with rest }
      | rest => group (.capture st.nextGroup) v { st with rest, nextGroup := st.nextGroup + 1 }
    | '[' :: rest => do
      let (p, rest) ← readClass? v rest
      goOn (p :: parts) rest
    | '*' :: rest => do
      let (parts, rest) ← repeatLast? 0 none parts rest
      goOn parts rest
    | '+' :: rest => do
      let (parts, rest) ← repeatLast? 1 none parts rest
      goOn parts rest
    | '?' :: rest => do
      let (parts, rest) ← repeatLast? 0 (some 1) parts rest
      goOn parts rest
    | '{' :: rest => do
      let (least, most, rest) ← readBounds? v rest
      let (parts, rest) ← repeatLast? least most parts (skip v rest)
      goOn parts rest
    | cs => do
      let (p, rest) ← readPrimitive? v cs
      goOn (p :: parts) rest

/-- The pattern that a text denotes. -/
def readPattern? (text : String) : Option Pattern := do
  let cs := text.toList
  let (p, _) ← readBranches? (cs.length + 1) (maxNesting + 1) false [] [] ⟨cs, 1, []⟩
  if p.depth ≤ maxNesting then some p else none

end PageHarvest.Regex
