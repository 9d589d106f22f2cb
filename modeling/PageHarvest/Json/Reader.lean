import PageHarvest.Data.Tree

/-!
# Reading JSON text

A strict grammar: no comments, no comma before a closing bracket, no leading zero, no control
character inside a string. A number without point and exponent is an integer if it fits 64 bits,
apart from `-0`, which is a floating point zero.

A floating point number is read as the digits that fit 64 bits, as an integer, times or divided by
a power of ten.

A part may keep to the grammar and still stand for no value: a string with half a surrogate pair,
a number whose value is infinite, or an array or object with 127 others around it. `readTree?`
leaves such a part unread, so that it does no harm where it is ignored. `readRaw?` and `read?`
refuse texts that have one; `readRaw?` keeps repeated keys, `read?` merges them.
-/

namespace PageHarvest.Json

open Text

def isSpace (c : Char) : Bool := c = ' ' || c = '\n' || c = '\t' || c = '\r'

def skipSpace (cs : List Char) : List Char := cs.dropWhile isSpace

/-! ## Strings -/

def hexValue? (c : Char) : Option Nat :=
  if '0' ≤ c ∧ c ≤ '9' then some (c.toNat - 48)
  else if 'a' ≤ c ∧ c ≤ 'f' then some (c.toNat - 87)
  else if 'A' ≤ c ∧ c ≤ 'F' then some (c.toNat - 55)
  else none

/-- Four hexadecimal digits as a number. -/
def hex4? (a b c d : Char) : Option Nat := do
  return (((← hexValue? a) * 16 + (← hexValue? b)) * 16 + (← hexValue? c)) * 16 + (← hexValue? d)

/-- The character that a one-letter escape stands for. -/
def simpleEscape? : Char → Option Char
  | '"' => some '"'
  | '\\' => some '\\'
  | '/' => some '/'
  | 'b' => some '\x08'
  | 'f' => some '\x0c'
  | 'n' => some '\n'
  | 'r' => some '\r'
  | 't' => some '\t'
  | _ => none

def isHighHalf (n : Nat) : Bool := 0xd800 ≤ n && n < 0xdc00

def isLowHalf (n : Nat) : Bool := 0xdc00 ≤ n && n < 0xe000

/-- A string with a character in front; there is no string without the character. -/
def prepend (c : Option Char) (r : Option (List Char) × List Char) :
    Option (List Char) × List Char :=
  (c.bind fun c => r.1.map (c :: ·), r.2)

/-- The characters of a string after its opening quote, and what follows its closing quote. There
are none if half a surrogate pair is escaped on its own. -/
def readString? : List Char → Option (Option (List Char) × List Char)
  | [] => none
  | '"' :: rest => some (some [], rest)
  | '\\' :: 'u' :: a :: b :: c :: d :: '\\' :: 'u' :: e :: f :: g :: h :: rest => do
    let n ← hex4? a b c d
    let low ← hex4? e f g h
    if isHighHalf n && isLowHalf low then
      let c := Char.ofNat (0x10000 + (n - 0xd800) * 0x400 + (low - 0xdc00))
      return prepend (some c) (← readString? rest)
    else
      let c := if isHighHalf n || isLowHalf n then none else some (Char.ofNat n)
      return prepend c (← readString? ('\\' :: 'u' :: e :: f :: g :: h :: rest))
  | '\\' :: 'u' :: a :: b :: c :: d :: rest => do
    let n ← hex4? a b c d
    let c := if isHighHalf n || isLowHalf n then none else some (Char.ofNat n)
    return prepend c (← readString? rest)
  | '\\' :: x :: rest => do
    let c ← simpleEscape? x
    return prepend (some c) (← readString? rest)
  | c :: rest =>
    if c.toNat < 0x20 ∨ c = '\\' then none
    else (readString? rest).map (prepend (some c))

/-! ## Numbers -/

/-- The first number that 64 bits do not hold. -/
def wordLimit : Nat := Nat.pow 2 64

/-- The power of ten as a floating point number. -/
def powerOfTen (n : Nat) : Float := Float.ofScientific 1 false n

/-- `m · 10 ^ e` by one multiplication or by divisions, `none` if that is infinite. -/
def scale? (m : Nat) (e : Int) : Option Float :=
  go (Float.ofNat m) e ((-e).toNat / 308 + 1)
where
  go (f : Float) (e : Int) : Nat → Option Float
    | 0 => some f
    | fuel + 1 =>
      if 0 ≤ e then
        if e ≤ 308 then
          let r := f * powerOfTen e.toNat
          if r.isInf then none else some r
        else if f == 0.0 then some f else none
      else if -308 ≤ e then some (f / powerOfTen (-e).toNat)
      else if f == 0.0 then some f
      else go (f / powerOfTen 308) (e + 308) fuel

/-- Takes digits into the number as long as 64 bits hold it. Gives the number, how many digits
went in, and what follows them. -/
def takeDigits : Nat → List Char → Nat × Nat × List Char
  | n, [] => (n, 0, [])
  | n, c :: rest =>
    if isAsciiDigit c then
      let m := 10 * n + (c.toNat - 48)
      if m < wordLimit then
        let (r, k, rest) := takeDigits m rest
        (r, k + 1, rest)
      else (n, 0, c :: rest)
    else (n, 0, c :: rest)

/-- The greatest exponent that is read as it stands. -/
def exponentLimit : Nat := Nat.pow 2 31 - 1

/-- The exponent after its letter, added to one from the point. -/
def readExponent? (m : Nat) (e : Int) (cs : List Char) : Option (Option Float × List Char) :=
  let (negative, ds) := match cs with
    | '-' :: r => (true, r)
    | '+' :: r => (false, r)
    | r => (false, r)
  let run := ds.takeWhile isAsciiDigit
  let rest := ds.dropWhile isAsciiDigit
  if run.isEmpty then none
  else
    let x := run.foldl (fun n c => 10 * n + (c.toNat - 48)) 0
    if exponentLimit < x then some (if m ≠ 0 ∧ !negative then none else some 0.0, rest)
    else some (scale? m (if negative then e - x else e + x), rest)

/-- What follows the last digit that counts: an exponent or nothing. -/
def finishFloat? (m : Nat) (e : Int) : List Char → Option (Option Float × List Char)
  | c :: rest =>
    if c = 'e' ∨ c = 'E' then readExponent? m e rest else some (scale? m e, c :: rest)
  | [] => some (scale? m e, [])

/-- The digits after a point. -/
def readFraction? (m : Nat) (e : Int) (cs : List Char) : Option (Option Float × List Char) :=
  let (m, k, rest) := takeDigits m cs
  if k = 0 ∧ !(cs.headD ' ' |> isAsciiDigit) then none
  else finishFloat? m (e - k) (rest.dropWhile isAsciiDigit)

/-- An integer that fits 64 bits stays one, apart from the negative zero. -/
def wholeNumber (negative : Bool) (m : Nat) : Number :=
  if negative then
    if m = 0 ∨ Nat.pow 2 63 < m then .float (-(Float.ofNat m)) else .int (-(m : Int))
  else .int m

/-- A number without its sign, from its first digit; it has no value if that would be infinite. -/
def readUnsigned? (negative : Bool) (cs : List Char) : Option (Option Number × List Char) :=
  let signed (r : Option Float × List Char) : Option Number × List Char :=
    (r.1.map fun f => .float (if negative then -f else f), r.2)
  let afterWhole (m : Nat) (e : Int) (rest : List Char) : Option (Option Number × List Char) :=
    match rest with
    | '.' :: r => (readFraction? m e r).map signed
    | rest =>
      if e = 0 ∧ !(rest.head?.any fun c => c = 'e' || c = 'E') then
        some (some (wholeNumber negative m), rest)
      else (finishFloat? m e rest).map signed
  match cs with
  | '0' :: rest => if isAsciiDigit (rest.headD ' ') then none else afterWhole 0 0 rest
  | c :: _ =>
    if isAsciiDigit c then
      let (m, _, rest) := takeDigits 0 cs
      afterWhole m (rest.takeWhile isAsciiDigit).length (rest.dropWhile isAsciiDigit)
    else none
  | [] => none

def readNumber? : List Char → Option (Option Number × List Char)
  | '-' :: rest => readUnsigned? true rest
  | cs => readUnsigned? false cs

/-! ## Values -/

/-- How many arrays and objects may stand inside each other. -/
def maxDepth : Nat := 127

/-- A part, or an unread one if there is none. -/
def orUnread {α : Type} (make : α → Tree) : Option α → Tree
  | some a => make a
  | none => .unread

/-- The record of entries of which each has to have its key. -/
def ofKeyed (entries : List (Option String × Tree)) : Tree :=
  orUnread .record (entries.mapM fun e => e.1.map (·, e.2))

mutual

/-- A value and what follows it. `depth` is how many more levels may open, `fuel` bounds the number
of steps. -/
def readValue? : Nat → Nat → List Char → Option (Tree × List Char)
  | 0, _, _ => none
  | fuel + 1, depth, cs =>
    let nested (t : Tree) : Tree := if depth = 0 then .unread else t
    match skipSpace cs with
    | 'n' :: 'u' :: 'l' :: 'l' :: rest => some (.null, rest)
    | 't' :: 'r' :: 'u' :: 'e' :: rest => some (.truth true, rest)
    | 'f' :: 'a' :: 'l' :: 's' :: 'e' :: rest => some (.truth false, rest)
    | '"' :: rest =>
      (readString? rest).map fun r => (orUnread (fun cs => .text (String.ofList cs)) r.1, r.2)
    | '[' :: rest =>
      match skipSpace rest with
      | ']' :: rest => some (nested (.list []), rest)
      | rest => (readItems? fuel (depth - 1) rest).map fun r => (nested (.list r.1), r.2)
    | '\x7b' :: rest =>
      match skipSpace rest with
      | '\x7d' :: rest => some (nested (.record []), rest)
      | rest => (readEntries? fuel (depth - 1) rest).map fun r => (nested (ofKeyed r.1), r.2)
    | rest => (readNumber? rest).map fun r => (orUnread .number r.1, r.2)

/-- The items of an array from its first one on. -/
def readItems? : Nat → Nat → List Char → Option (List Tree × List Char)
  | 0, _, _ => none
  | fuel + 1, depth, cs => do
    let (t, rest) ← readValue? fuel depth cs
    match skipSpace rest with
    | ']' :: rest => return ([t], rest)
    | ',' :: rest =>
      let (ts, rest) ← readItems? fuel depth rest
      return (t :: ts, rest)
    | _ => none

/-- The entries of an object from its first one on. -/
def readEntries? : Nat → Nat → List Char → Option (List (Option String × Tree) × List Char)
  | 0, _, _ => none
  | fuel + 1, depth, cs =>
    match skipSpace cs with
    | '"' :: rest => do
      let (key, rest) ← readString? rest
      match skipSpace rest with
      | ':' :: rest =>
        let (t, rest) ← readValue? fuel depth rest
        let entry := (key.map String.ofList, t)
        match skipSpace rest with
        | '\x7d' :: rest => return ([entry], rest)
        | ',' :: rest =>
          let (es, rest) ← readEntries? fuel depth rest
          return (entry :: es, rest)
        | _ => none
      | _ => none
    | _ => none

end

/-- The tree of a whole text. -/
def readTree? (s : String) : Option Tree :=
  let cs := s.toList
  match readValue? (cs.length + 1) maxDepth cs with
  | some (t, rest) => if (skipSpace rest).isEmpty then some t else none
  | none => none

/-- The value of a whole text, repeated keys and all. -/
def readRaw? (s : String) : Option Json := (readTree? s).bind Tree.toJson?

/-- The value of a whole text. -/
def read? (s : String) : Option Json := (readRaw? s).map collapse

end PageHarvest.Json
