import PageHarvest.Toml.Literal
import PageHarvest.Toml.Table

/-!
# Reading TOML texts

A text is a list of statements, one on a line: headers that begin a table, and keys with values.
The statements are read first, then carried out one after the other.
-/

namespace PageHarvest.Toml

open Text

/-! ## Gaps -/

/-- Goes over blanks, comments and line ends. -/
def skipLines? (inComment : Bool) : List Char → Option (List Char)
  | [] => some []
  | '\r' :: '\n' :: cs => skipLines? false cs
  | c :: cs =>
    if c = '\n' then skipLines? false cs
    else if inComment then if isTextChar c then skipLines? true cs else none
    else if isSpace c then skipLines? false cs
    else if c = '#' then skipLines? true cs
    else some (c :: cs)

/-- Goes over the rest of a line, which holds nothing but a comment. -/
def finishLine? (cs : List Char) : Option (List Char) :=
  let rest := match skipSpaces cs with
    | '#' :: comment => comment.dropWhile isTextChar
    | rest => rest
  match rest with
  | [] => some []
  | '\n' :: next => some next
  | '\r' :: '\n' :: next => some next
  | _ => none

/-! ## Keys -/

def isBareChar (c : Char) : Bool := isAsciiLetter c || isAsciiDigit c || c = '_' || c = '-'

def readName? : List Char → Option (String × List Char)
  | '"' :: cs => (readQuoted? cs).map fun r => (String.ofList r.1, r.2)
  | '\'' :: cs => (readLiteral? cs).map fun r => (String.ofList r.1, r.2)
  | cs =>
    let name := cs.takeWhile isBareChar
    if name.isEmpty then none else some (String.ofList name, cs.drop name.length)

/-- The names of a dotted key in reverse, those read so far given; at most so many more. -/
def readNames? : Nat → List String → List Char → Option (List String × List Char)
  | 0, _, _ => none
  | fuel + 1, names, cs => do
    let (name, rest) ← readName? (skipSpaces cs)
    match skipSpaces rest with
    | '.' :: rest => readNames? fuel (name :: names) rest
    | rest => some (name :: names, rest)

/-- A key: its last name and the names before it. -/
structure Key where
  path : List String
  name : String

/-- How many names a key may have, and how many lists and records may be inside each other. -/
def maxDepth : Nat := 79

def readKey? (cs : List Char) : Option (Key × List Char) :=
  match readNames? maxDepth [] cs with
  | some (name :: names, rest) => some (⟨names.reverse, name⟩, rest)
  | _ => none

/-- What follows a character. -/
def after? (c : Char) : List Char → Option (List Char)
  | d :: cs => if c = d then some cs else none
  | [] => none

/-- A key with the equals sign behind it. -/
def readKeyOfValue? (cs : List Char) : Option (Key × List Char) := do
  let (key, rest) ← readKey? cs
  return (key, skipSpaces (← after? '=' rest))

/-! ## Values -/

mutual

/-- A value. The first number bounds the count of steps, the second one how many more lists and
records may be inside each other. -/
def readValue? : Nat → Nat → List Char → Option (Tree × List Char)
  | 0, _, _ => none
  | _ + 1, _, [] => none
  | fuel + 1, depth, c :: cs =>
    if c = '[' then if depth = 0 then none else readItems? fuel (depth - 1) [] cs
    else if c = '\x7b' then
      if depth = 0 then none
      else match skipSpaces cs with
      | [] => none
      | d :: rest =>
        if d = '\x7d' then some (.record [], rest)
        else readFields? fuel (depth - 1) .empty (d :: rest)
    else if c = '"' ∨ c = '\'' then
      (readString? (c :: cs)).map fun r => (.text (String.ofList r.1), r.2)
    else
      let (word, rest) := splitWord (c :: cs)
      (ofWord? word).map (·, rest)

/-- The items between brackets after those in `done`, which is in reverse. -/
def readItems? : Nat → Nat → List Tree → List Char → Option (Tree × List Char)
  | 0, _, _, _ => none
  | fuel + 1, depth, done, cs => do
    match ← skipLines? false cs with
    | ']' :: rest => some (.list done.reverse, rest)
    | cs =>
      let (v, rest) ← readValue? fuel depth cs
      match ← skipLines? false rest with
      | ',' :: rest => readItems? fuel depth (v :: done) rest
      | ']' :: rest => some (.list (v :: done).reverse, rest)
      | _ => none

/-- The fields between braces, on one line. -/
def readFields? : Nat → Nat → Table → List Char → Option (Tree × List Char)
  | 0, _, _, _ => none
  | fuel + 1, depth, t, cs => do
    let (key, rest) ← readKeyOfValue? (skipSpaces cs)
    let (v, rest) ← readValue? fuel depth rest
    let t ← t.assignAt? key.path key.name v
    match skipSpaces rest with
    | [] => none
    | c :: rest =>
      if c = ',' then readFields? fuel depth t rest
      else if c = '\x7d' then some (t.toTree, rest)
      else none

end

/-! ## Statements -/

inductive Statement
  | header (key : Key)
  | furtherHeader (key : Key)
  | assignment (key : Key) (v : Tree)

def readStatement? : List Char → Option (Statement × List Char)
  | '[' :: '[' :: cs => do
    let (key, rest) ← readKey? cs
    return (.furtherHeader key, ← after? ']' (← after? ']' rest))
  | '[' :: cs => do
    let (key, rest) ← readKey? cs
    return (.header key, ← after? ']' rest)
  | cs => do
    let (key, rest) ← readKeyOfValue? cs
    let (v, rest) ← readValue? (rest.length + 1) maxDepth rest
    return (.assignment key v, rest)

/-- The statements of a text, at most so many. -/
def statements? : Nat → List Char → Option (List Statement)
  | 0, _ => none
  | fuel + 1, cs => do
    match ← skipLines? false cs with
    | [] => some []
    | cs =>
      let (s, rest) ← readStatement? cs
      return s :: (← statements? fuel (← finishLine? rest))

/-- All tables, and the names in the last header. -/
structure Build where
  root : Table
  current : List String

/-- Carries out a statement. -/
def Build.add? (b : Build) : Statement → Option Build
  | .header key => do
    let root ← b.root.change? .implied (·.define? key.name) key.path
    return ⟨root, key.path ++ [key.name]⟩
  | .furtherHeader key => do
    let root ← b.root.change? .implied (·.append? key.name) key.path
    return ⟨root, key.path ++ [key.name]⟩
  | .assignment key v => do
    let root ← b.root.change? .implied (·.assignAt? key.path key.name v) b.current
    return ⟨root, b.current⟩

/-- The record that a text denotes. -/
def read? (text : String) : Option Tree := do
  let cs := match text.toList with
    | c :: cs => if c.toNat = 0xfeff then cs else c :: cs
    | [] => []
  let ss ← statements? (cs.length + 1) cs
  let b ← ss.foldlM Build.add? ⟨.empty, []⟩
  return b.root.toTree

end PageHarvest.Toml
