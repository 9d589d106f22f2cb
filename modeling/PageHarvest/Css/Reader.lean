import PageHarvest.Css.Selector
import PageHarvest.Css.Token

/-!
# Reading selectors

Type, class, id and attribute conditions, the structural pseudo-classes, `:not`, and the four
relations. Pseudo-classes that depend on a user, pseudo-elements and name prefixes that would have
to be declared are not selectors here. A bracket or parenthesis may be closed by the end of the
text.
-/

namespace PageHarvest.Css

open Text

/-- Tokens with the blanks in front dropped. -/
def skipSpace (ts : List Token) : List Token := ts.dropWhile (· == .space)

/-- The end of a block: its closing token or the end of the text. -/
def closeBlock? (close : Token) (ts : List Token) : Option (List Token) :=
  match skipSpace ts with
  | [] => some []
  | t :: rest => if t = close then some rest else none

/-! ## Attributes -/

/-- A qualified name inside brackets. -/
def readAttrName? : List Token → Option (AttrSpace × String × List Token)
  | .ident _ :: .delim '|' :: _ => none
  | .ident name :: rest => some (.plain, name, rest)
  | .delim '*' :: .delim '|' :: .ident name :: rest => some (.any, name, rest)
  | .delim '|' :: .ident name :: rest => some (.plain, name, rest)
  | _ => none

def attrOp? : Token → Option AttrOp
  | .delim '=' => some .equals
  | .includeMatch => some .includes
  | .dashMatch => some .dash
  | .startMatch => some .starts
  | .endMatch => some .ends
  | .containMatch => some .contains
  | _ => none

/-- The letter that says whether case counts, if one is there. -/
def readCaseRule? (ts : List Token) : Option (CaseRule × List Token) :=
  match skipSpace ts with
  | .ident flag :: rest =>
    match asciiLower flag with
    | "i" => some (.caseless, rest)
    | "s" => some (.exact, rest)
    | _ => none
  | rest => some (.byName, rest)

/-- A comparison with a value that no attribute can pass. -/
def neverMatches (op : AttrOp) (value : String) : Bool :=
  match op with
  | .includes => value == "" || value.toList.any isSelectorSpace
  | .starts | .ends | .contains => value == ""
  | .equals | .dash => false

/-- An attribute condition after its opening bracket. -/
def readAttr? (ts : List Token) : Option (Simple × List Token) := do
  let (space, name, rest) ← readAttrName? (skipSpace ts)
  match skipSpace rest with
  | [] => return (.hasAttr space name, [])
  | .rBracket :: rest => return (.hasAttr space name, rest)
  | t :: rest =>
    let op ← attrOp? t
    let (value, rest) ← match skipSpace rest with
      | .ident value :: rest => some (value, rest)
      | .string value :: rest => some (value, rest)
      | _ => none
    let (rule, rest) ← readCaseRule? rest
    let rest ← closeBlock? .rBracket rest
    return (if neverMatches op value then .never else .attr space name op value rule, rest)

/-! ## Positions -/

/-- A number without a sign after the sign of the second part. -/
def readUnsignedPart? (a sign : Int) (ts : List Token) : Option (Int × Int × List Token) :=
  match skipSpace ts with
  | .number false (some b) :: rest => some (a, sign * b, rest)
  | _ => none

/-- The second part of `a n + b`, zero if it is missing. -/
def readSecondPart? (a : Int) (ts : List Token) : Option (Int × Int × List Token) :=
  match skipSpace ts with
  | .delim '+' :: rest => readUnsignedPart? a 1 rest
  | .delim '-' :: rest => readUnsignedPart? a (-1) rest
  | .number true (some b) :: rest => some (a, b, rest)
  | _ => some (a, 0, ts)

/-- The number in `n-12`. -/
def dashDigits? (s : String) : Option Int :=
  match s.toList with
  | n :: '-' :: d :: ds =>
    if (n = 'n' ∨ n = 'N') ∧ (d :: ds).all isAsciiDigit then
      some (Token.clamp (-(Token.natOf (d :: ds) : Int)))
    else none
  | _ => none

/-- The part from `n` on, given its factor. -/
def readFromN? (a : Int) (word : String) (ts : List Token) : Option (Int × Int × List Token) :=
  match asciiLower word with
  | "n" => readSecondPart? a ts
  | "n-" => readUnsignedPart? a (-1) ts
  | _ => (dashDigits? word).map (a, ·, ts)

/-- `a n + b` in one of its spellings. -/
def readNth? (ts : List Token) : Option (Int × Int × List Token) :=
  match skipSpace ts with
  | .number _ (some b) :: rest => some (0, b, rest)
  | .dimension _ (some a) unit :: rest => readFromN? a unit rest
  | .ident word :: rest =>
    match asciiLower word with
    | "even" => some (2, 0, rest)
    | "odd" => some (2, 1, rest)
    | _ =>
      match word.toList with
      | '-' :: word => readFromN? (-1) (String.ofList word) rest
      | _ => readFromN? 1 word rest
  | .delim '+' :: .ident word :: rest => readFromN? 1 word rest
  | _ => none

/-! ## Compounds and relations -/

/-- A pseudo-class without an argument. -/
def pseudoClass? (name : String) : Option Simple :=
  match asciiLower name with
  | "first-child" => some (.nth 0 1 false false)
  | "last-child" => some (.nth 0 1 false true)
  | "only-child" => some (.only false)
  | "first-of-type" => some (.nth 0 1 true false)
  | "last-of-type" => some (.nth 0 1 true true)
  | "only-of-type" => some (.only true)
  | "root" => some .root
  | "empty" => some .empty
  | "scope" => some .scope
  | _ => none

/-- A type condition at the start of a compound, with the number of tokens read told by the
flag: `*` is a condition that always holds. -/
def readType? : List Token → Option (Option (List Simple × List Token))
  | .ident _ :: .delim '|' :: _ => none
  | .ident name :: rest => some (some ([.type name], rest))
  | .delim '*' :: .delim '|' :: .delim '*' :: rest => some (some ([], rest))
  | .delim '*' :: .delim '|' :: .ident name :: rest => some (some ([.type name], rest))
  | .delim '*' :: .delim '|' :: _ => none
  | .delim '*' :: rest => some (some ([], rest))
  | .delim '|' :: .delim '*' :: rest => some (some ([.never], rest))
  | .delim '|' :: .ident _ :: rest => some (some ([.never], rest))
  | .delim '|' :: _ => none
  | _ => some none

/-- The relation between two compounds and what follows it; `none` inside if the selector ends. -/
def readCombinator (ts : List Token) : Option Combinator × List Token :=
  match skipSpace ts with
  | [] => (none, [])
  | .delim '>' :: rest => (some .child, rest)
  | .delim '+' :: rest => (some .next, rest)
  | .delim '~' :: rest => (some .later, rest)
  | rest => if ts.head? = some .space then (some .descendant, rest) else (none, rest)

mutual

/-- The conditions of a compound after its type. Where the flag is set, the selectors among them have
to be single compounds. -/
def readConditions? : Nat → Bool → List Token → Option (List Simple × List Token)
  | 0, _, _ => none
  | fuel + 1, single, ts =>
    let more (s : Simple) (rest : List Token) := do
      let (parts, rest) ← readConditions? fuel single rest
      return (s :: parts, rest)
    match ts with
    | .idHash name :: rest => more (.id name) rest
    | .delim '.' :: .ident name :: rest => more (.className name) rest
    | .delim '.' :: _ => none
    | .lBracket :: rest => do
      let (s, rest) ← readAttr? rest
      more s rest
    | .colon :: .ident name :: rest => do more (← pseudoClass? name) rest
    | .colon :: .function name :: rest => do
      let (s, rest) ← readFunction? fuel single (asciiLower name) rest
      more s rest
    | .colon :: _ => none
    | ts => some ([], ts)

/-- A pseudo-class with an argument, from after its parenthesis. No element of a document is a host,
so `:host` takes a compound and holds of nothing. -/
def readFunction? : Nat → Bool → String → List Token → Option (Simple × List Token)
  | 0, _, _, _ => none
  | fuel + 1, single, name, ts =>
    let nth (ofType fromEnd : Bool) : Option (Simple × List Token) := do
      let (a, b, rest) ← readNth? ts
      return (.nth a b ofType fromEnd, (← closeBlock? .rParen rest))
    match name with
    | "nth-child" => nth false false
    | "nth-of-type" => nth true false
    | "nth-last-child" => nth false true
    | "nth-last-of-type" => nth true true
    | "not" => do
      let (list, rest) ← readList? fuel single ts
      return (.not list, (← closeBlock? .rParen rest))
    | "host" => do
      let (_, rest) ← readCompound? fuel true ts
      return (.never, (← closeBlock? .rParen rest))
    | _ => none

/-- A compound, which must not be empty. -/
def readCompound? : Nat → Bool → List Token → Option (List Simple × List Token)
  | 0, _, _ => none
  | fuel + 1, single, ts => do
    let ts := skipSpace ts
    match (← readType? ts) with
    | some (front, rest) =>
      let (parts, rest) ← readConditions? fuel single rest
      return (front ++ parts, rest)
    | none =>
      let (parts, rest) ← readConditions? fuel single ts
      if parts.isEmpty then none else return (parts, rest)

/-- What follows the first compound of a complex selector. -/
def readJoined? : Nat → Bool → Complex → List Token → Option (Complex × List Token)
  | 0, _, _, _ => none
  | fuel + 1, single, left, ts =>
    match readCombinator ts with
    | (none, rest) => some (left, rest)
    | (some c, rest) =>
      match c, rest with
      | .descendant, .comma :: _ => some (left, rest)
      | .descendant, .rParen :: _ => some (left, rest)
      | _, _ => do
        if single then none
        let (parts, rest) ← readCompound? fuel single rest
        readJoined? fuel single (.join left c parts) rest

/-- Complex selectors with commas between them. -/
def readList? : Nat → Bool → List Token → Option (List Complex × List Token)
  | 0, _, _ => none
  | fuel + 1, single, ts => do
    let (parts, rest) ← readCompound? fuel single ts
    let (first, rest) ← readJoined? fuel single (.compound parts) rest
    match rest with
    | .comma :: rest =>
      let (others, rest) ← readList? fuel single rest
      return (first :: others, rest)
    | rest => return ([first], rest)

end

/-- The selector that a text denotes. -/
def Selector.read? (s : String) : Option Selector :=
  let ts := Token.tokenize s
  match readList? (4 * ts.length + 8) false ts with
  | some (list, []) => some ⟨list⟩
  | _ => none

end PageHarvest.Css
