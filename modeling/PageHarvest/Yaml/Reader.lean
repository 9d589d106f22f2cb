import PageHarvest.Yaml.Layout
import PageHarvest.Yaml.Node

/-!
# Reading YAML texts

Block and flow lists and records, the scalars of `Yaml.Scalar`, comments, and the marks around a
document. Directives, anchors, aliases and tags are not read. A text holds one document. A missing
key, value or item is the empty word.

Every reader takes the tokens from the place where its part starts and gives those after it.
-/

namespace PageHarvest.Yaml

/-- Whether the tokens go on with one of those given, or not at all. -/
def startsWithOneOf (ends : List Token) : List Token → Bool
  | [] => true
  | t :: _ => ends.contains t

namespace Node

/-- What follows the comma before an item that is neither the first one nor the end. -/
def afterComma? (isFirst : Bool) (stop : Token) (ts : List Token) : Option (List Token) :=
  match ts with
  | .comma :: rest => if isFirst then some ts else some rest
  | t :: _ => if isFirst || t == stop then some ts else none
  | [] => none

mutual

/-- A value. Items without a list around them are a list where `allowsItems` holds. -/
def read? : Nat → Bool → Bool → List Token → Option (Node × List Token)
  | 0, _, _, _ => none
  | fuel + 1, inBlock, allowsItems, ts =>
    match ts with
    | .scalar isPlain cs :: rest => some (.scalar isPlain (String.ofList cs), rest)
    | .leftBracket :: rest => readFlowItems? fuel true [] rest
    | .leftBrace :: rest => readFlowEntries? fuel true [] rest
    | .openList :: rest => if inBlock then readItems? fuel [] rest else none
    | .openRecord :: rest => if inBlock then readEntries? fuel [] rest else none
    | .item :: rest => if allowsItems then readLooseItems? fuel [] (.item :: rest) else none
    | _ => none

/-- A value, or the empty word if one of the tokens given comes first. -/
def readOrEmpty? : Nat → Bool → Bool → List Token → List Token → Option (Node × List Token)
  | 0, _, _, _, _ => none
  | fuel + 1, inBlock, allowsItems, ends, ts =>
    if startsWithOneOf ends ts then some (empty, ts) else read? fuel inBlock allowsItems ts

/-- The items of a block, `done` those read so far in reverse. -/
def readItems? : Nat → List Node → List Token → Option (Node × List Token)
  | 0, _, _ => none
  | _ + 1, done, .close :: rest => some (.list done.reverse, rest)
  | fuel + 1, done, .item :: rest => do
    let (n, rest) ← readOrEmpty? fuel true false [.item, .close] rest
    readItems? fuel (n :: done) rest
  | _, _, _ => none

/-- The items in a record at its own indentation. -/
def readLooseItems? : Nat → List Node → List Token → Option (Node × List Token)
  | 0, _, _ => none
  | fuel + 1, done, .item :: rest => do
    let (n, rest) ← readOrEmpty? fuel true false [.item, .key, .value, .close] rest
    readLooseItems? fuel (n :: done) rest
  | _, done, ts => some (.list done.reverse, ts)

/-- The entries of a block. -/
def readEntries? : Nat → List (Node × Node) → List Token → Option (Node × List Token)
  | 0, _, _ => none
  | _ + 1, done, .close :: rest => some (.record done.reverse, rest)
  | fuel + 1, done, .key :: rest => do
    let (k, rest) ← readOrEmpty? fuel true true [.key, .value, .close] rest
    let (n, rest) ← readValue? fuel true [.key, .value, .close] rest
    readEntries? fuel ((k, n) :: done) rest
  | _, _, _ => none

/-- The value after a key, if there is one. -/
def readValue? : Nat → Bool → List Token → List Token → Option (Node × List Token)
  | 0, _, _, _ => none
  | fuel + 1, inBlock, ends, .value :: rest => readOrEmpty? fuel inBlock inBlock ends rest
  | _, _, _, ts => some (empty, ts)

/-- The key of an item that is an entry. The token that stands where the key is missing counts as
the key. -/
def readItemKey? : Nat → List Token → Option (Node × List Token)
  | 0, _ => none
  | _ + 1, .value :: rest | _ + 1, .comma :: rest | _ + 1, .rightBracket :: rest =>
    some (empty, rest)
  | fuel + 1, ts => read? fuel false false ts

/-- The items between brackets. -/
def readFlowItems? : Nat → Bool → List Node → List Token → Option (Node × List Token)
  | 0, _, _, _ => none
  | fuel + 1, isFirst, done, ts => do
    let ts ← afterComma? isFirst .rightBracket ts
    match ts with
    | .rightBracket :: rest => some (.list done.reverse, rest)
    | .key :: rest =>
      let (k, rest) ← readItemKey? fuel rest
      let (n, rest) ← readValue? fuel false [.comma, .rightBracket] rest
      readFlowItems? fuel false (.record [(k, n)] :: done) rest
    | ts =>
      let (n, rest) ← read? fuel false false ts
      readFlowItems? fuel false (n :: done) rest

/-- The entries between braces. -/
def readFlowEntries? : Nat → Bool → List (Node × Node) → List Token → Option (Node × List Token)
  | 0, _, _, _ => none
  | fuel + 1, isFirst, done, ts => do
    let ts ← afterComma? isFirst .rightBrace ts
    match ts with
    | .rightBrace :: rest => some (.record done.reverse, rest)
    | .key :: rest =>
      let (k, rest) ← readOrEmpty? fuel false false [.value, .comma, .rightBrace] rest
      let (n, rest) ← readValue? fuel false [.comma, .rightBrace] rest
      readFlowEntries? fuel false ((k, n) :: done) rest
    | ts =>
      let (k, rest) ← read? fuel false false ts
      readFlowEntries? fuel false ((k, empty) :: done) rest

end

/-- The content of a document. -/
def readContent? (fuel : Nat) (ts : List Token) : Option (Node × List Token) :=
  readOrEmpty? fuel true false [.documentStart, .documentEnd] ts

/-- The one document that the tokens make up. -/
def ofTokens? (ts : List Token) : Option Node := do
  let fuel := 4 * ts.length + 4
  let (n, rest) ← match ts with
    | .documentStart :: rest => readContent? fuel rest
    | ts => read? fuel true false ts
  if (rest.dropWhile (· == .documentEnd)).isEmpty then some n else none

/-- The value that a text denotes. -/
def ofText? (text : String) : Option Node := (tokens? text).bind ofTokens?

end Node

end PageHarvest.Yaml
