import PageHarvest.Html.Reference
import PageHarvest.Text.Case
import PageHarvest.Text.Letter
import PageHarvest.Text.Search

/-!
# Tokens of HTML

`readToken` reads the token at the start of a text: a character, a tag, a comment or a document
type. A tag, comment or document type that the end of the text cuts off is lost or ends there, as
the standard says for each. `rawText` and `scriptText` split off the text of the elements whose
content is no markup, up to their end tag.
-/

namespace PageHarvest.Html

open Text

structure Tag where
  isEnd : Bool
  name : String
  attributes : List (String × String)
  selfClosing : Bool

structure Doctype where
  name : String
  publicId : Option String
  systemId : Option String
  /-- Whether the declaration itself asks for quirks. -/
  quirks : Bool

inductive Token
  | char (c : Char)
  | tag (t : Tag)
  | comment (content : String)
  | doctype (d : Doctype)
  /-- Something that stands for nothing, but stands between what is around it. -/
  | fault
  | stop

namespace Token

def isSpace (c : Char) : Bool := c = '\t' || c = '\n' || c = '\x0c' || c = ' '

/-- A blank in the content of a document. A carriage return can only come from a reference. -/
def isBlank (c : Char) : Bool := isSpace c || c = '\r'

/-- The sign that stands for a character that cannot be. -/
def replacement : Char := Char.ofNat 0xfffd

def orReplacement (c : Char) : Char := if c.toNat = 0 then replacement else c

/-- A letter of a name, in lower case. -/
def nameChar (c : Char) : Char := asciiLowerChar (orReplacement c)

/-- Line ends as single line feeds. -/
def unifyLines : List Char → List Char
  | '\r' :: '\n' :: rest => '\n' :: unifyLines rest
  | '\r' :: rest => '\n' :: unifyLines rest
  | c :: rest => c :: unifyLines rest
  | [] => []

/-! ## Character references -/

/-- What the numbers 128 to 159 stand for; zero where they stand for themselves. -/
def upperControls : List Nat :=
  [0x20ac, 0, 0x201a, 0x192, 0x201e, 0x2026, 0x2020, 0x2021, 0x2c6, 0x2030, 0x160, 0x2039, 0x152, 0,
    0x17d, 0, 0, 0x2018, 0x2019, 0x201c, 0x201d, 0x2022, 0x2013, 0x2014, 0x2dc, 0x2122, 0x161,
    0x203a, 0x153, 0, 0x17e, 0x178]

/-- The character of a number. -/
def numbered (n : Nat) : Char :=
  let stated := if 0x80 ≤ n then upperControls.getD (n - 0x80) 0 else 0
  if n = 0 ∨ 0x10ffff < n ∨ (0xd800 ≤ n ∧ n ≤ 0xdfff) then replacement
  else if stated ≠ 0 then Char.ofNat stated
  else Char.ofNat n

/-- What a reference stands for, whether it ends in `;`, and what follows it. -/
structure Resolved where
  chars : List Char
  closed : Bool
  rest : List Char

/-- A reference by number after `&#`. -/
def readNumbered? (cs : List Char) : Option Resolved :=
  let (base, ds) := match cs with
    | 'x' :: r => (16, r)
    | 'X' :: r => (16, r)
    | r => (10, r)
  let isDigit (c : Char) : Bool := (Plain.digit? base c).isSome
  (Plain.digits? base (ds.takeWhile isDigit)).map fun n =>
    match ds.dropWhile isDigit with
    | ';' :: rest => ⟨[numbered n], true, rest⟩
    | rest => ⟨[numbered n], false, rest⟩

/-- A reference by name after `&`. In the value of an attribute, a name without `;` in front of
`=` or of a letter or digit is none. -/
def readNamed? (inAttribute : Bool) (cs : List Char) : Option Resolved :=
  match Reference.longest? cs with
  | none => none
  | some (name, chars) =>
    let rest := cs.drop name.length
    let closed := name.getLast? == some ';'
    let isOpen := match rest with
      | c :: _ => c = '=' || isAsciiLetter c || isAsciiDigit c
      | [] => false
    if inAttribute && !closed && isOpen then none else some ⟨chars, closed, rest⟩

/-- A reference after `&`. -/
def readReference? (inAttribute : Bool) : List Char → Option Resolved
  | '#' :: cs => readNumbered? cs
  | cs => readNamed? inAttribute cs

/-- Replaces all references in the value of an attribute. -/
def resolveValue : Nat → List Char → List Char
  | fuel + 1, '&' :: cs =>
    match readReference? true cs with
    | some r => r.chars ++ resolveValue fuel r.rest
    | none => '&' :: resolveValue fuel cs
  | fuel + 1, c :: cs => c :: resolveValue fuel cs
  | _, cs => cs

/-- The tokens of a reference; it is a fault not to end it. -/
def Resolved.tokens (r : Resolved) : List Token :=
  if r.closed then r.chars.map .char else .fault :: r.chars.map .char

/-- The tokens of a text in which references stand for characters, and nothing else is markup. -/
def ofText : Nat → List Char → List Token
  | fuel + 1, '&' :: cs =>
    match readReference? false cs with
    | some r => r.tokens ++ ofText fuel r.rest
    | none => .char '&' :: ofText fuel cs
  | fuel + 1, c :: cs => .char c :: ofText fuel cs
  | _, _ => []

/-! ## Tags -/

def endsName (c : Char) : Bool := isSpace c || c = '/' || c = '>'

/-- The value of an attribute as it is kept. -/
def attributeValue (cs : List Char) : String :=
  String.ofList (resolveValue cs.length (cs.map orReplacement))

/-- What stands before a quote and after it. -/
def untilQuote? (q : Char) (cs : List Char) : Option (List Char × List Char) := splitOnce? q cs

/-- The value after `=`, and what follows it; none if the text ends in it. -/
def readValue? (cs : List Char) : Option (String × List Char) :=
  match cs.dropWhile isSpace with
  | [] => none
  | '>' :: rest => some ("", '>' :: rest)
  | c :: rest =>
    if c = '"' || c = '\'' then
      (untilQuote? c rest).map fun r => (attributeValue r.1, r.2)
    else
      let isEnd (c : Char) : Bool := isSpace c || c = '>'
      some (attributeValue ((c :: rest).takeWhile fun c => !isEnd c),
        (c :: rest).dropWhile fun c => !isEnd c)

/-- The name of an attribute. It has at least one character, which may be `=`. -/
def splitAttributeName : List Char → List Char × List Char
  | [] => ([], [])
  | c :: rest =>
    let stays (c : Char) : Bool := !(endsName c || c = '=')
    (nameChar c :: (rest.takeWhile stays).map nameChar, rest.dropWhile stays)

/-- Adds an attribute unless there is one of that name. -/
def addAttribute (as : List (String × String)) (name value : String) : List (String × String) :=
  if as.any fun a => a.1 == name then as else as ++ [(name, value)]

/-- The attributes of a tag up to its end; none if the text ends in it. Every turn takes
characters. -/
def readAttributes? : Nat → List (String × String) → List Char →
    Option (List (String × String) × Bool × List Char)
  | 0, _, _ => none
  | fuel + 1, as, cs =>
    match cs.dropWhile isSpace with
    | [] => none
    | '>' :: rest => some (as, false, rest)
    | '/' :: '>' :: rest => some (as, true, rest)
    | '/' :: rest => readAttributes? fuel as rest
    | cs =>
      let (name, rest) := splitAttributeName cs
      match rest.dropWhile isSpace with
      | '=' :: rest => do
        let (value, rest) ← readValue? rest
        readAttributes? fuel (addAttribute as (String.ofList name) value) rest
      | rest => readAttributes? fuel (addAttribute as (String.ofList name) "") rest

/-- A tag from its name on; none if the text ends in it. -/
def readTag? (isEnd : Bool) (cs : List Char) : Option (Tag × List Char) := do
  let name := (cs.takeWhile fun c => !endsName c).map nameChar
  let rest := cs.dropWhile fun c => !endsName c
  let (attributes, selfClosing, rest) ← readAttributes? (rest.length + 1) [] rest
  return (⟨isEnd, String.ofList name, attributes, selfClosing⟩, rest)

/-! ## Comments -/

/-- Where the reading of a comment stands. -/
inductive CommentState
  | start
  | startDash
  | body
  | dash
  | twoDashes
  | bang

/-- The content of a comment and what follows the comment. -/
def readComment : CommentState → List Char → List Char × List Char
  | _, [] => ([], [])
  | .start, c :: rest =>
    if c = '-' then readComment .startDash rest
    else if c = '>' then ([], rest)
    else (fun r => (orReplacement c :: r.1, r.2)) (readComment .body rest)
  | .startDash, c :: rest =>
    if c = '-' then readComment .twoDashes rest
    else if c = '>' then ([], rest)
    else (fun r => ('-' :: orReplacement c :: r.1, r.2)) (readComment .body rest)
  | .body, c :: rest =>
    if c = '-' then readComment .dash rest
    else (fun r => (orReplacement c :: r.1, r.2)) (readComment .body rest)
  | .dash, c :: rest =>
    if c = '-' then readComment .twoDashes rest
    else (fun r => ('-' :: orReplacement c :: r.1, r.2)) (readComment .body rest)
  | .twoDashes, c :: rest =>
    if c = '>' then ([], rest)
    else if c = '!' then readComment .bang rest
    else if c = '-' then (fun r => ('-' :: r.1, r.2)) (readComment .twoDashes rest)
    else (fun r => ('-' :: '-' :: orReplacement c :: r.1, r.2)) (readComment .body rest)
  | .bang, c :: rest =>
    if c = '>' then ([], rest)
    else if c = '-' then (fun r => ('-' :: '-' :: '!' :: r.1, r.2)) (readComment .dash rest)
    else (fun r => ('-' :: '-' :: '!' :: orReplacement c :: r.1, r.2)) (readComment .body rest)

/-- Up to the next `>`. -/
def readBogus (cs : List Char) : Token × List Char :=
  (.comment (String.ofList ((cs.takeWhile (· != '>')).map orReplacement)),
    (cs.dropWhile (· != '>')).drop 1)

/-! ## Document types -/

/-- The rest of a text after a word in any case. -/
def dropWord? : List Char → List Char → Option (List Char)
  | [], cs => some cs
  | _ :: _, [] => none
  | w :: ws, c :: cs => if asciiLowerChar c = w then dropWord? ws cs else none

/-- An identifier in quotes: the text, whether its quote was closed, and what follows. -/
def readIdentifier (q : Char) (cs : List Char) : String × Bool × List Char :=
  let isEnd (c : Char) : Bool := c = q || c = '>'
  let text := String.ofList ((cs.takeWhile fun c => !isEnd c).map orReplacement)
  match cs.dropWhile fun c => !isEnd c with
  | c :: rest => if c = q then (text, true, rest) else (text, false, c :: rest)
  | [] => (text, false, [])

/-- The rest of a document type, which adds nothing but may cut it off. -/
def finishDoctype (d : Doctype) (cs : List Char) : Doctype × List Char :=
  match cs.dropWhile (· != '>') with
  | _ :: rest => (d, rest)
  | [] => ({ d with quirks := true }, [])

/-- A document type after its system identifier. -/
def afterSystemId (d : Doctype) (cs : List Char) : Doctype × List Char := finishDoctype d cs

/-- A document type where a system identifier is due; without one it asks for quirks if one was
announced. -/
def readSystemId (d : Doctype) (announced : Bool) (cs : List Char) : Doctype × List Char :=
  match cs.dropWhile isSpace with
  | [] => ({ d with quirks := true }, [])
  | '>' :: rest => ({ d with quirks := d.quirks || announced }, rest)
  | c :: rest =>
    if c = '"' || c = '\'' then
      let (text, isClosed, rest) := readIdentifier c rest
      afterSystemId { d with systemId := some text, quirks := d.quirks || !isClosed } rest
    else finishDoctype { d with quirks := true } (c :: rest)

/-- A document type where a public identifier is due. -/
def readPublicId (d : Doctype) (cs : List Char) : Doctype × List Char :=
  match cs.dropWhile isSpace with
  | [] => ({ d with quirks := true }, [])
  | c :: rest =>
    if c = '"' || c = '\'' then
      let (text, isClosed, rest) := readIdentifier c rest
      let d := { d with publicId := some text, quirks := d.quirks || !isClosed }
      if isClosed then readSystemId d false rest else finishDoctype d rest
    else finishDoctype { d with quirks := true } (c :: rest)

/-- A document type after its first word. -/
def readDoctype (cs : List Char) : Doctype × List Char :=
  let cs := cs.dropWhile isSpace
  let isEnd (c : Char) : Bool := isSpace c || c = '>'
  let name := String.ofList ((cs.takeWhile fun c => !isEnd c).map nameChar)
  let d : Doctype := ⟨name, none, none, name.isEmpty⟩
  match (cs.dropWhile fun c => !isEnd c).dropWhile isSpace with
  | [] => ({ d with quirks := true }, [])
  | '>' :: rest => (d, rest)
  | rest =>
    match dropWord? "public".toList rest with
    | some rest => readPublicId d rest
    | none =>
      match dropWord? "system".toList rest with
      | some rest => readSystemId d true rest
      | none => finishDoctype { d with quirks := true } rest

/-! ## The token at the start of a text -/

/-- A declaration after `<!`. -/
def readDeclaration (cs : List Char) : Token × List Char :=
  match cs with
  | '-' :: '-' :: rest =>
    let (content, rest) := readComment .start rest
    (.comment (String.ofList content), rest)
  | _ =>
    match dropWord? "doctype".toList cs with
    | some rest =>
      let (d, rest) := readDoctype rest
      (.doctype d, rest)
    | none => readBogus cs

/-- A tag as the tokens it gives: none if the text ends in it. -/
def tagTokens : Option (Tag × List Char) → List Token × List Char
  | some (t, rest) => ([.tag t], rest)
  | none => ([], [])

def single (r : Token × List Char) : List Token × List Char := ([r.1], r.2)

/-- The markup after `<`; a `<` that starts none is a character, and `</>` stands for nothing. -/
def readMarkup : List Char → List Token × List Char
  | '!' :: rest => single (readDeclaration rest)
  | '?' :: rest => single (readBogus ('?' :: rest))
  | '/' :: '>' :: rest => ([.fault], rest)
  | '/' :: c :: rest =>
    if isAsciiLetter c then tagTokens (readTag? true (c :: rest))
    else single (readBogus (c :: rest))
  | c :: rest =>
    if isAsciiLetter c then tagTokens (readTag? false (c :: rest)) else ([.char '<'], c :: rest)
  | [] => ([.char '<'], [])

/-- The tokens at the start of a text and what follows them. A reference may stand for two
characters. -/
def read : List Char → List Token × List Char
  | [] => ([], [])
  | '<' :: rest => readMarkup rest
  | '&' :: rest =>
    match readReference? false rest with
    | some r => (r.tokens, r.rest)
    | none => ([.char '&'], rest)
  | c :: rest => ([.char c], rest)

/-! ## Content without markup -/

/-- Whether the end tag of an element stands at the start of a text. -/
def isEndTagOf (name : List Char) (cs : List Char) : Bool :=
  match dropWord? ('<' :: '/' :: name) cs with
  | some (c :: _) => endsName c
  | _ => false

/-- The text up to the end tag of an element, and what follows. -/
def rawText (name : List Char) : List Char → List Char × List Char
  | [] => ([], [])
  | c :: rest =>
    if isEndTagOf name (c :: rest) then ([], c :: rest)
    else (fun r => (c :: r.1, r.2)) (rawText name rest)

/-- How deep in comments a script stands. -/
inductive ScriptLevel
  | plain
  | escaped
  | doublyEscaped
  deriving DecidableEq

/-- Whether the word `script` stands at the start of a text. -/
def isScriptWord (cs : List Char) : Bool :=
  match dropWord? "script".toList cs with
  | some (c :: _) => endsName c
  | _ => false

/-- The level after a `<` in front of the text. -/
def ScriptLevel.afterOpen (level : ScriptLevel) (cs : List Char) : ScriptLevel :=
  match level, cs with
  | .plain, '!' :: '-' :: '-' :: _ => .escaped
  | .escaped, cs => if isScriptWord cs then .doublyEscaped else .escaped
  | .doublyEscaped, '/' :: cs => if isScriptWord cs then .escaped else .doublyEscaped
  | level, _ => level

/-- The text of a script up to its end tag, and what follows. A comment in a script hides the
first end tag after a start tag; `dashes` counts the dashes just read, up to two. -/
def scriptText (level : ScriptLevel) (dashes : Nat) : List Char → List Char × List Char
  | [] => ([], [])
  | c :: rest =>
    let go (level : ScriptLevel) (dashes : Nat) : List Char × List Char :=
      (fun r => (c :: r.1, r.2)) (scriptText level dashes rest)
    if c = '<' then
      if level ≠ .doublyEscaped && isEndTagOf "script".toList (c :: rest) then ([], c :: rest)
      else go (level.afterOpen rest) 0
    else if c = '-' then go level (min 2 (dashes + 1))
    else if c = '>' && 2 ≤ dashes then go .plain 0
    else go level 0

end Token

end PageHarvest.Html
