import PageHarvest.Html.Insertion

/-!
# Reading documents

Tokens are read from the text one by one and put into a draft. Which token a text starts with
depends on the draft: inside a script, a text area and the like there is no markup.
-/

namespace PageHarvest.Html

namespace Build

/-- Reads a token again in new modes, up to a number of times. -/
def process : Nat → Token → Build Unit
  | 0, _ => return
  | turns + 1, t => do
    let l ← currentLabel
    if followsForeignRules l t then
      let (isAgain, isOutside) ← foreignRules t
      let isAgain ← if isOutside then inMode (← get).mode t else pure isAgain
      if isAgain then process turns t
    else if ← inMode (← get).mode t then process turns t

/-- Whether a token is passed over: a line feed right after some start tags, a fault, and a document
type that does not come first. -/
def isPassedOver (b : Builder) : Token → Bool
  | .char c => b.skipLine && c = '\n'
  | .fault => true
  | .doctype _ => b.mode ≠ .initial
  | _ => false

/-- A token of the document. No element is nested as deep as there are elements, so that many turns
are enough. -/
def accept (t : Token) : Build Unit := do
  let b ← get
  modify fun b => { b with skipLine := false }
  if !isPassedOver b t then process (b.stack.length + 50) t

def acceptText (cs : List Char) : Build Unit := cs.forM fun c => accept (.char c)

/-- Whether markup may hold character data sections here. -/
def allowsSections : Build Bool := return (← currentLabel).vocabulary ≠ .html

/-- The text of a character data section and what follows it. -/
def readSection : List Char → List Char × List Char
  | [] => ([], [])
  | ']' :: ']' :: '>' :: rest => ([], rest)
  | c :: rest => (fun r => (c :: r.1, r.2)) (readSection rest)

/-- The content of a character data section at the start of a text, and what follows it. -/
def sectionContent? (cs : List Char) : Option (List Char × List Char) :=
  (Text.dropFront? "<![CDATA[".toList cs).map readSection

/-- Reads markup or a character at the start of a text; what follows. -/
def readMarkup (cs : List Char) : Build (List Char) := do
  match sectionContent? cs, ← allowsSections with
  | some (text, rest), true =>
    acceptText text
    return rest
  | _, _ =>
    let (ts, rest) := Token.read cs
    ts.forM accept
    return rest

/-- Reads what stands at the start of a text; what follows. -/
def turn (cs : List Char) : Build (List Char) := do
  let b ← get
  setReading .markup
  match b.reading with
  | .markup => readMarkup cs
  | .referring endTag =>
    let (text, rest) := Token.rawText endTag.toList cs
    (Token.ofText text.length text).forM accept
    return rest
  | .raw endTag =>
    let (text, rest) := Token.rawText endTag.toList cs
    acceptText text
    return rest
  | .script =>
    let (text, rest) := Token.scriptText .plain 0 cs
    acceptText text
    return rest
  | .plain =>
    acceptText (cs.map Token.orReplacement)
    return []

/-- Reads a text to its end. -/
def readAll : Nat → List Char → Build Unit
  | fuel + 1, c :: cs => do readAll fuel (← turn (c :: cs))
  | _, _ => accept .stop

end Build

namespace Document

/-- The text without a mark of byte order in front. -/
def dropMark : List Char → List Char
  | c :: rest => if c.toNat = 0xfeff then rest else c :: rest
  | [] => []

/-- The document that a text denotes. Every text denotes one. A turn takes at least one character,
or follows one that did. -/
def parse (source : String) : Document :=
  let cs := Token.unifyLines (dropMark source.toList)
  let built := StateT.run (Build.readAll (2 * cs.length + 2) cs) ({} : Builder)
  built.2.draft.toDocument

end Document

end PageHarvest.Html
