import PageHarvest.Html.Builder

/-!
# End tags of formatting elements

An end tag may close a formatting element while blocks inside it are still open. The element is
then split: the part around the block closes, and copies of it take over inside the block.
-/

namespace PageHarvest.Html.Build

/-- The elements that no end tag of another element closes. -/
def isSpecial (l : Label) : Bool :=
  l.isHtml ["address", "applet", "area", "article", "aside", "base", "basefont", "bgsound",
    "blockquote", "body", "br", "button", "caption", "center", "col", "colgroup", "dd", "details",
    "dir", "div", "dl", "dt", "embed", "fieldset", "figcaption", "figure", "footer", "form",
    "frame", "frameset", "h1", "h2", "h3", "h4", "h5", "h6", "head", "header", "hgroup", "hr",
    "html", "iframe", "img", "input", "isindex", "li", "link", "listing", "main", "marquee",
    "menu", "meta", "nav", "noembed", "noframes", "noscript", "object", "ol", "p", "param",
    "plaintext", "pre", "script", "section", "select", "source", "style", "summary", "table",
    "tbody", "td", "template", "textarea", "tfoot", "th", "thead", "title", "tr", "track", "ul",
    "wbr", "xmp"]

/-- Closes the innermost element of the name, unless a special element is met first. -/
def closeAny (name : String) : Build Unit := do
  let b ← get
  let labelOf (i : Nat) : Label := (b.draft.label? i).getD emptyLabel
  match b.stack.find? fun i => (labelOf i).isHtml [name] || isSpecial (labelOf i) with
  | some i =>
    if (labelOf i).isHtml [name] then
      closeImpliedBut name
      modify fun b => { b with stack := (b.stack.dropWhile (· != i)).tail }
  | none => pure ()

/-- The tag of a formatting element that is listed. -/
def listedTag? (i : Nat) : List Formatting → Option Tag
  | [] => none
  | .element j t :: rest => if i = j then some t else listedTag? i rest
  | .marker :: rest => listedTag? i rest

/-- Puts the copy of a formatting element in its place. -/
def replaceFormatting (i copy : Nat) (t : Tag) (fs : List Formatting) : List Formatting :=
  fs.map fun
    | .element j u => if j = i then .element copy t else .element j u
    | .marker => .marker

/-- Puts a new entry right after another one in the order of the list, which has the latest entry
first. -/
def insertAfter (i : Nat) (entry : Formatting) (fs : List Formatting) : List Formatting :=
  fs.flatMap fun
    | .element j t => if j = i then [entry, .element j t] else [.element j t]
    | .marker => [.marker]

/-- What is known while the elements between the block and the formatting element are copied. -/
structure Adoption where
  formattingElement : Nat
  block : Nat
  /-- The node to go into the next copy. -/
  last : Nat
  /-- The entry after which the new entry for the formatting element goes. -/
  bookmark : Option Nat

/-- Copies the open elements outside the block, innermost first, up to the formatting element.
After three of them the rest is no longer listed. -/
def copyBetween : List Nat → Nat → Adoption → Build Adoption
  | [], _, a => return a
  | node :: above, count, a => do
    if node = a.formattingElement then return a
    let count := count + 1
    if 3 < count then removeFormatting node
    match listedTag? node (← get).formatting with
    | none =>
      removeOpen node
      copyBetween above count a
    | some t =>
      let copy ← makeElement ⟨.html, t.name, plainAttributes t.attributes⟩
      modify fun b => { b with
        formatting := replaceFormatting node copy t b.formatting
        stack := b.stack.map fun i => if i = node then copy else i }
      put (.lastIn copy) a.last
      let bookmark := if a.last = a.block then some copy else a.bookmark
      copyBetween above count { a with last := copy, bookmark }

/-- Moves all children of a node to another one. -/
def moveChildren (source target : Nat) : Build Unit := do
  for c in ((← get).draft.children source).toList do
    put (.lastIn target) c

/-- Splits a formatting element around a block inside it. -/
def splitAround (formattingElement block : Nat) (t : Tag) : Build Unit := do
  let stack := (← get).stack
  let around := (stack.dropWhile (· != formattingElement)).tail
  let ancestor := around.head?.getD 0
  let between := (stack.dropWhile (· != block)).tail
  let a ← copyBetween between 0 ⟨formattingElement, block, block, none⟩
  put (← placeFor ancestor) a.last
  let copy ← makeElement ⟨.html, t.name, plainAttributes t.attributes⟩
  moveChildren block copy
  put (.lastIn block) copy
  modify fun b => { b with
    formatting := match a.bookmark with
      | some i => withoutFormatting formattingElement (insertAfter i (.element copy t) b.formatting)
      | none => replaceFormatting formattingElement copy t b.formatting
    stack := (b.stack.filter (· != formattingElement)).flatMap fun i =>
      if i = block then [copy, block] else [i] }

/-- One turn for an end tag; whether another one may follow. -/
def adoptOnce (name : String) : Build Bool := do
  let b ← get
  match (sinceMarker b.formatting).find? fun e => e.2.name == name with
  | none =>
    closeAny name
    return false
  | some (i, t) =>
    if !b.stack.contains i then
      removeFormatting i
      return false
    else if !(← elementInScope boundsScope i) then return false
    else
      let inside := b.stack.takeWhile (· != i)
      match (inside.filter fun j => isSpecial ((b.draft.label? j).getD emptyLabel)).getLast? with
      | none =>
        modify fun b => { b with stack := (b.stack.dropWhile (· != i)).tail }
        removeFormatting i
        return false
      | some block =>
        splitAround i block t
        return true

/-- Turns for an end tag, up to a number. -/
def adoptTimes (name : String) : Nat → Build Unit
  | 0 => return
  | n + 1 => do
    if ← adoptOnce name then adoptTimes name n

/-- The end tag of a formatting element. -/
def adopt (name : String) : Build Unit := do
  let b ← get
  let isListed : Bool := match b.stack with
    | i :: _ => (listedTag? i b.formatting).isSome
    | [] => false
  if (← currentIs [name]) && !isListed then pop else adoptTimes name 8

end PageHarvest.Html.Build
