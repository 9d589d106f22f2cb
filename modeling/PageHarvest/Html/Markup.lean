import PageHarvest.Html.Tree

/-!
# Writing documents as markup

Elements that hold nothing have no end tag, and the text of elements without markup in them is
written as it is.
-/

namespace PageHarvest.Html

/-- The elements that hold nothing. -/
def voidElements : List String :=
  ["area", "base", "basefont", "bgsound", "br", "col", "embed", "frame", "hr", "img", "input",
    "keygen", "link", "meta", "param", "source", "track", "wbr"]

/-- The elements whose text is written as it is. -/
def rawTextElements : List String :=
  ["style", "script", "xmp", "iframe", "noembed", "noframes", "plaintext"]

/-- A character of a text. -/
def escapeTextChar (c : Char) : List Char :=
  if c = '&' then "&amp;".toList
  else if c.toNat = 0xa0 then "&nbsp;".toList
  else if c = '<' then "&lt;".toList
  else if c = '>' then "&gt;".toList
  else [c]

/-- A character of an attribute's value. -/
def escapeValueChar (c : Char) : List Char :=
  if c = '&' then "&amp;".toList
  else if c.toNat = 0xa0 then "&nbsp;".toList
  else if c = '"' then "&quot;".toList
  else [c]

def escapeText (s : String) : String := String.ofList (s.toList.flatMap escapeTextChar)

def escapeValue (s : String) : String := String.ofList (s.toList.flatMap escapeValueChar)

namespace Attribute

/-- The name with its space. -/
def writtenName (a : Attribute) : String :=
  if a.space = "" ∨ (a.space = "xmlns" ∧ a.name = "xmlns") then a.name
  else a.space ++ ":" ++ a.name

def markup (a : Attribute) : String :=
  " " ++ a.writtenName ++ "=\"" ++ escapeValue a.value ++ "\""

end Attribute

namespace Node

mutual

/-- A node inside an element; `isRaw` tells whether the element's text is written as it is. -/
def markup (isRaw : Bool) : Node → String
  | .element _ vocabulary name attributes children =>
    let start := "<" ++ name ++ String.join (attributes.map Attribute.markup) ++ ">"
    let isHtml := vocabulary = .html
    if isHtml && voidElements.contains name then start
    else
      start ++ markupOfAll (isHtml && rawTextElements.contains name) children ++ "</" ++ name ++ ">"
  | .fragment children => markupOfAll isRaw children
  | .text content => if isRaw then content else escapeText content
  | .comment content => "<!--" ++ content ++ "-->"

def markupOfAll (isRaw : Bool) : List Node → String
  | [] => ""
  | n :: rest => markup isRaw n ++ markupOfAll isRaw rest

end

end Node

/-- What the element holds, as markup. -/
def Element.innerMarkup (e : Element) : String := Node.markupOfAll false e.children

end PageHarvest.Html
