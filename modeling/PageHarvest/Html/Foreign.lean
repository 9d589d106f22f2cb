import PageHarvest.Html.Builder

/-!
# SVG and MathML inside HTML

Names of SVG elements and attributes get the letter case that the vocabulary gives them. Some HTML
start tags end the foreign content around them.
-/

namespace PageHarvest.Html.Build

/-- Elements of SVG with capitals in their names. -/
def svgElements : List String :=
  ["altGlyph", "altGlyphDef", "altGlyphItem", "animateColor", "animateMotion", "animateTransform",
    "clipPath", "feBlend", "feColorMatrix", "feComponentTransfer", "feComposite",
    "feConvolveMatrix", "feDiffuseLighting", "feDisplacementMap", "feDistantLight",
    "feDropShadow", "feFlood", "feFuncA", "feFuncB", "feFuncG", "feFuncR", "feGaussianBlur",
    "feImage", "feMerge", "feMergeNode", "feMorphology", "feOffset", "fePointLight",
    "feSpecularLighting", "feSpotLight", "feTile", "feTurbulence", "foreignObject", "glyphRef",
    "linearGradient", "radialGradient", "textPath"]

/-- Attributes of SVG with capitals in their names. -/
def svgAttributes : List String :=
  ["attributeName", "attributeType", "baseFrequency", "baseProfile", "calcMode", "clipPathUnits",
    "diffuseConstant", "edgeMode", "filterUnits", "glyphRef", "gradientTransform",
    "gradientUnits", "kernelMatrix", "kernelUnitLength", "keyPoints", "keySplines", "keyTimes",
    "lengthAdjust", "limitingConeAngle", "markerHeight", "markerUnits", "markerWidth",
    "maskContentUnits", "maskUnits", "numOctaves", "pathLength", "patternContentUnits",
    "patternTransform", "patternUnits", "pointsAtX", "pointsAtY", "pointsAtZ", "preserveAlpha",
    "preserveAspectRatio", "primitiveUnits", "refX", "refY", "repeatCount", "repeatDur",
    "requiredExtensions", "requiredFeatures", "specularConstant", "specularExponent",
    "spreadMethod", "startOffset", "stdDeviation", "stitchTiles", "surfaceScale",
    "systemLanguage", "tableValues", "targetX", "targetY", "textLength", "viewBox",
    "viewTarget", "xChannelSelector", "yChannelSelector", "zoomAndPan"]

/-- The name of the list that has the letters, else the name itself. -/
def withCase (names : List String) (name : String) : String :=
  (names.find? fun n => Text.asciiLower n == name).getD name

/-- Attributes borrowed from other vocabularies, with their space and name. -/
def borrowedAttributes : List (String × String × String) :=
  [("xlink:actuate", "xlink", "actuate"), ("xlink:arcrole", "xlink", "arcrole"),
    ("xlink:href", "xlink", "href"), ("xlink:role", "xlink", "role"),
    ("xlink:show", "xlink", "show"), ("xlink:title", "xlink", "title"),
    ("xlink:type", "xlink", "type"), ("xml:base", "xml", "base"), ("xml:lang", "xml", "lang"),
    ("xml:space", "xml", "space"), ("xmlns", "xmlns", "xmlns"),
    ("xmlns:xlink", "xmlns", "xlink")]

def foreignAttribute (v : Vocabulary) (a : String × String) : Attribute :=
  let name := match v with
    | .svg => withCase svgAttributes a.1
    | .mathml => if a.1 = "definitionurl" then "definitionURL" else a.1
    | .html => a.1
  match borrowedAttributes.lookup name with
  | some (space, own) => ⟨space, own, a.2⟩
  | none => ⟨"", name, a.2⟩

/-- The foreign element that a tag stands for. -/
def foreignLabel (v : Vocabulary) (t : Tag) : Label :=
  ⟨v, if v = .svg then withCase svgElements t.name else t.name,
    t.attributes.map (foreignAttribute v)⟩

/-- Inserts a foreign element; one that closes itself holds nothing. -/
def insertForeign (v : Vocabulary) (t : Tag) : Build Unit := do
  let _ ← insertLabel (foreignLabel v t)
  if t.selfClosing then pop

/-- The MathML elements whose text is that of HTML. -/
def takesHtmlText (l : Label) : Bool :=
  l.vocabulary = .mathml && ["mi", "mo", "mn", "ms", "mtext"].contains l.name

/-- The SVG elements whose content is HTML. -/
def takesHtml (l : Label) : Bool :=
  l.vocabulary = .svg && ["foreignObject", "desc", "title"].contains l.name

/-- Whether a token inside the element follows the rules of foreign content. -/
def followsForeignRules (l : Label) (t : Token) : Bool :=
  if l.vocabulary = .html then false
  else
    match t with
    | .stop => false
    | .char _ => !(takesHtmlText l || takesHtml l)
    | .tag tag =>
      if tag.isEnd then true
      else
        !((takesHtmlText l && !(["mglyph", "malignmark"].contains tag.name)) ||
          (l.vocabulary = .mathml && l.name == "annotation-xml" && tag.name == "svg") ||
          takesHtml l)
    | .comment _ | .doctype _ | .fault => true

/-- The HTML start tags that end foreign content. -/
def endsForeign (t : Tag) : Bool :=
  ["b", "big", "blockquote", "body", "br", "center", "code", "dd", "div", "dl", "dt", "em",
    "embed", "h1", "h2", "h3", "h4", "h5", "h6", "head", "hr", "i", "img", "li", "listing", "menu",
    "meta", "nobr", "ol", "p", "pre", "ruby", "s", "small", "span", "strong", "strike", "sub",
    "sup", "table", "tt", "u", "ul", "var"].contains t.name ||
    (t.name == "font" &&
      t.attributes.any fun a => ["color", "face", "size"].contains a.1)

/-- What an end tag in foreign content does: it closes the elements up to one of its name, or it
belongs to the HTML around. -/
inductive ForeignEnd
  | closes (stack : List Nat)
  | belongsOutside
  | ignored

def foreignEnd (d : Draft) (name : String) : Bool → List Nat → ForeignEnd
  | _, [] | _, [_] => .ignored
  | isFirst, i :: rest =>
    let l := (d.label? i).getD emptyLabel
    if !isFirst && l.vocabulary = .html then .belongsOutside
    else if Text.asciiLower l.name == name then .closes rest
    else foreignEnd d name false rest

/-- A token in foreign content; whether it has to be read again by the rules of HTML, and whether
it belongs there already. -/
def foreignRules (t : Token) : Build (Bool × Bool) := do
  match t with
  | .char c =>
    if c.toNat = 0 then insertChar Token.replacement
    else
      insertChar c
      if !Token.isBlank c then noFrameset
    return (false, false)
  | .comment s =>
    insertComment s
    return (false, false)
  | .tag tag =>
    if tag.isEnd then
      match foreignEnd (← get).draft tag.name true (← get).stack with
      | .closes rest =>
        modify fun b => { b with stack := rest }
        return (false, false)
      | .belongsOutside => return (false, true)
      | .ignored => return (false, false)
    else if endsForeign tag then
      pop
      popWhile fun l => !(l.vocabulary = .html || takesHtmlText l || takesHtml l)
      return (true, false)
    else
      insertForeign (← currentLabel).vocabulary tag
      return (false, false)
  | .doctype _ | .fault | .stop => return (false, false)

end PageHarvest.Html.Build
