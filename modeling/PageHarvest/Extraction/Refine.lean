import PageHarvest.Regex.Match
import PageHarvest.Schema.Rule
import PageHarvest.Text.Case

/-!
# Refining what was read

A rule may take a part out of a text by a pattern and transform it. Only texts change: a text by
itself and the texts in a list. A pattern that is none leaves nothing of any value.
-/

namespace PageHarvest

namespace Transform

def apply (t : Transform) (s : String) : String :=
  match t with
  | trim => Text.trim s
  | lowercase => Text.toLower s
  | uppercase => Text.toUpper s
  | number | date | json => s

end Transform

/-- The first group of the first match, else the whole match, else the text itself. -/
def Regex.capture (r : Regex) (s : String) : String :=
  match r.find? s with
  | some slots => ((slots.group? s 1).orElse fun _ => slots.group? s 0).getD s
  | none => s

namespace Rule

/-- Whether the rule changes what was read. Pictures are no texts. -/
def refines (r : Rule) : Bool :=
  r.kind != .screenshot && (r.regex.isSome || r.transform.isSome)

/-- A text after the pattern and the transform. -/
def refineText (pattern : Option Regex) (transform : Option Transform) (s : String) : String :=
  let part := match pattern with
    | some p => p.capture s
    | none => s
  match transform with
  | some t => t.apply part
  | none => part

/-- Changes the texts of a value: the value itself, or the items of a list. -/
def mapTexts (f : String → String) : Json → Json
  | .str s => .str (f s)
  | .arr items => .arr (items.map fun
    | .str s => .str (f s)
    | item => item)
  | v => v

/-- A value after the rule's pattern and transform. -/
def refine (r : Rule) (value : Json) : Json :=
  if !r.refines then value
  else
    match r.regex with
    | none => mapTexts (refineText none r.transform) value
    | some pattern =>
      match Regex.ofPattern? pattern with
      | some p => mapTexts (refineText (some p) r.transform) value
      | none => .null

end Rule

end PageHarvest
