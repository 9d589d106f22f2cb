import PageHarvest.Css.Selector

/-!
# Reading elements and heads of documents

The value of a form control, whether one is checked, and the metadata of a document.
-/

namespace PageHarvest.Html

namespace Document

/-- The first element with a property. -/
def first? (d : Document) (p : Place → Element → Bool) : Option Element :=
  d.places.findSome? fun q => (d.element? q).filter (p q)

/-- The elements of a name inside an element. -/
def namedBelow (d : Document) (name : String) (p : Place) : List Element :=
  ((d.placesBelow p).filterMap d.element?).filter fun e => e.name == name

/-- The text of an option's value: its attribute, else its text. -/
def optionValue (e : Element) : String := (e.attribute? "value").getD (Text.trim e.text)

/-- The value of the control at a place. A selection has the value of its first option that is
marked as selected, else of its first option. -/
def controlValue (d : Document) (p : Place) (e : Element) : String :=
  match e.name with
  | "textarea" => e.text
  | "select" =>
    let options := d.namedBelow "option" p
    let chosen := (options.find? fun o => (o.attribute? "selected").isSome).orElse fun _ =>
      options.head?
    (chosen.map optionValue).getD ""
  | _ => (e.attribute? "value").getD ""

end Document

/-- Whether a control is on. -/
def Element.isOn (e : Element) : Bool :=
  match e.name with
  | "option" => (e.attribute? "selected").isSome
  | _ => (e.attribute? "checked").isSome

namespace Document

/-- The text of the first title. -/
def title? (d : Document) : Option String :=
  (d.first? fun _ e => e.name == "title").map fun e => Text.trim e.text

/-- An attribute of the first element of a name whose other attribute has a value. -/
def marked? (d : Document) (name key value wanted : String) : Option String :=
  (d.first? fun _ e => e.name == name && Css.testAttr e .plain key .equals value .byName).bind
    fun e => e.attribute? wanted

/-- The content of the first `meta` element of a name. -/
def named? (d : Document) (name : String) : Option String := d.marked? "meta" "name" name "content"

/-- The content of the first `meta` element of a property. -/
def property? (d : Document) (name : String) : Option String :=
  d.marked? "meta" "property" name "content"

/-- The address that a document gives itself. -/
def canonical? (d : Document) : Option String := d.marked? "link" "rel" "canonical" "href"

end Document

end PageHarvest.Html
