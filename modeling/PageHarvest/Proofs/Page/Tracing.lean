import PageHarvest.Extraction.Paging
import PageHarvest.Proofs.Page.Likeness

/-!
# Pages that take notes

A page can be made to note what it is asked, and what it answers, without any other change: what is
done with it comes to the same (`Page.traced_alike`). The notes show which questions a run put to
the page and to its advancer, and in which order.
-/

namespace PageHarvest

/-- A question to a page or to its advancer, with the answer. -/
inductive Event
  | url (answer : Except Fault String)
  | queryAll (scope : Option Handle) (locator : Locator) (answer : Except Fault (List Handle))
  | text (element : Handle) (answer : Except Fault String)
  | innerHtml (element : Handle) (answer : Except Fault String)
  | attributeOf (element : Handle) (name : String) (answer : Except Fault (Option String))
  | inputValue (element : Handle) (answer : Except Fault String)
  | isChecked (element : Handle) (answer : Except Fault Bool)
  | tagName (element : Handle) (answer : Except Fault String)
  | metadata (answer : Except Fault Metadata)
  | screenshot (answer : Except Fault (List UInt8))
  | click (element : Handle) (answer : Except Fault Unit)
  | waitForIdle (answer : Except Fault Unit)
  | wait (time : Nat) (answer : Except Fault Unit)
  | advance (policy : Pagination) (answer : Except Fault Bool)

namespace Event

/-- What the advancer answered, if it was asked. -/
def advanced? : Event → Option (Except Fault Bool)
  | advance _ answer => some answer
  | _ => none

def isClick : Event → Bool
  | click .. => true
  | _ => false

end Event

/-- A state with the notes taken so far. -/
structure Traced (σ : Type) where
  state : σ
  events : List Event

variable {σ α : Type}

/-- The action with a note of what it came to. -/
def Act.traced (event : Except Fault α → Event) (a : Act σ α) : Act (Traced σ) α := fun s =>
  let o := a.runIn s.state
  (o.1, ⟨o.2, s.events ++ [event o.1]⟩)

def Page.traced (p : Page σ) : Page (Traced σ) where
  url := p.url.traced .url
  queryAll scope l := (p.queryAll scope l).traced (.queryAll scope l)
  text h := (p.text h).traced (.text h)
  innerHtml h := (p.innerHtml h).traced (.innerHtml h)
  attributeOf h name := (p.attributeOf h name).traced (.attributeOf h name)
  inputValue h := (p.inputValue h).traced (.inputValue h)
  isChecked h := (p.isChecked h).traced (.isChecked h)
  tagName h := (p.tagName h).traced (.tagName h)
  metadata := p.metadata.traced .metadata
  screenshot := p.screenshot.traced .screenshot
  click h := (p.click h).traced (.click h)
  waitForIdle := p.waitForIdle.traced .waitForIdle
  wait n := (p.wait n).traced (.wait n)

def Advancer.traced (advance : Advancer σ) : Advancer (Traced σ) := fun policy =>
  (advance policy).traced (.advance policy)

theorem Act.traced_runIn (event : Except Fault α → Event) (a : Act σ α) (s : Traced σ) :
    (a.traced event).runIn s =
      ((a.runIn s.state).1, ⟨(a.runIn s.state).2, s.events ++ [event (a.runIn s.state).1]⟩) :=
  rfl

/-! ## Without the notes -/

/-- A state with notes is like the state itself. -/
def Likeness.withNotes (σ : Type) : Likeness (Traced σ) σ := ⟨fun s t => s.state = t, fun _ _ => Eq⟩

theorem Act.traced_alike (event : Except Fault α → Event) (a : Act σ α) {s : Traced σ} {t : σ}
    (st : (Likeness.withNotes σ).states s t) :
    Act.Alike (.withNotes σ) Same (a.traced event) a s t := by
  obtain rfl := st
  exact .of_fst_eq rfl ⟨rfl, fun _ _ same => same⟩

theorem Page.traced_alike (p : Page σ) : p.traced.Alike (.withNotes σ) p :=
  Page.alike_of_eq (fun _ _ => rfl) (Act.traced_alike _ _) (fun _ _ => Act.traced_alike _ _)
    (fun _ => Act.traced_alike _ _) (fun _ => Act.traced_alike _ _)
    (fun _ _ => Act.traced_alike _ _) (fun _ => Act.traced_alike _ _)
    (fun _ => Act.traced_alike _ _) (Act.traced_alike _ _) (Act.traced_alike _ _)

/-! ## What is noted -/

/-- The notes begin with these, and go on without a question to the advancer. -/
def Traced.Continues (events : List Event) (s : Traced σ) : Prop :=
  ∃ more, s.events = events ++ more ∧ more.filterMap Event.advanced? = []

variable {events : List Event}

theorem Act.traced_keeps {event : Except Fault α → Event} (a : Act σ α)
    (asksPage : ∀ answer, (event answer).advanced? = none) :
    (a.traced event).Keeps (Traced.Continues events) := by
  rintro s ⟨more, hs, none⟩
  refine ⟨more ++ [event (a.runIn s.state).1], ?_, ?_⟩
  · rw [traced_runIn, hs, List.append_assoc]
  · rw [List.filterMap_append, none, List.nil_append]
    exact List.filterMap_cons_none (asksPage _)

/-- An extraction asks the page only. -/
theorem Page.traced_keeps (p : Page σ) :
    p.traced.Alike (.keeping (Traced.Continues events)) p.traced :=
  Page.alike_keeping (Act.traced_keeps _ fun _ => rfl) (fun _ _ => Act.traced_keeps _ fun _ => rfl)
    (fun _ => Act.traced_keeps _ fun _ => rfl) (fun _ => Act.traced_keeps _ fun _ => rfl)
    (fun _ _ => Act.traced_keeps _ fun _ => rfl) (fun _ => Act.traced_keeps _ fun _ => rfl)
    (fun _ => Act.traced_keeps _ fun _ => rfl) (Act.traced_keeps _ fun _ => rfl)
    (Act.traced_keeps _ fun _ => rfl)

end PageHarvest
