import PageHarvest.Proofs.Extraction.Items
import PageHarvest.Proofs.Extraction.Likeness

/-!
# What a list comes to

A list that finds its items is an array with one record for each of them. A field of a record is
what its rule comes to when it is walked from the item by itself, or null, and the item errors are
those of the fields in turn. Neither depends on the items and fields that were read before: they
register elements and record errors, and nothing else.

* `Report.Gives`: a report that comes to a value with its item errors from every state with a
  property, and keeps the property;
* `Walker.alone`: a rule walked from an element by itself;
* `Walker.IsRecordOf`, `Walker.itemErrorsOf`: the record of an item and the errors on it;
* `Walker.walk_items`: the array and the errors of a list, and the order of its items.
-/

namespace PageHarvest

open Html

variable {σ α β : Type}

/-! ## Reports that come to an end -/

/-- From every state with the property, the report comes to the value, tells these item errors, and
keeps the property. -/
def Report.Gives (I : σ → Prop) (o : Report σ α) (v : α) (errors : List String) : Prop :=
  ∀ s, I s → ∃ calls s', o.runIn s = (⟨.ok v, errors, calls⟩, s') ∧ I s'

namespace Report.Gives

variable {I : σ → Prop} {o : Report σ α} {v : α} {u : β} {errors errors' : List String}

theorem pure (x : α) : Gives I (Pure.pure x : Report σ α) x [] := fun s hs => ⟨[], s, rfl, hs⟩

theorem bind {k : α → Report σ β} (h : o.Gives I v errors) (hk : (k v).Gives I u errors') :
    Gives I (o >>= k) u (errors ++ errors') := by
  intro s hs
  obtain ⟨calls, s₁, first, h₁⟩ := h s hs
  obtain ⟨calls', s₂, second, h₂⟩ := hk s₁ h₁
  have value : (o.runIn s).1.value = .ok v := by rw [first]
  refine ⟨calls ++ calls', s₂, ?_, h₂⟩
  rw [runIn_bind_ok value, first, second]
  rfl

/-- A function of the value. -/
theorem map (h : o.Gives I v errors) (f : α → β) :
    Gives I (o >>= fun x => Pure.pure (f x)) (f v) errors := by
  have mapped := h.bind (k := fun x => Pure.pure (f x)) (.pure (f v))
  rwa [List.append_nil] at mapped

theorem inTurn {ι : Type} {k : ι → Report σ α} {f : ι → α} {g : ι → List String} {xs : List ι}
    (h : ∀ x ∈ xs, (k x).Gives I (f x) (g x)) :
    (inTurn (xs.map k)).Gives I (xs.map f) (xs.flatMap g) := by
  induction xs with
  | nil => exact .pure []
  | cons x xs ih =>
    obtain ⟨first, later⟩ := List.forall_mem_cons.1 h
    exact first.bind ((ih later).map _)

end Report.Gives

/-! ## Children by themselves -/

namespace Outcome

/-- The item errors that the outcome of a child leaves for an item of a list: those of the lists
below it, and then the one on the child itself. -/
def fieldErrors (list : String) (i : Nat) (child : Rule) (o : Outcome Json) : List String :=
  if child.optional then []
  else o.itemErrors ++ match o.value with
    | .ok _ => []
    | .error f => [itemHead list i child.name ++ f.message]

/-- A child that is not nested too deep leaves null where it fails. -/
theorem asField_eq {o : Outcome Json} (spared : SparesRules o.value) (list : String) (i : Nat)
    (child : Rule) :
    o.asField list i child = ⟨.ok o.orNull, o.fieldErrors list i child, o.calls⟩ := by
  obtain ⟨value, itemErrors, calls⟩ := o
  cases value with
  | ok v => rfl
  | error f =>
    have shallow : ∀ d, f ≠ .maxDepthExceeded d := by
      rintro d rfl
      cases spared _ rfl
    rw [asField, fieldValue.eq_3 f shallow, ownErrors.eq_3 list i child f shallow]
    rfl

end Outcome

namespace Walker

/-- What walking a rule from an element comes to by itself, and the item errors that it records. -/
def alone (w : Walker Site) (site : Site) (depth : Nat) (h : Handle) (r : Rule) : Outcome Json :=
  let walked := (w.walk r (some h) depth).runIn ⟨site, []⟩
  ⟨walked.1, walked.2.itemErrors, []⟩

/-- The record of an item, by what each child comes to. -/
def recordOf (r : Rule) (alone : Rule → Outcome Json) : Entries Json :=
  Entries.ofList (r.children.map fun c => (c.name, (alone c).orNull))

/-- The item errors on an item, by what each child comes to. -/
def itemErrorsOf (r : Rule) (i : Nat) (alone : Rule → Outcome Json) : List String :=
  r.children.flatMap fun c => (alone c).fieldErrors r.name i c

/-- What the record of an item has: the names of the children in the order in which they come first,
and under each of them what the last child of the name comes to, or null. -/
structure IsRecordOf (r : Rule) (alone : Rule → Outcome Json) (record : Entries Json) : Prop where
  keys : record.keys = (r.children.map Rule.name).eraseDups
  values : ∀ name, record.get? name =
    (r.children.reverse.find? fun c => c.name == name).map fun c => (alone c).orNull

theorem isRecordOf_recordOf (r : Rule) (alone : Rule → Outcome Json) :
    IsRecordOf r alone (recordOf r alone) where
  keys := by
    rw [recordOf, Entries.keys_ofList, List.map_map]
    rfl
  values name := by
    rw [recordOf, Entries.get?_ofList, ← List.map_reverse, List.find?_map, Option.map_map]
    rfl

variable {w : Walker Site} {r child : Rule} {depth : Nat} {h : Handle} {found other : Site}

section Child

variable (site : w.page = Site.page) (known : ∃ x, found.element h = .ok x)
  (extended : found.Extends other)

include site known extended

/-- What a rule comes to from an element does not depend on what else was registered. -/
theorem report_alone (r : Rule) (depth : Nat) {s : Site} (hs : found.Extends s) :
    ((w.report r (some h) depth).runIn s).1.value = (w.alone other depth h r).value ∧
      ((w.report r (some h) depth).runIn s).1.itemErrors = (w.alone other depth h r).itemErrors ∧
      found.Extends ((w.report r (some h) depth).runIn s).2 := by
  have page : w.page.Alike (Site.twins found found) w.page := site ▸ Site.page_alike ⟨rfl, rfl⟩
  have walkers : w.Alike (Site.twins found found) w := ⟨page, rfl, rfl⟩
  obtain ⟨⟨q, e⟩, here⟩ := known
  have twins : (Site.twins found found).recording.states ⟨s, []⟩ ⟨other, []⟩ :=
    ⟨⟨hs, extended⟩, rfl⟩
  have walks := walk_alike walkers r depth twins
    (.some ⟨q, e, hs.element here, extended.element here⟩)
  have value := walks.fst_eq
  have after := walks.later.states.1.1
  have errors := walks.later.states.2
  rw [w.walk_reports r (some h) depth s []] at value after errors
  exact ⟨value, errors, after⟩

/-- A child that is not nested too deep leaves its field and its errors. -/
theorem field_gives (fits : child.Fits w.settings.maxRuleDepth depth) (list : String) (i : Nat) :
    ((w.report child (some h) depth).asField list i child).Gives found.Extends
      (w.alone other depth h child).orNull
      ((w.alone other depth h child).fieldErrors list i child) := by
  intro s hs
  obtain ⟨value, errors, after⟩ := report_alone site known extended child depth hs
  have spares : w.Spares (w.report child (some h) depth) :=
    report_spares (site ▸ Site.page_spares) fits nofun
  have field := Outcome.asField_eq (spares s).fault list i child
  rw [Outcome.orNull, Outcome.fieldErrors, value, errors] at field
  exact ⟨_, _, Prod.ext field rfl, after⟩

theorem fields_gives {rest : List Rule}
    (fits : ∀ child ∈ rest, child.Fits w.settings.maxRuleDepth depth) (list : String) (i : Nat)
    (fields : Entries Json) :
    (w.reportFields list rest i h depth fields).Gives found.Extends
      (fields.overwrite (rest.map fun c => (c.name, (w.alone other depth h c).orNull)))
      (rest.flatMap fun c => (w.alone other depth h c).fieldErrors list i c) := by
  induction rest generalizing fields with
  | nil =>
    unfold reportFields
    exact .pure fields
  | cons child rest ih =>
    unfold reportFields
    obtain ⟨first, later⟩ := List.forall_mem_cons.1 fits
    exact (field_gives site known extended first list i).bind (ih later _)

theorem item_gives (fits : ∀ child ∈ r.children, child.Fits w.settings.maxRuleDepth depth)
    (i : Nat) :
    (w.reportItem r depth (h, i)).Gives found.Extends
      (.obj (recordOf r (w.alone other depth h)))
      (itemErrorsOf r i (w.alone other depth h)) :=
  (fields_gives site known extended fits r.name i []).map Json.obj

end Child

/-! ## Lists -/

theorem known_of_places {items : List Handle} {places : List Place}
    (registered : List.Forall₂ (fun h q => found.placeOf h = .ok q) items places)
    (elements : ∀ q ∈ places, ∃ e, found.document.element? q = some e) :
    ∀ h ∈ items, ∃ x, found.element h = .ok x := by
  induction registered with
  | nil => exact nofun
  | cons place _ ih =>
    obtain ⟨⟨e, he⟩, elements⟩ := List.forall_mem_cons.1 elements
    exact List.forall_mem_cons.2 ⟨⟨_, Site.element_eq_ok.2 ⟨place, he⟩⟩, ih elements⟩

/-- Refining a list of records changes none of them. -/
theorem refine_records {r : Rule}
    (compiles : ∀ pattern, r.regex = some pattern → (Regex.ofPattern? pattern).isSome)
    (records : List (Entries Json)) :
    r.refine (.arr (records.map .obj)) = .arr (records.map .obj) := by
  obtain ⟨change, keeps, refined⟩ := Rule.exists_refine_arr compiles (records.map .obj)
  rw [refined, List.map_map]
  exact congrArg Json.arr (List.map_congr_left fun es _ => keeps es)

/-- The records of the items of a list, and the item errors on them, by what the children come to
by themselves. -/
def itemRecords (w : Walker Site) (r : Rule) (depth : Nat) (other : Site) (items : List Handle) :
    List (Entries Json) :=
  items.map fun h => recordOf r (w.alone other depth h)

def itemLines (w : Walker Site) (r : Rule) (depth : Nat) (other : Site) (items : List Handle) :
    List String :=
  items.zipIdx.flatMap fun item => itemErrorsOf r item.2 (w.alone other depth item.1)

section List

variable (site : w.page = Site.page) {scope : Option Handle} {t : Target} {s : Site}
  {items : List Handle} (located : (w.find scope t).runIn s = (.ok items, found))

include site located

/-- What is found are elements. -/
theorem find_known (present : ∀ h, t = .scope h → ∃ x, s.element h = .ok x) :
    ∀ h ∈ items, ∃ x, found.element h = .ok x := by
  cases t with
  | located l =>
    rw [find, site] at located
    obtain ⟨places, known, extended, registered⟩ := Site.exists_of_query_ok located
    refine known_of_places registered ?_
    rw [extended.document]
    exact Site.element?_of_findPlaces known
  | scope h =>
    cases located
    intro h' hh
    rw [List.mem_singleton.1 hh]
    exact present h rfl
  | wholePage =>
    cases located
    exact nofun

theorem reading_gives (list : r.kind = .list) (fields : r.children ≠ [])
    (fits : r.Fits w.settings.maxRuleDepth depth)
    (known : ∀ h ∈ items, ∃ x, found.element h = .ok x) (extended : found.Extends other) :
    ∃ calls after, (w.reading r scope depth t).runIn s =
      (⟨.ok (.arr ((w.itemRecords r (depth + 1) other items).map .obj)),
        w.itemLines r (depth + 1) other items, calls⟩, after) ∧ found.Extends after := by
  have each : (Report.inTurn (items.zipIdx.map (w.reportItem r (depth + 1)))).Gives found.Extends
      (items.zipIdx.map fun item => .obj (recordOf r (w.alone other (depth + 1) item.1)))
      (w.itemLines r (depth + 1) other items) :=
    .inTurn fun item hitem =>
      item_gives site (known _ (List.fst_mem_of_mem_zipIdx hitem)) extended fits.children item.2
  obtain ⟨calls, after, run, later⟩ := (each.map Json.arr) found (.refl found)
  have values : (items.zipIdx.map fun item =>
        Json.obj (recordOf r (w.alone other (depth + 1) item.1))) =
      (w.itemRecords r (depth + 1) other items).map .obj := by
    rw [itemRecords, List.map_map]
    conv => rhs; rw [← List.zipIdx_map_fst 0 items, List.map_map]
    rfl
  have onPage : (Report.onPage (w.find scope t)).runIn s = (⟨.ok items, [], []⟩, found) := by
    show ((⟨((w.find scope t).runIn s).1, [], []⟩ : Outcome _), ((w.find scope t).runIn s).2) = _
    rw [located]
  refine ⟨calls, after, ?_, later⟩
  unfold reading
  rw [if_neg (not_not.2 list), Report.runIn_bind_ok (congrArg (·.1.value) onPage), onPage,
    if_neg (by simpa using fields), run, values]
  rfl

end List

/-- A paragraph between the rows of a table moves out in front of the table. -/
def movedParagraph : Site where
  sources := []
  url := ⟨"about", none, "a", none, none⟩
  document := .parse "<table><tr><td><p>a</p></td></tr><p>b</p></table>"
  registered := []
  generation := 0
  waited := 0
  isBroken := false

def paragraphs : Rule :=
  { Rule.ofKind "items" .list with
    selector := some "p"
    children := [Rule.ofKind "t" .text] }

def paragraphsWalker : Walker Site := ⟨Site.page, none, {}⟩

theorem findPlaces_movedParagraph :
    movedParagraph.findPlaces none (.css "p") = .ok [[0, 0, 0, 0, 1, 1, 0], [0, 1, 0]] := by
  have places : movedParagraph.document.places = [[0], [0, 0], [1, 0], [1, 1, 0], [0, 1, 1, 0],
      [0, 0, 1, 1, 0], [0, 0, 0, 1, 1, 0], [0, 0, 0, 0, 1, 1, 0], [0, 1, 0]] := by
    rw [Document.places_eq_insertionSort (by decide +kernel)]
    decide +kernel
  have reads : (Css.Selector.read? "p").isSome := by decide +kernel
  rw [Site.findPlaces_eq (l := .css "p") rfl (Option.some_get reads).symm none]
  dsimp only
  rw [Css.Selector.select, places]
  revert reads
  decide +kernel

end Walker

end PageHarvest
