import PageHarvest.Page.Site
import PageHarvest.Proofs.Fallible
import PageHarvest.Proofs.Html.Places
import PageHarvest.Proofs.Page.Likeness

/-!
# The registry of a site

A site numbers its elements as queries find them, so the numbers depend on what was asked before.
What the numbers stand for does not: a handle keeps its element as long as the registry is only
extended, and two sites that show one document at one URL are alike, whatever they have registered
(`Site.page_alike`). What a query finds comes in the order of the document, or in the order in which
the elements were made (`Site.order_of_findPlaces`).
-/

namespace PageHarvest

open Html

namespace Site

/-- The second site is the first one with more elements registered. Only an XPath that was cut
inside a character may be on record besides. -/
structure Extends (s t : Site) : Prop where
  sources : t.sources = s.sources
  url : t.url = s.url
  document : t.document = s.document
  generation : t.generation = s.generation
  waited : t.waited = s.waited
  registered : s.registered <+: t.registered
  isBroken : s.isBroken = true → t.isBroken = true

theorem Extends.refl (s : Site) : s.Extends s := ⟨rfl, rfl, rfl, rfl, rfl, List.prefix_refl _, id⟩

theorem Extends.trans {s t u : Site} (h : s.Extends t) (k : t.Extends u) : s.Extends u :=
  ⟨k.sources.trans h.sources, k.url.trans h.url, k.document.trans h.document,
    k.generation.trans h.generation, k.waited.trans h.waited, h.registered.trans k.registered,
    k.isBroken ∘ h.isBroken⟩

/-! ## Handles -/

theorem placeOf_eq_ok {s : Site} {h : Handle} {q : Place} :
    s.placeOf h = .ok q ↔ h.generation = s.generation ∧ s.registered[h.index]? = some q := by
  unfold placeOf
  by_cases current : h.generation = s.generation
  · rw [if_neg (not_not.2 current)]
    cases s.registered[h.index]? <;> simp [current]
  · rw [if_pos current]
    simp [current]

theorem Extends.placeOf {s t : Site} (h : s.Extends t) {x : Handle} {q : Place}
    (known : s.placeOf x = .ok q) : t.placeOf x = .ok q := by
  obtain ⟨current, hq⟩ := placeOf_eq_ok.1 known
  refine placeOf_eq_ok.2 ⟨current.trans h.generation.symm, ?_⟩
  obtain ⟨lt, rfl⟩ := List.getElem?_eq_some_iff.1 hq
  exact List.prefix_iff_getElem?.1 h.registered _ lt

theorem element_eq_ok {s : Site} {h : Handle} {q : Place} {e : Element} :
    s.element h = .ok (q, e) ↔ s.placeOf h = .ok q ∧ s.document.element? q = some e := by
  unfold element
  rw [bind_eq_ok]
  constructor
  · rintro ⟨p, hp, he⟩
    cases known : s.document.element? p with
    | none =>
      rw [known] at he
      cases he
    | some e' =>
      rw [known] at he
      cases he
      exact ⟨hp, known⟩
  · rintro ⟨hp, known⟩
    refine ⟨q, hp, ?_⟩
    rw [known]
    rfl

/-- A handle keeps its element. -/
theorem Extends.element {s t : Site} (h : s.Extends t) {x : Handle} {q : Place} {e : Element}
    (known : s.element x = .ok (q, e)) : t.element x = .ok (q, e) := by
  obtain ⟨hq, he⟩ := element_eq_ok.1 known
  exact element_eq_ok.2 ⟨h.placeOf hq, h.document ▸ he⟩

theorem read_runIn {α : Type} (f : Document → Place → Element → α) (h : Handle) (s : Site) :
    (read f h).runIn s = ((s.element h).map fun x => f s.document x.1 x.2, s) := by
  unfold read
  rw [Act.runIn_bind_ok (Act.runIn_get s)]
  cases s.element h <;> rfl

/-! ## Registering -/

theorem register_extends (s : Site) (q : Place) : s.Extends (s.register q).2 := by
  unfold register
  split
  · exact .refl s
  · exact ⟨rfl, rfl, rfl, rfl, rfl, List.prefix_append _ _, id⟩

theorem placeOf_register (s : Site) (q : Place) :
    (s.register q).2.placeOf (s.register q).1 = .ok q := by
  unfold register
  split
  · rename_i i hi
    obtain ⟨lt, here, _⟩ := List.idxOf?_eq_some_iff.1 hi
    exact placeOf_eq_ok.2 ⟨rfl, List.getElem?_eq_some_iff.2 ⟨lt, here⟩⟩
  · exact placeOf_eq_ok.2 ⟨rfl, List.getElem?_concat_length⟩

/-- Each of the places gets a handle that stands for it. -/
theorem registerAll_run (s : Site) (qs : List Place) :
    s.Extends ((registerAll qs).run s).2 ∧
      List.Forall₂ (fun h q => ((registerAll qs).run s).2.placeOf h = .ok q)
        ((registerAll qs).run s).1 qs := by
  induction qs generalizing s with
  | nil => exact ⟨.refl s, .nil⟩
  | cons q qs ih =>
    obtain ⟨extended, known⟩ := ih (s.register q).2
    have run : (registerAll (q :: qs)).run s =
        ((s.register q).1 :: ((registerAll qs).run (s.register q).2).1,
          ((registerAll qs).run (s.register q).2).2) := rfl
    rw [run]
    have here := extended.placeOf (placeOf_register s q)
    exact ⟨(register_extends s q).trans extended, .cons here known⟩

/-! ## Queries -/

/-- What a locator matches depends on the document and on the place of the scope. -/
theorem findPlaces_congr {s t : Site} (document : t.document = s.document) {a b : Option Handle}
    (scopes : Option.Rel (fun x y => s.placeOf x = t.placeOf y) a b) (l : Locator) :
    s.findPlaces a l = t.findPlaces b l := by
  unfold findPlaces
  rw [document]
  cases scopes with
  | some same => simp only [same]
  | none => rfl

/-- What a locator with a selector that can be read finds. -/
theorem findPlaces_eq {s : Site} {l : Locator} {text : String} {isForAll : Bool}
    {selector : Css.Selector} (written : selectorText l = .ok (text, isForAll))
    (reads : Css.Selector.read? text = some selector) (scope : Option Handle) :
    s.findPlaces scope l =
      match scope with
      | none => .ok (selector.select s.document)
      | some h => (s.placeOf h).map fun p =>
        if isForAll then selector.select s.document else selector.selectBelow s.document p := by
  unfold findPlaces
  simp only [written, bind, Except.bind, reads]
  cases scope with
  | none => rfl
  | some h =>
    dsimp only
    cases s.placeOf h <;> rfl

/-- A locator that is searched for inside the element of the scope only. An XPath that does not
begin with a point is not. -/
def IsScoped (scope : Option Handle) (l : Locator) : Prop :=
  scope.isSome = true ∧ ∃ text, selectorText l = .ok (text, false)

/-- What is found are the matches below the element of the scope, or in the whole document. -/
theorem exists_of_findPlaces {s : Site} {scope : Option Handle} {l : Locator} {places : List Place}
    (found : s.findPlaces scope l = .ok places) :
    ∃ selector : Css.Selector, ¬ IsScoped scope l ∧ places = selector.select s.document ∨
      IsScoped scope l ∧ ∃ h p, s.placeOf h = .ok p ∧
        places = selector.selectBelow s.document p := by
  unfold findPlaces at found
  obtain ⟨⟨text, isForAll⟩, written, found⟩ := bind_eq_ok.1 found
  dsimp only at found
  cases hr : Css.Selector.read? text with
  | none =>
    rw [hr] at found
    cases found
  | some selector =>
    rw [hr] at found
    refine ⟨selector, ?_⟩
    cases scope with
    | none =>
      cases found
      exact .inl ⟨fun inside => (nomatch inside.1), rfl⟩
    | some h =>
      obtain ⟨p, known, found⟩ := bind_eq_ok.1 found
      cases isForAll with
      | true =>
        cases found
        refine .inl ⟨fun ⟨_, text', inside⟩ => ?_, rfl⟩
        rw [written] at inside
        cases inside
      | false =>
        cases found
        exact .inr ⟨⟨rfl, text, written⟩, h, p, known, rfl⟩

theorem findPlaces_eq_ok {s : Site} {scope : Option Handle} {l : Locator} {places : List Place}
    (found : s.findPlaces scope l = .ok places) :
    ∃ selector : Css.Selector, places = selector.select s.document ∨
      ∃ h p, s.placeOf h = .ok p ∧ places = selector.selectBelow s.document p := by
  obtain ⟨selector, ⟨_, all⟩ | ⟨_, below⟩⟩ := exists_of_findPlaces found
  · exact ⟨selector, .inl all⟩
  · exact ⟨selector, .inr below⟩

/-- Every match is found once. Those inside a scope come in the order of the document; those in the
whole document come in the order in which they were made, which is that of the document where no
element was moved. -/
theorem order_of_findPlaces {s : Site} {scope : Option Handle} {l : Locator} {places : List Place}
    (found : s.findPlaces scope l = .ok places) :
    places.Nodup ∧ (IsScoped scope l ∨ s.document.Unmoved → places.Pairwise Place.Before) ∧
      (¬ IsScoped scope l → places.Pairwise s.document.Older) := by
  obtain ⟨selector, ⟨whole, rfl⟩ | ⟨inside, h, p, _, rfl⟩⟩ := exists_of_findPlaces found
  · refine ⟨s.document.nodup_places.filter _, fun ordered => ?_, fun _ => ?_⟩
    · exact (ordered.resolve_left whole).pairwise_places.filter _
    · exact s.document.pairwise_places_older.filter _
  · have below := (s.document.pairwise_placesBelow p).filter (selector.holds s.document (some p))
    exact ⟨below.imp fun before => before.ne, fun _ => below, fun whole => absurd inside whole⟩

/-- A locator matches elements. -/
theorem element?_of_findPlaces {s : Site} {scope : Option Handle} {l : Locator}
    {places : List Place} (found : s.findPlaces scope l = .ok places) :
    ∀ q ∈ places, ∃ e, s.document.element? q = some e := by
  intro q hq
  obtain ⟨selector, rfl | ⟨h, p, _, rfl⟩⟩ := findPlaces_eq_ok found
  · exact Document.element?_of_mem_places (List.mem_filter.1 hq).1
  · exact Document.element?_of_mem_placesBelow (List.mem_filter.1 hq).1

theorem query_runIn (scope : Option Handle) (l : Locator) (s : Site) :
    (query scope l).runIn s =
      match s.findPlaces scope l with
      | .ok places => (.ok ((registerAll places).run s).1, ((registerAll places).run s).2)
      | .error (.brokenXPath path) => (.error (.brokenXPath path), { s with isBroken := true })
      | .error f => (.error f, s) := by
  unfold query
  rw [Act.runIn_bind_ok (Act.runIn_get s)]
  cases s.findPlaces scope l with
  | ok places => rfl
  | error f => cases f <;> rfl

theorem query_runIn_ok {s : Site} {scope : Option Handle} {l : Locator} {places : List Place}
    (found : s.findPlaces scope l = .ok places) :
    (query scope l).runIn s =
      (.ok ((registerAll places).run s).1, ((registerAll places).run s).2) := by
  rw [query_runIn, found]

/-- A query that fails finds nothing new. -/
theorem query_runIn_error {s : Site} {scope : Option Handle} {l : Locator} {f : Fault}
    (lost : s.findPlaces scope l = .error f) :
    ∃ t, (query scope l).runIn s = (.error f, t) ∧ s.Extends t := by
  have broken : s.Extends { s with isBroken := true } :=
    ⟨rfl, rfl, rfl, rfl, rfl, List.prefix_refl _, fun _ => rfl⟩
  rw [query_runIn, lost]
  cases f with
  | brokenXPath path => exact ⟨_, rfl, broken⟩
  | _ => exact ⟨_, rfl, .refl s⟩

/-- A query that succeeds gives a handle for each match, and registers those that are new. -/
theorem exists_of_query_ok {s found : Site} {scope : Option Handle} {l : Locator}
    {items : List Handle} (ran : (query scope l).runIn s = (.ok items, found)) :
    ∃ places, s.findPlaces scope l = .ok places ∧ s.Extends found ∧
      List.Forall₂ (fun h q => found.placeOf h = .ok q) items places := by
  cases places : s.findPlaces scope l with
  | ok qs =>
    rw [query_runIn_ok places] at ran
    cases ran
    exact ⟨qs, rfl, registerAll_run s qs⟩
  | error f =>
    obtain ⟨t, failed, _⟩ := query_runIn_error places
    rw [failed] at ran
    cases ran

/-! ## Sites that show the same -/

theorem forall₂_of_common {α β γ : Type} {R : α → γ → Prop} {S : β → γ → Prop} {xs : List α}
    {ys : List β} {zs : List γ} (left : List.Forall₂ R xs zs) (right : List.Forall₂ S ys zs) :
    List.Forall₂ (fun x y => ∃ z ∈ zs, R x z ∧ S y z) xs ys := by
  induction left generalizing ys with
  | nil =>
    cases right
    exact .nil
  | cons h _ ih =>
    cases right with
    | cons k right =>
      refine .cons ⟨_, List.mem_cons_self, h, k⟩ ((ih right).imp ?_)
      exact fun x y ⟨z, hz, both⟩ => ⟨z, List.mem_cons_of_mem _ hz, both⟩

/-- The second site shows the same document at the same URL. What it has registered, and how often
it was loaded, may differ. -/
structure Shows (s t : Site) : Prop where
  url : t.url = s.url
  document : t.document = s.document

/-- Sites that have come from two sites by registering elements; handles correspond if they stand
for one element. -/
def twins (page copy : Site) : Likeness Site Site where
  states s t := page.Extends s ∧ copy.Extends t
  handles s t x y := ∃ q e, s.element x = .ok (q, e) ∧ t.element y = .ok (q, e)

section Twins

variable {page copy s t s' t' : Site}

theorem twins_refl : (twins page copy).states page copy := ⟨.refl page, .refl copy⟩

theorem twins_later (st : (twins page copy).states s t) (hs : s.Extends s') (ht : t.Extends t') :
    (twins page copy).Later s t s' t' :=
  ⟨⟨st.1.trans hs, st.2.trans ht⟩, fun _ _ ⟨q, e, hx, hy⟩ => ⟨q, e, hs.element hx, ht.element hy⟩⟩

variable (same : page.Shows copy)

include same

theorem Shows.of_twins (st : (twins page copy).states s t) : s.Shows t :=
  ⟨by rw [st.1.url, st.2.url, same.url], by rw [st.1.document, st.2.document, same.document]⟩

theorem read_alike {α : Type} {x y : Handle} (f : Document → Place → Element → α)
    (st : (twins page copy).states s t) (xy : (twins page copy).handles s t x y) :
    Act.Alike (twins page copy) Same (read f x) (read f y) s t := by
  obtain ⟨q, e, hx, hy⟩ := xy
  refine .of_fst_eq ?_ ?_
  · rw [read_runIn, read_runIn, hx, hy, (same.of_twins st).document]
  · rw [read_runIn, read_runIn]
    exact .refl st

theorem query_alike {a b : Option Handle} (l : Locator) (st : (twins page copy).states s t)
    (scopes : (twins page copy).scopes s t a b) :
    Act.Alike (twins page copy) (twins page copy).elements (query a l) (query b l) s t := by
  have showing := same.of_twins st
  have places : s.findPlaces a l = t.findPlaces b l := by
    refine findPlaces_congr showing.document ?_ l
    cases scopes with
    | some xy =>
      obtain ⟨q, e, hx, hy⟩ := xy
      exact .some ((element_eq_ok.1 hx).1.trans (element_eq_ok.1 hy).1.symm)
    | none => exact .none
  cases found : s.findPlaces a l with
  | ok qs =>
    obtain ⟨hs, left⟩ := registerAll_run s qs
    obtain ⟨ht, right⟩ := registerAll_run t qs
    refine .value (query_runIn_ok found) (query_runIn_ok (places ▸ found)) (twins_later st hs ht) ?_
    refine (forall₂_of_common left right).imp fun x y ⟨q, hq, hx, hy⟩ => ?_
    obtain ⟨e, he⟩ := element?_of_findPlaces found q hq
    refine ⟨q, e, element_eq_ok.2 ⟨hx, ?_⟩, element_eq_ok.2 ⟨hy, ?_⟩⟩
    · rw [hs.document, he]
    · rw [ht.document, showing.document, he]
  | error f =>
    obtain ⟨s', hs, es⟩ := query_runIn_error found
    obtain ⟨t', ht, et⟩ := query_runIn_error (places ▸ found)
    exact .fault hs ht (twins_later st es et)

theorem url_alike (st : (twins page copy).states s t) :
    Act.Alike (twins page copy) Same Site.page.url Site.page.url s t := by
  have run (u : Site) : Site.page.url.runIn u = (.ok u.url.text, u) := rfl
  exact .value (run s) (run t) (.refl st) (congrArg Url.text (same.of_twins st).url.symm)

theorem metadata_alike (st : (twins page copy).states s t) :
    Act.Alike (twins page copy) Same Site.page.metadata Site.page.metadata s t := by
  have run (u : Site) : Site.page.metadata.runIn u = (.ok (Site.metadata u.document), u) := rfl
  exact .value (run s) (run t) (.refl st) (congrArg Site.metadata (same.of_twins st).document.symm)

/-- Sites that show the same are alike. -/
theorem page_alike : Site.page.Alike (twins page copy) Site.page where
  url := url_alike same
  queryAll l st scopes := query_alike same l st scopes
  text st xy := read_alike same (fun _ _ e => e.text) st xy
  innerHtml st xy := read_alike same (fun _ _ e => e.innerMarkup) st xy
  attributeOf name st xy := read_alike same (fun _ _ e => e.attribute? name) st xy
  inputValue st xy := read_alike same Document.controlValue st xy
  isChecked st xy := read_alike same (fun _ _ e => e.isOn) st xy
  metadata := metadata_alike same
  screenshot st := .throw st _

end Twins

end Site

end PageHarvest
