import Mathlib.Algebra.Group.Nat.Defs
import Mathlib.Data.List.Nodup
import Mathlib.Data.List.Perm.Subperm
import PageHarvest.Proofs.Page.Clicking

/-!
# What a site can be asked for

The operations on a site, and all that each of them can do: fail and change nothing that counts,
load a document, or register the elements that it gives handles for (`Operation.step`).

* `Orderly`: the registry lists elements of the document, each of them once;
* `runIn_of_stale`: nothing comes of an operation on the element of a handle of an earlier load.
-/

namespace PageHarvest

open Html

namespace Site

/-! ## Operations -/

/-- What can be read of an element. -/
inductive Reading
  | text
  | innerHtml
  | attributeOf (name : String)
  | inputValue
  | isChecked
  | tagName

namespace Reading

def Value : Reading → Type
  | text | innerHtml | inputValue | tagName => String
  | attributeOf _ => Option String
  | isChecked => Bool

def act : (r : Reading) → Handle → Act Site r.Value
  | text, h => Site.page.text h
  | innerHtml, h => Site.page.innerHtml h
  | attributeOf name, h => Site.page.attributeOf h name
  | inputValue, h => Site.page.inputValue h
  | isChecked, h => Site.page.isChecked h
  | tagName, h => Site.page.tagName h

/-- A reading looks at the element and at what stands around it, and at nothing else. -/
theorem exists_read (r : Reading) :
    ∃ value : Document → Place → Element → r.Value, r.act = read value := by
  cases r with
  | text => exact ⟨fun _ _ e => e.text, rfl⟩
  | innerHtml => exact ⟨fun _ _ e => e.innerMarkup, rfl⟩
  | attributeOf name => exact ⟨fun _ _ e => e.attribute? name, rfl⟩
  | inputValue => exact ⟨Document.controlValue, rfl⟩
  | isChecked => exact ⟨fun _ _ e => e.isOn, rfl⟩
  | tagName => exact ⟨fun _ _ e => Text.asciiLower e.name, rfl⟩

end Reading

/-- What a site can be asked for. -/
inductive Operation
  | url
  | queryAll (scope : Option Handle) (locator : Locator)
  | query (scope : Option Handle) (locator : Locator)
  | read (reading : Reading) (element : Handle)
  | metadata
  | screenshot
  | click (element : Handle)
  | navigate (target : String)
  | addPage (url source : String)
  | waitForIdle
  | wait (time : Nat)

/-- A locator that can be searched for, with or without matches. -/
def IsValid (l : Locator) : Prop :=
  ∃ text isForAll selector, selectorText l = .ok (text, isForAll) ∧
    Css.Selector.read? text = some selector

namespace Operation

def Answer : Operation → Type
  | url => String
  | queryAll .. => List Handle
  | query .. => Option Handle
  | read r _ => r.Value
  | metadata => Metadata
  | screenshot => List UInt8
  | click _ | navigate _ | addPage .. | waitForIdle | wait _ => Unit

def act : (o : Operation) → Act Site o.Answer
  | url => Site.page.url
  | queryAll scope l => Site.page.queryAll scope l
  | query scope l => Site.page.query scope l
  | read r h => r.act h
  | metadata => Site.page.metadata
  | screenshot => Site.page.screenshot
  | click h => Site.page.click h
  | navigate target => Site.navigate target
  | addPage u source => Site.addPage u source
  | waitForIdle => Site.page.waitForIdle
  | wait n => Site.page.wait n

/-- Whether the operation loads a document if it succeeds. -/
def isNavigation : Operation → Bool
  | click _ | navigate _ => true
  | _ => false

/-- The handles in an answer. -/
def handles : (o : Operation) → o.Answer → List Handle
  | queryAll .., hs => hs
  | query .., h => h.toList
  | _, _ => []

/-- The places of the elements that the operation is to give handles for. -/
def found (s : Site) : Operation → List Place
  | queryAll scope l => (s.findPlaces scope l).toOption.getD []
  | query scope l => ((s.findPlaces scope l).toOption.getD []).take 1
  | _ => []

/-- Whether the operation cannot do without the element of a handle. -/
def Needs (h : Handle) : Operation → Prop
  | read _ x | click x => x = h
  | queryAll (some x) l | query (some x) l => x = h ∧ IsValid l
  | _ => False

end Operation

/-! ## What an operation can do -/

/-- The registry lists elements of the document, each of them once. -/
structure Orderly (s : Site) : Prop where
  nodup : s.registered.Nodup
  listed : ∀ p ∈ s.registered, p ∈ s.document.places

/-- The second site shows the same load of the same document, with more elements registered. -/
structure Grows (s t : Site) : Prop where
  url : t.url = s.url
  document : t.document = s.document
  generation : t.generation = s.generation
  registered : s.registered <+: t.registered

/-- The second site shows the same load of the same document with the same registry. -/
structure Undisturbed (s t : Site) : Prop where
  url : t.url = s.url
  document : t.document = s.document
  generation : t.generation = s.generation
  registered : t.registered = s.registered

theorem Undisturbed.refl (s : Site) : s.Undisturbed s := ⟨rfl, rfl, rfl, rfl⟩

/-- The second site has just loaded a document. -/
structure Loads (s t : Site) : Prop where
  generation : t.generation = (s.generation + 1) % 2 ^ 32
  registered : t.registered = []

variable {s t : Site} {p q : Place} {h : Handle}

theorem Undisturbed.orderly (same : s.Undisturbed t) (orderly : s.Orderly) : t.Orderly := by
  constructor
  · rw [same.registered]
    exact orderly.nodup
  · rw [same.registered, same.document]
    exact orderly.listed

theorem Undisturbed.placeOf (same : s.Undisturbed t) (h : Handle) : t.placeOf h = s.placeOf h := by
  rw [Site.placeOf, Site.placeOf, same.generation, same.registered]

theorem Extends.grows (h : s.Extends t) : s.Grows t :=
  ⟨h.url, h.document, h.generation, h.registered⟩

theorem Grows.placeOf (grows : s.Grows t) (known : s.placeOf h = .ok p) : t.placeOf h = .ok p := by
  obtain ⟨current, hp⟩ := placeOf_eq_ok.1 known
  obtain ⟨lt, rfl⟩ := List.getElem?_eq_some_iff.1 hp
  exact placeOf_eq_ok.2 ⟨current.trans grows.generation.symm,
    List.prefix_iff_getElem?.1 grows.registered _ lt⟩

theorem Orderly.mem_places (orderly : s.Orderly) (known : s.placeOf h = .ok p) :
    p ∈ s.document.places :=
  orderly.listed p (List.mem_of_getElem? (placeOf_eq_ok.1 known).2)

theorem Orderly.element (orderly : s.Orderly) (known : s.placeOf h = .ok p) :
    ∃ e, s.document.element? p = some e ∧ s.element h = .ok (p, e) := by
  obtain ⟨e, he⟩ := Document.element?_of_mem_places (orderly.mem_places known)
  exact ⟨e, he, element_eq_ok.2 ⟨known, he⟩⟩

/-- Two handles of the current load stand for one element only if they have one number. -/
theorem Orderly.index_eq_iff (orderly : s.Orderly) {h' : Handle} (hp : s.placeOf h = .ok p)
    (hq : s.placeOf h' = .ok q) : h.index = h'.index ↔ p = q := by
  have hp := (placeOf_eq_ok.1 hp).2
  have hq := (placeOf_eq_ok.1 hq).2
  constructor
  · intro same
    rw [same, hq] at hp
    exact (Option.some.inj hp).symm
  · rintro rfl
    obtain ⟨lt, _⟩ := List.getElem?_eq_some_iff.1 hp
    exact (List.getElem?_inj lt orderly.nodup).1 (hp.trans hq.symm)

theorem Orderly.length_le (orderly : s.Orderly) :
    s.registered.length ≤ s.document.places.length :=
  (List.subperm_of_subset orderly.nodup orderly.listed).length_le

theorem Orderly.register (orderly : s.Orderly) (hp : p ∈ s.document.places) :
    (s.register p).2.Orderly := by
  unfold Site.register
  split
  · exact orderly
  · rename_i new
    have new : p ∉ s.registered := List.idxOf?_eq_none_iff.1 new
    refine ⟨List.nodup_append.2 ⟨orderly.nodup, List.nodup_singleton p, ?_⟩, ?_⟩
    · rintro q hq _ hp rfl
      exact new (List.mem_singleton.1 hp ▸ hq)
    · intro q hq
      rcases List.mem_append.1 hq with hq | hq
      · exact orderly.listed q hq
      · exact List.mem_singleton.1 hq ▸ hp

theorem Orderly.registerAll {ps : List Place} (orderly : s.Orderly)
    (hps : ∀ p ∈ ps, p ∈ s.document.places) : ((Site.registerAll ps).run s).2.Orderly := by
  induction ps generalizing s with
  | nil => exact orderly
  | cons p ps ih =>
    have further : ((Site.registerAll (p :: ps)).run s).2 =
        ((Site.registerAll ps).run (s.register p).2).2 := rfl
    rw [further]
    refine ih (orderly.register (hps p List.mem_cons_self)) fun q hq => ?_
    rw [(register_extends s p).document]
    exact hps q (List.mem_cons_of_mem p hq)

/-- What a query finds is in the document, also below an element that was cut out of the tree. -/
theorem Orderly.mem_places_of_findPlaces (orderly : s.Orderly) {scope : Option Handle} {l : Locator}
    {places : List Place} (found : s.findPlaces scope l = .ok places) :
    ∀ p ∈ places, p ∈ s.document.places := by
  intro p hp
  obtain ⟨selector, rfl | ⟨h, q, known, rfl⟩⟩ := findPlaces_eq_ok found
  · exact (List.mem_filter.1 hp).1
  · obtain ⟨e, he, _⟩ := orderly.element known
    exact Document.mem_places_of_mem_placesBelow he (List.mem_filter.1 hp).1

/-- A search below an element needs the element. -/
theorem IsValid.findPlaces_of_lost {l : Locator} (valid : IsValid l) {f : Fault}
    (lost : s.placeOf h = .error f) : s.findPlaces (some h) l = .error f := by
  obtain ⟨text, isForAll, selector, htext, hselector⟩ := valid
  rw [findPlaces_eq htext hselector]
  dsimp only
  rw [lost]
  rfl

namespace Operation

/-- All that an operation can do: fail and change nothing that counts, load a document, or register
what it gives handles for. -/
inductive Step (o : Operation) (s : Site) : Except Fault o.Answer × Site → Prop
  | fails {f : Fault} {t : Site} : s.Undisturbed t → Step o s (.error f, t)
  | loads {answer : o.Answer} {t : Site} : o.isNavigation = true → o.handles answer = [] →
      s.Loads t → Step o s (.ok answer, t)
  | stays {answer : o.Answer} {t : Site} : o.isNavigation = false → s.Grows t → t.Orderly →
      List.Forall₂ (fun h p => t.placeOf h = .ok p) (o.handles answer) (o.found s) →
      Step o s (.ok answer, t)

variable {s : Site} {f : Fault}

/-- A reading fails or answers, and leaves the site as it is. -/
theorem step_read (r : Reading) (h : Handle) (orderly : s.Orderly) :
    (read r h).Step s ((read r h).act.runIn s) := by
  obtain ⟨value, reads⟩ := r.exists_read
  have run : (read r h).act.runIn s =
      ((s.element h).map fun x => value s.document x.1 x.2, s) := by
    show (r.act h).runIn s = _
    rw [reads, read_runIn]
  rw [run]
  cases s.element h with
  | error f => exact .fails (.refl s)
  | ok x => exact .stays rfl (Extends.refl s).grows orderly .nil

theorem undisturbed_of_query {scope : Option Handle} {l : Locator}
    (lost : s.findPlaces scope l = .error f) :
    ∃ t, (Site.query scope l).runIn s = (.error f, t) ∧ s.Undisturbed t := by
  rw [query_runIn, lost]
  cases f with
  | brokenXPath path => exact ⟨_, rfl, rfl, rfl, rfl, rfl⟩
  | _ => exact ⟨_, rfl, .refl s⟩

theorem step_queryAll (scope : Option Handle) (l : Locator) (orderly : s.Orderly) :
    (queryAll scope l).Step s ((queryAll scope l).act.runIn s) := by
  show (queryAll scope l).Step s ((Site.query scope l).runIn s)
  cases found : s.findPlaces scope l with
  | error f =>
    obtain ⟨t, failed, same⟩ := undisturbed_of_query found
    rw [failed]
    exact .fails same
  | ok places =>
    obtain ⟨extended, known⟩ := registerAll_run s places
    rw [query_runIn_ok found]
    refine .stays rfl extended.grows
      (orderly.registerAll (orderly.mem_places_of_findPlaces found)) ?_
    rw [Operation.found, found]
    exact known

theorem step_query (scope : Option Handle) (l : Locator) (orderly : s.Orderly) :
    (query scope l).Step s ((query scope l).act.runIn s) := by
  show (query scope l).Step s ((Site.page.query scope l).runIn s)
  unfold Page.query
  cases found : s.findPlaces scope l with
  | error f =>
    obtain ⟨t, failed, same⟩ := undisturbed_of_query found
    have all : (Site.page.queryAll scope l).runIn s = (.error f, t) := failed
    rw [Act.runIn_bind_error all]
    exact .fails same
  | ok places =>
    obtain ⟨extended, known⟩ := registerAll_run s places
    have all : (Site.page.queryAll scope l).runIn s = _ := query_runIn_ok found
    rw [Act.runIn_bind_ok all]
    refine .stays rfl extended.grows
      (orderly.registerAll (orderly.mem_places_of_findPlaces found)) ?_
    rw [Operation.found, found]
    -- the answer is the first of all handles, for the first of all places
    generalize ((Site.registerAll places).run s).1 = handles at known
    cases known with
    | nil => exact .nil
    | cons first _ => exact .cons first .nil

theorem step_navigate (target : String) (s : Site) :
    (navigate target).Step s ((navigate target).act.runIn s) := by
  show (navigate target).Step s ((Site.navigate target).runIn s)
  rcases navigate_runIn target s with ⟨f, failed⟩ | ⟨u, source, _, _, went⟩
  · rw [failed]
    exact .fails (.refl s)
  · rw [went]
    exact .loads rfl rfl ⟨rfl, rfl⟩

theorem step_addPage (u source : String) (orderly : s.Orderly) :
    (addPage u source).Step s ((addPage u source).act.runIn s) := by
  show (addPage u source).Step s ((Site.addPage u source).runIn s)
  unfold Site.addPage
  rw [Act.runIn_bind_ok (Act.runIn_get s)]
  cases addSource s.sources (u, source) with
  | error f => exact .fails (.refl s)
  | ok sources =>
    exact .stays rfl ⟨rfl, rfl, rfl, List.prefix_refl _⟩ ⟨orderly.nodup, orderly.listed⟩ .nil

theorem step_click (h : Handle) (s : Site) : (click h).Step s ((click h).act.runIn s) := by
  show (click h).Step s ((Site.click h).runIn s)
  rw [click_run]
  cases s.element h with
  | error f => exact .fails (.refl s)
  | ok x =>
    dsimp only
    split
    · exact .fails (.refl s)
    · rcases navigate_runIn (Text.trim ((x.2.attribute? "href").getD "")) s with
        ⟨f, failed⟩ | ⟨u, source, _, _, went⟩
      · rw [failed]
        exact .fails (.refl s)
      · rw [went]
        exact .loads rfl rfl ⟨rfl, rfl⟩

theorem step (o : Operation) (orderly : s.Orderly) : o.Step s (o.act.runIn s) := by
  have same : s.Grows s := (Extends.refl s).grows
  cases o with
  | url => exact .stays rfl same orderly .nil
  | queryAll scope l => exact step_queryAll scope l orderly
  | query scope l => exact step_query scope l orderly
  | read r h => exact step_read r h orderly
  | metadata => exact .stays rfl same orderly .nil
  | screenshot => exact .fails (.refl s)
  | click h => exact step_click h s
  | navigate target => exact step_navigate target s
  | addPage u source => exact step_addPage u source orderly
  | waitForIdle => exact .stays rfl same orderly .nil
  | wait n =>
    exact .stays rfl ⟨rfl, rfl, rfl, List.prefix_refl _⟩ ⟨orderly.nodup, orderly.listed⟩ .nil

/-- The fault of a handle of an earlier load. -/
def staleFault : Fault := .page "Stale element handle: the page has navigated"

/-- Without the handle's load nothing comes of an operation that needs its element. -/
theorem runIn_of_stale {o : Operation} {h : Handle} (stale : h.generation ≠ s.generation)
    (needs : o.Needs h) : o.act.runIn s = (.error staleFault, s) := by
  have lost : s.placeOf h = .error staleFault := if_pos stale
  have unread : s.element h = .error staleFault := by
    rw [Site.element, lost]
    rfl
  cases o with
  | read r x =>
    obtain rfl : x = h := needs
    obtain ⟨value, reads⟩ := r.exists_read
    show (r.act x).runIn s = _
    rw [reads, read_runIn, unread]
    rfl
  | click x =>
    obtain rfl : x = h := needs
    show (Site.click x).runIn s = _
    rw [click_run, unread]
    rfl
  | queryAll scope l =>
    cases scope with
    | none => cases needs
    | some x =>
      obtain ⟨rfl, valid⟩ : x = h ∧ IsValid l := needs
      show (Site.query (some x) l).runIn s = _
      rw [query_runIn, valid.findPlaces_of_lost lost]
      rfl
  | query scope l =>
    cases scope with
    | none => cases needs
    | some x =>
      obtain ⟨rfl, valid⟩ : x = h ∧ IsValid l := needs
      have all : (Site.page.queryAll (some x) l).runIn s = (.error staleFault, s) := by
        show (Site.query (some x) l).runIn s = _
        rw [query_runIn, valid.findPlaces_of_lost lost]
        rfl
      show (Site.page.query (some x) l).runIn s = _
      unfold Page.query
      rw [Act.runIn_bind_error all]
      rfl
  | _ => cases needs

end Operation

end Site

end PageHarvest
