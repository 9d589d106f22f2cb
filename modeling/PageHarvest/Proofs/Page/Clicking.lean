import PageHarvest.Proofs.Page.Registry
import PageHarvest.Proofs.Page.Tracing

/-!
# Clicking through a site

What it takes for the advancer that clicks to move a site on, and what it leaves behind otherwise.

* `Site.Follows`: a site before and after the link to the next page was followed;
* `clickNext_follows`: moving on is following the link, and a call that does not move on changes
  nothing but the registry;
* `clickNext_clicks`: a call clicks once at most;
* `clickNext_traced`: as it does on a page that takes no notes.
-/

namespace PageHarvest

open Html

/-- No mark that puts an element out of use. -/
structure Html.Element.IsEnabled (e : Element) : Prop where
  disabled : e.attribute? "disabled" = none
  ariaDisabled : e.attribute? "aria-disabled" ≠ some "true"
  classes : "disabled" ∉ Text.words ((e.attribute? "class").getD "")

namespace Site

/-- The first element of the document that a locator matches. -/
def firstMatch? (s : Site) (l : Locator) : Option Element := do
  let places ← (s.findPlaces none l).toOption
  s.document.element? (← places.head?)

/-- The first match of the selector for the next page. -/
def nextElement? (policy : Pagination) (s : Site) : Option Element := do
  let selector ← Rule.nonBlank? policy.nextSelector
  s.firstMatch? (.css selector)

/-- The second site is the first one after it followed the link of an element. -/
structure LinksTo (s : Site) (e : Element) (t : Site) : Prop where
  url : s.url.join (Text.trim ((e.attribute? "href").getD "")) = .ok t.url
  document : ∃ source, s.sources.get? (key t.url) = some source ∧ t.document = .parse source
  sources : t.sources = s.sources

/-- The second site is the first one after it went on to the next page. -/
def Follows (policy : Pagination) (s t : Site) : Prop :=
  ∃ e, s.nextElement? policy = some e ∧ e.IsEnabled ∧ s.LinksTo e t

variable {s t : Site} {h : Handle} {q : Place} {e : Element}

/-! ## Finding the link -/

theorem firstMatch?_eq_some {l : Locator} {places : List Place}
    (found : s.findPlaces none l = .ok places) (first : places.head? = some q)
    (known : s.document.element? q = some e) : s.firstMatch? l = some e := by
  rw [firstMatch?, found]
  show places.head?.bind s.document.element? = _
  rw [first]
  exact known

/-- A query registers what it finds, and finds the first match if there is one. -/
theorem query_first {l : Locator} {found : Except Fault (Option Handle)}
    (run : (Site.page.query none l).runIn s = (found, t)) :
    s.Extends t ∧ ∀ h, found = .ok (some h) →
      ∃ q e, s.firstMatch? l = some e ∧ t.element h = .ok (q, e) := by
  unfold Page.query at run
  cases matched : s.findPlaces none l with
  | error f =>
    obtain ⟨s', failed, extended⟩ := query_runIn_error matched
    have all : (Site.page.queryAll none l).runIn s = (.error f, s') := failed
    rw [Act.runIn_bind_error all] at run
    cases run
    exact ⟨extended, nofun⟩
  | ok places =>
    have all : (Site.page.queryAll none l).runIn s = _ := query_runIn_ok matched
    obtain ⟨extended, known⟩ := registerAll_run s places
    generalize (registerAll places).run s = registered at all extended known
    obtain ⟨handles, s'⟩ := registered
    rw [Act.runIn_bind_ok all] at run
    cases run
    refine ⟨extended, fun h first => ?_⟩
    cases known with
    | nil => cases first
    | @cons x q _ _ hq rest =>
      cases first
      obtain ⟨e, he⟩ := element?_of_findPlaces matched q List.mem_cons_self
      refine ⟨q, e, firstMatch?_eq_some matched rfl he, element_eq_ok.2 ⟨hq, ?_⟩⟩
      rw [extended.document, he]

/-! ## The marks -/

theorem attributeOf_runIn (known : s.element h = .ok (q, e)) (name : String) :
    (Site.page.attributeOf h name).runIn s = (.ok (e.attribute? name), s) := by
  show (read (fun _ _ e => e.attribute? name) h).runIn s = _
  rw [read_runIn, known]
  rfl

theorem isDisabled_runIn (known : s.element h = .ok (q, e)) :
    ∃ marked, (Site.page.isDisabled h).runIn s = (.ok marked, s) ∧
      (marked = false → e.IsEnabled) := by
  unfold Page.isDisabled
  rw [Act.runIn_bind_ok (attributeOf_runIn known _)]
  by_cases disabled : (e.attribute? "disabled").isSome = true
  · rw [if_pos disabled]
    exact ⟨true, rfl, nofun⟩
  rw [if_neg disabled, Act.runIn_bind_ok (attributeOf_runIn known _)]
  by_cases ariaDisabled : e.attribute? "aria-disabled" = some "true"
  · rw [if_pos ariaDisabled]
    exact ⟨true, rfl, nofun⟩
  rw [if_neg ariaDisabled, Act.runIn_bind_ok (attributeOf_runIn known _)]
  refine ⟨_, rfl, fun unmarked => ⟨?_, ariaDisabled, ?_⟩⟩
  · simpa using disabled
  · simpa using unmarked

/-! ## Following the link -/

/-- A site that cannot go to a URL stays where it is. -/
theorem navigate_runIn (target : String) (s : Site) :
    (∃ f, (navigate target).runIn s = (.error f, s)) ∨
      ∃ u source, s.url.join target = .ok u ∧ s.sources.get? (key u) = some source ∧
        (navigate target).runIn s = (.ok (), { s with
          url := u
          document := .parse source
          registered := []
          generation := (s.generation + 1) % Nat.pow 2 32 }) := by
  unfold navigate
  rw [Act.runIn_bind_ok (Act.runIn_get s)]
  cases joined : s.url.join target with
  | error problem => exact .inl ⟨_, rfl⟩
  | ok u =>
    dsimp only
    unfold load?
    cases known : s.sources.get? (key u) with
    | none => exact .inl ⟨_, rfl⟩
    | some source => exact .inr ⟨u, source, rfl, known, rfl⟩

/-- A click on an element goes where the element links to, if it links to another document. -/
theorem click_run (h : Handle) (s : Site) :
    (click h).runIn s =
      match s.element h with
      | .error f => (.error f, s)
      | .ok (_, e) =>
        let href := Text.trim ((e.attribute? "href").getD "")
        if href = "" || Text.startsWith href "#" then
          (.error (.navigation "Clicked element does not link to another document"), s)
        else (navigate href).runIn s := by
  unfold click
  rw [Act.runIn_bind, read_runIn]
  cases s.element h with
  | error f => rfl
  | ok x =>
    dsimp only [Except.map]
    split <;> rfl

theorem click_runIn (known : s.element h = .ok (q, e)) :
    (∃ f, (click h).runIn s = (.error f, s)) ∨
      ∃ t, (click h).runIn s = (.ok (), t) ∧ s.LinksTo e t := by
  rw [click_run, known]
  dsimp only
  split
  · exact .inl ⟨_, rfl⟩
  · rcases navigate_runIn (Text.trim ((e.attribute? "href").getD "")) s with
      ⟨f, failed⟩ | ⟨u, source, joined, known, went⟩
    · exact .inl ⟨f, failed⟩
    · exact .inr ⟨_, went, joined, ⟨source, known, rfl⟩, rfl⟩

/-! ## Calls of the advancer -/

theorem Extends.linksTo {u : Site} (h : s.Extends t) (links : t.LinksTo e u) : s.LinksTo e u :=
  ⟨h.url ▸ links.url, h.sources ▸ links.document, links.sources.trans h.sources⟩

theorem Extends.nextElement? (h : s.Extends t) (policy : Pagination) :
    t.nextElement? policy = s.nextElement? policy := by
  have same (l : Locator) : s.findPlaces none l = t.findPlaces none l :=
    findPlaces_congr h.document .none l
  unfold Site.nextElement? firstMatch?
  simp only [same, h.document]

theorem Extends.follows {u : Site} {policy : Pagination} (h : s.Extends t)
    (follows : t.Follows policy u) : s.Follows policy u := by
  obtain ⟨e, next, enabled, links⟩ := follows
  exact ⟨e, h.nextElement? policy ▸ next, enabled, h.linksTo links⟩

/-- A call either moves the site on to the next page or leaves it as it was, but for its
registry. -/
theorem clickNext_runIn (wait : Nat) (policy : Pagination) (s : Site) :
    (∃ t, (Site.page.clickNext wait policy).runIn s = (.ok true, t) ∧ s.Follows policy t) ∨
      ∃ answer t, (Site.page.clickNext wait policy).runIn s = (answer, t) ∧ answer ≠ .ok true ∧
        s.Extends t := by
  unfold Page.clickNext
  -- the call ends early where it has read only, and a click that fails leaves the site as it is
  cases next : Rule.nonBlank? policy.nextSelector with
  | none => exact .inr ⟨_, s, rfl, nofun, .refl s⟩
  | some selector =>
    dsimp only
    rcases asked : (Site.page.query none (.css selector)).runIn s with ⟨f | _ | h, s'⟩
    · rw [Act.runIn_bind_error asked]
      exact .inr ⟨_, s', rfl, nofun, (query_first asked).1⟩
    · rw [Act.runIn_bind_ok asked]
      exact .inr ⟨_, s', rfl, nofun, (query_first asked).1⟩
    · obtain ⟨extended, found⟩ := query_first asked
      obtain ⟨q, e, first, known⟩ := found h rfl
      obtain ⟨marked, looked, enabled⟩ := isDisabled_runIn known
      rw [Act.runIn_bind_ok asked]
      dsimp only
      rw [Act.runIn_bind_ok looked]
      cases marked with
      | true => exact .inr ⟨_, s', rfl, nofun, extended⟩
      | false =>
        rw [if_neg Bool.false_ne_true]
        rcases click_runIn known with ⟨f, failed⟩ | ⟨t, clicked, links⟩
        · have failed' : (Site.page.click h).runIn s' = (.error f, s') := failed
          rw [Act.runIn_bind_error failed']
          exact .inr ⟨_, s', rfl, nofun, extended⟩
        · have clicked' : (Site.page.click h).runIn s' = (.ok (), t) := clicked
          have idle : Site.page.waitForIdle.runIn t = (.ok (), t) := rfl
          have matched : s.nextElement? policy = some e := by
            rw [nextElement?, next]
            exact first
          rw [Act.runIn_bind_ok clicked', Act.runIn_bind_ok idle]
          left
          -- nothing fails after the click, so what was loaded is never left unreported
          by_cases waits : policy.waitBetweenPages.getD wait ≠ 0
          · rw [if_pos waits]
            have linksTo := extended.linksTo links
            exact ⟨_, rfl, e, matched, enabled rfl, linksTo.url, linksTo.document, linksTo.sources⟩
          · rw [if_neg waits]
            exact ⟨t, rfl, e, matched, enabled rfl, extended.linksTo links⟩

end Site

/-! ## How often a call clicks -/

namespace Traced

variable {σ : Type}

/-- How often an element was clicked. -/
def clicks (s : Traced σ) : Nat := s.events.countP Event.isClick

end Traced

namespace Act

variable {σ α β : Type} {n m : Nat}

/-- The action clicks so often at most. -/
def Clicks (n : Nat) (a : Act (Traced σ) α) : Prop :=
  ∀ s, (a.runIn s).2.clicks ≤ s.clicks + n

namespace Clicks

theorem pure (x : α) : Clicks n (Pure.pure x : Act (Traced σ) α) := fun _ => Nat.le_add_right _ n

theorem bind {a : Act (Traced σ) α} {k : α → Act (Traced σ) β} (first : Clicks n a)
    (second : ∀ x, Clicks m (k x)) : Clicks (n + m) (a >>= k) := by
  intro s
  have before := first s
  rw [runIn_bind]
  rcases ran : a.runIn s with ⟨f | x, s'⟩
  · rw [ran] at before
    exact Nat.le_trans before (Nat.add_le_add_left (Nat.le_add_right n m) _)
  · rw [ran] at before
    calc ((k x).runIn s').2.clicks ≤ s'.clicks + m := second x s'
      _ ≤ s.clicks + n + m := Nat.add_le_add_right before m
      _ = s.clicks + (n + m) := Nat.add_assoc _ _ _

theorem ofClick (a : Act σ α) (event : Except Fault α → Event) : Clicks 1 (a.traced event) := by
  intro s
  rw [traced_runIn, Traced.clicks, List.countP_append]
  exact Nat.add_le_add_left List.countP_le_length _

theorem ofOther (a : Act σ α) {event : Except Fault α → Event}
    (other : ∀ answer, (event answer).isClick = false) : Clicks 0 (a.traced event) := by
  intro s
  rw [traced_runIn, Traced.clicks, List.countP_append, List.countP_singleton, other]
  exact Nat.le_refl _

end Clicks

end Act

namespace Page

variable {σ : Type} (p : Page σ)

theorem query_clicks (scope : Option Handle) (l : Locator) :
    Act.Clicks 0 (p.traced.query scope l) :=
  Act.Clicks.bind (m := 0) (.ofOther _ fun _ => rfl) fun _ => .pure _

theorem attributeOf_clicks (h : Handle) (name : String) :
    Act.Clicks 0 (p.traced.attributeOf h name) :=
  .ofOther _ fun _ => rfl

theorem isDisabled_clicks (h : Handle) : Act.Clicks 0 (p.traced.isDisabled h) := by
  unfold isDisabled
  refine Act.Clicks.bind (n := 0) (m := 0) (p.attributeOf_clicks h _) fun disabled => ?_
  split
  · exact .pure _
  refine Act.Clicks.bind (n := 0) (m := 0) (p.attributeOf_clicks h _) fun ariaDisabled => ?_
  split
  · exact .pure _
  exact Act.Clicks.bind (n := 0) (m := 0) (p.attributeOf_clicks h _) fun _ => .pure _

theorem clickNext_clicks (wait : Nat) (policy : Pagination) :
    Act.Clicks 1 (p.traced.clickNext wait policy) := by
  unfold clickNext
  split
  · exact .pure _
  refine Act.Clicks.bind (n := 0) (m := 1) (p.query_clicks none _) fun found => ?_
  split
  · exact .pure _
  refine Act.Clicks.bind (n := 0) (m := 1) (p.isDisabled_clicks _) fun marked => ?_
  split
  · exact .pure _
  refine Act.Clicks.bind (n := 1) (m := 0) (.ofClick _ _) fun _ => ?_
  refine Act.Clicks.bind (n := 0) (m := 0) (.ofOther _ fun _ => rfl) fun _ => ?_
  dsimp only
  split
  · exact Act.Clicks.bind (n := 0) (m := 0) (.ofOther _ fun _ => rfl) fun _ => .pure _
  · exact .pure _

/-! ## Without the notes -/

section

variable {s : Traced σ} {t : σ} (st : (Likeness.withNotes σ).states s t)

include st

theorem query_traced (scope : Option Handle) (l : Locator) :
    Act.Alike (.withNotes σ) Same (p.traced.query scope l) (p.query scope l) s t :=
  (Act.traced_alike _ _ st).mapSame List.head?

theorem isDisabled_traced (h : Handle) :
    Act.Alike (.withNotes σ) Same (p.traced.isDisabled h) (p.isDisabled h) s t := by
  unfold isDisabled
  refine (Act.traced_alike _ _ st).bindSame fun disabled s t later => ?_
  split
  · exact .pure later.states rfl
  refine (Act.traced_alike _ _ later.states).bindSame fun ariaDisabled s t later => ?_
  split
  · exact .pure later.states rfl
  exact (Act.traced_alike _ _ later.states).mapSame _

/-- A call comes to what it comes to without the notes. -/
theorem clickNext_traced (wait : Nat) (policy : Pagination) :
    Act.Alike (.withNotes σ) Same (p.traced.clickNext wait policy) (p.clickNext wait policy) s
      t := by
  unfold clickNext
  split
  · exact .pure st rfl
  refine (p.query_traced st _ _).bindSame fun found s t later => ?_
  split
  · exact .pure later.states rfl
  refine (p.isDisabled_traced later.states _).bindSame fun marked s t later => ?_
  split
  · exact .pure later.states rfl
  refine (Act.traced_alike _ _ later.states).bindSame fun _ s t later => ?_
  refine (Act.traced_alike _ _ later.states).bindSame fun _ s t later => ?_
  dsimp only
  split
  · exact (Act.traced_alike _ _ later.states).mapSame fun _ => true
  · exact .pure later.states rfl

end

theorem clickNext_traced_runIn (wait : Nat) (policy : Pagination) (s : Traced σ) :
    (p.clickNext wait policy).runIn s.state =
      (((p.traced.clickNext wait policy).runIn s).1,
        ((p.traced.clickNext wait policy).runIn s).2.state) := by
  obtain ⟨answer, noted, after, hnoted, plain, later⟩ :=
    (p.clickNext_traced (s := s) rfl wait policy).exists_runs
  obtain rfl : noted.state = after := later.states
  rw [hnoted, plain]

end Page

end PageHarvest
