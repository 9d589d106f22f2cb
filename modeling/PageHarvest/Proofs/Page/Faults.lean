import PageHarvest.Proofs.Extraction.Failing
import PageHarvest.Proofs.Page.Registry

/-!
# What a site fails with

A query fails for two reasons. Its locator is refused, whatever the site shows: an XPath that is no
path, or a selector that cannot be read, be it given or written for a path. Or the element that it
is to search in is not there. All else that is asked of a site fails with missing elements only, and
it takes no pictures.
-/

namespace PageHarvest

open Html

/-- The locator is of no use on any site, and this is why. -/
inductive Locator.Refused : Locator → Fault → Prop
  | notPath {l : Locator} {f : Fault} : Site.selectorText l = .error f → l.Refused f
  | unread {l : Locator} {text : String} {isForAll : Bool} :
      Site.selectorText l = .ok (text, isForAll) → Css.Selector.read? text = none →
      l.Refused (.invalidSelector l.text "")

/-- The faults of locators that are refused. -/
theorem Locator.Refused.eq {l : Locator} {f : Fault} (h : l.Refused f) :
    f = .unsupportedXPath l.text ∨ f = .brokenXPath l.text ∨ f = .invalidSelector l.text "" := by
  cases h with
  | unread _ _ => exact .inr (.inr rfl)
  | notPath bad =>
    cases l with
    | css selector => cases bad
    | xpath path =>
      rcases bind_eq_error.1 bad with bad | ⟨_, _, ⟨⟩⟩
      unfold XPath.toCss XPath.readPath at bad
      cases read : XPath.Path.read path with
      | ok p =>
        rw [read] at bad
        cases bad
      | error problem =>
        rw [read] at bad
        cases bad
        cases problem with
        | unsupported => exact .inl rfl
        | cutInsideCharacter => exact .inr (.inl rfl)

/-- A page that refuses the locators that are of no use, and fails otherwise with elements and with
pictures that it does not have. -/
structure Page.Refuses {σ : Type} (p : Page σ) : Prop where
  failsWith {F : Fault → Prop} : (∀ detail, F (.page detail)) →
    (∀ operation, F (.unsupported operation)) → p.FailsWith (fun l => ∀ f, l.Refused f → F f) F
  refuses {l : Locator} {f : Fault} : l.Refused f →
    ∀ scope s, ((p.queryAll scope l).runIn s).1 = .error f

namespace Site

theorem placeOf_eq_error {s : Site} {h : Handle} {f : Fault} (lost : s.placeOf h = .error f) :
    ∃ detail, f = .page detail := by
  unfold placeOf at lost
  split at lost
  · cases lost
    exact ⟨_, rfl⟩
  · split at lost
    · cases lost
    · cases lost
      exact ⟨_, rfl⟩

theorem element_eq_error {s : Site} {h : Handle} {f : Fault} (lost : s.element h = .error f) :
    ∃ detail, f = .page detail := by
  unfold element at lost
  rcases bind_eq_error.1 lost with lost | ⟨p, _, lost⟩
  · exact placeOf_eq_error lost
  · split at lost
    · cases lost
    · cases lost
      exact ⟨_, rfl⟩

/-- A locator that is refused finds nothing in any scope. -/
theorem findPlaces_of_refused {l : Locator} {f : Fault} (refused : l.Refused f) (s : Site)
    (scope : Option Handle) : s.findPlaces scope l = .error f := by
  unfold findPlaces
  cases refused with
  | notPath bad => rw [bad]; rfl
  | unread written unread => simp only [written, bind, Except.bind, unread]; rfl

theorem findPlaces_eq_error {s : Site} {scope : Option Handle} {l : Locator} {f : Fault}
    (lost : s.findPlaces scope l = .error f) : l.Refused f ∨ ∃ detail, f = .page detail := by
  cases written : selectorText l with
  | error f' =>
    rw [findPlaces_of_refused (.notPath written)] at lost
    cases lost
    exact .inl (.notPath written)
  | ok x =>
    obtain ⟨text, isForAll⟩ := x
    cases reads : Css.Selector.read? text with
    | none =>
      rw [findPlaces_of_refused (.unread written reads)] at lost
      cases lost
      exact .inl (.unread written reads)
    | some selector =>
      rw [findPlaces_eq written reads] at lost
      cases scope with
      | none => cases lost
      | some h =>
        refine .inr (placeOf_eq_error (s := s) (h := h) ?_)
        dsimp only at lost
        cases known : s.placeOf h with
        | ok p =>
          rw [known] at lost
          cases lost
        | error f' =>
          rw [known] at lost
          cases lost
          rfl

variable {F : Fault → Prop}

theorem read_failsWith {α : Type} (missing : ∀ detail, F (.page detail))
    (f : Document → Place → Element → α) (h : Handle) : (read f h).FailsWith F := by
  intro s f' failed
  rw [read_runIn] at failed
  cases known : s.element h with
  | ok x =>
    rw [known] at failed
    cases failed
  | error f' =>
    rw [known] at failed
    cases failed
    obtain ⟨detail, rfl⟩ := element_eq_error known
    exact missing detail

theorem query_failsWith {l : Locator} (missing : ∀ detail, F (.page detail))
    (refused : ∀ f, l.Refused f → F f) (scope : Option Handle) : (query scope l).FailsWith F := by
  intro s f failed
  cases found : s.findPlaces scope l with
  | ok places =>
    rw [query_runIn_ok found] at failed
    cases failed
  | error f' =>
    obtain ⟨t, ran, _⟩ := query_runIn_error found
    rw [ran] at failed
    cases failed
    rcases findPlaces_eq_error found with bad | ⟨detail, rfl⟩
    · exact refused f bad
    · exact missing detail

/-- A site refuses the locators that are of no use, in any state, and fails otherwise only with what
it does not have. -/
theorem page_refuses : page.Refuses where
  failsWith missing pictures :=
    { queryAll := fun scope _ allowed => query_failsWith missing allowed scope
      text := read_failsWith missing fun _ _ e => e.text
      innerHtml := read_failsWith missing fun _ _ e => e.innerMarkup
      attributeOf := fun h name => read_failsWith missing (fun _ _ e => e.attribute? name) h
      inputValue := read_failsWith missing Document.controlValue
      isChecked := read_failsWith missing fun _ _ e => e.isOn
      metadata := .bind (fun _ _ => nofun) fun _ => .pure _
      screenshot := .throw (pictures _) }
  refuses refused scope s := by
    obtain ⟨t, ran, _⟩ := query_runIn_error (findPlaces_of_refused refused s scope)
    exact congrArg Prod.fst ran

theorem page_spares : page.Spares := by
  have fails := page_refuses.failsWith (F := fun f => f.blamesRules = false) (fun _ => rfl)
    fun _ => rfl
  refine ⟨fun scope l => fails.queryAll scope l fun f refused => ?_, fails.text, fails.innerHtml,
    fails.attributeOf, fails.inputValue, fails.isChecked, fails.metadata, fails.screenshot⟩
  rcases refused.eq with rfl | rfl | rfl <;> rfl

end Site

end PageHarvest
