import PageHarvest.Proofs.Extraction.Calls
import PageHarvest.Proofs.Extraction.Telling
import PageHarvest.Proofs.Page.Faults
import PageHarvest.Proofs.Page.Session
import PageHarvest.Proofs.XPath.Readable

/-!
# What a page rejects of a schema without warnings

The check of a schema and a page agree on selectors and on attributes: what the check finds nothing
to say of, the page takes. They do not agree on XPaths. The check asks whether an XPath is a path,
and the page reads the selector of the path on top of that. So a page rejects an XPath whose
selector is not read, with an invalid selector for its fault, and nothing else that a check without
warnings lets pass.

* `Rule.Misread`: the fault of such an XPath;
* `Locator.refused_xpath_iff`: which paths are refused;
* `extract_rejects`: all that is rejected in an extraction.
-/

namespace PageHarvest

/-- A fault of what is asked of a page: of a selector, of an XPath, or of an attribute. -/
def Fault.isRejection : Fault → Bool
  | invalidSelector _ _ | unsupportedXPath _ | brokenXPath _ | extraction _ => true
  | _ => false

/-- The fault of a rule whose XPath is a path, but one with a name or a value that selectors do not
have. -/
inductive Rule.Misread (r : Rule) : Fault → Prop
  | mk {xpath : String} {p : XPath.Path} : r.locator? = some (.xpath xpath) →
      XPath.readPath xpath = .ok p → ¬ p.IsReadable → r.Misread (.invalidSelector xpath "")

/-- Nothing is rejected of the rule but an XPath that is misread. -/
abbrev Rule.Allows (r : Rule) (f : Fault) : Prop := f.isRejection = true → r.Misread f

/-- The rule asks a page for elements, and for those of one locator only. -/
structure Rule.AsksOnce (r : Rule) : Prop where
  elements : r.kind ≠ .metadata ∧ r.kind ≠ .screenshot
  noFallback : r.fallback? = none

/-! ## Locators -/

namespace Locator

variable {f : Fault}

theorem not_refused_css {text : String} (h : (Css.Selector.read? text).isSome) :
    ¬ (css text).Refused f := by
  rintro (⟨⟨⟩⟩ | ⟨⟨⟩, unread⟩)
  rw [unread] at h
  cases h

/-- An XPath that is a path is refused if its selector is not read. -/
theorem refused_xpath_iff {x : String} {p : XPath.Path} (read : XPath.readPath x = .ok p) :
    (xpath x).Refused f ↔ ¬ p.IsReadable ∧ f = .invalidSelector x "" := by
  have written : Site.selectorText (xpath x) =
      .ok (p.toCss, !Text.startsWith (Text.trimStart x) ".") := by
    rw [Site.selectorText, XPath.toCss, read]
    rfl
  have named : p.IsNamed := by
    refine XPath.Path.isNamed_of_read (x := x) ?_
    cases h : XPath.Path.read x with
    | ok q =>
      rw [XPath.readPath, h] at read
      rw [Except.ok.inj read]
    | error problem =>
      rw [XPath.readPath, h] at read
      cases read
  have reads := XPath.Path.isSome_read?_toCss named
  constructor
  · rintro (bad | ⟨other, unread⟩)
    · rw [written] at bad
      cases bad
    · rw [written] at other
      cases other
      rw [unread] at reads
      exact ⟨fun readable => absurd (reads.2 readable) (by decide), rfl⟩
  · rintro ⟨bad, rfl⟩
    refine .unread written (Option.not_isSome_iff_eq_none.1 fun some => bad (reads.1 some))

end Locator

/-! ## Rules -/

namespace Rule

variable {r : Rule} {f : Fault}

theorem Misread.refused (h : r.Misread f) : ∃ l, r.locator? = some l ∧ l.Refused f := by
  obtain ⟨locator, read, bad⟩ := h
  exact ⟨_, locator, (Locator.refused_xpath_iff read).2 ⟨bad, rfl⟩⟩

/-- The locator that a rule without warnings reads from is refused only if it is misread. -/
theorem IsClean.misread (clean : r.IsClean) {scope : Option Handle} {l : Locator}
    (target : r.target scope = .ok (.located l)) (refused : l.Refused f) : r.Misread f := by
  cases locator : r.locator? with
  | some l' =>
    have own : r.target scope = .ok (.located l') := by
      rw [Rule.target.eq_def, locator]
      rfl
    rw [own] at target
    cases target
    cases l with
    | css text => exact absurd refused (Locator.not_refused_css (clean.selector text locator))
    | xpath x =>
      obtain ⟨css, ok⟩ := clean.xpath x locator
      rw [XPath.toCss] at ok
      cases read : XPath.readPath x with
      | error g =>
        rw [read] at ok
        cases ok
      | ok p =>
        obtain ⟨bad, rfl⟩ := (Locator.refused_xpath_iff read).1 refused
        exact ⟨locator, read, bad⟩
  | none =>
    -- the kinds that look for the same on every page
    have default : l = .css "a[href]" ∨ l = .css "img" := by
      rw [target_of_lacksLocator (locator?_eq_none.1 locator)] at target
      cases kind : r.kind <;> cases scope <;> rw [kind] at target <;> cases target
      all_goals first | exact .inl rfl | exact .inr rfl
    rcases default with rfl | rfl
    · exact absurd refused (Locator.not_refused_css (by decide +kernel))
    · exact absurd refused (Locator.not_refused_css (by decide +kernel))

end Rule

variable {σ : Type}

namespace Walker

variable {w : Walker σ} {r : Rule} {f : Fault} (page : w.page.Refuses)

include page

/-- What a walk over a rule without warnings meets at its target. -/
theorem blames_of_clean (clean : r.IsClean) :
    w.Blames Rule.Allows r := by
  have fails := page.failsWith (F := r.Allows) (fun _ => nofun)
    fun _ => nofun
  have part {text : String} (h : (Css.Selector.read? text).isSome) (f : Fault)
      (refused : (Locator.css text).Refused f) : r.Allows f :=
    absurd refused (Locator.not_refused_css h)
  have parts : Locator.AllowsParts fun l => ∀ f, l.Refused f → r.Allows f :=
    ⟨part (by decide +kernel), part (by decide +kernel), part (by decide +kernel)⟩
  have adds : r.AddsFaults r.Allows :=
    ⟨fun _ => nofun, nofun, fun kind unnamed => absurd unnamed (clean.named kind)⟩
  have located {scope : Option Handle} {t : Target} (target : r.target scope = .ok t) (l : Locator)
      (here : t = .located l) (f : Fault) (refused : l.Refused f) : r.Allows f := by
    subst here
    exact fun _ => clean.misread target refused
  refine ⟨nofun, fun _ _ _ _ => nofun, ?_, fun scope t target => ?_, fun scope t target => ?_,
    readItems_failsWith fails⟩
  · intro scope f lost
    obtain ⟨_, _, rfl⟩ := Rule.target_eq_error_iff.1 lost
    exact nofun
  · exact readAt_failsWith fails parts adds scope (located target)
  · exact find_failsWith fails scope (located target)

/-- A rule that is misread fails with that. -/
theorem report_of_misread (misread : r.Misread f) (asks : r.AsksOnce) {depth : Nat}
    (shallow : depth ≤ w.settings.maxRuleDepth) (scope : Option Handle) (st : σ) :
    ((w.report r scope depth).runIn st).1.value = .error f := by
  obtain ⟨l, locator, refused⟩ := misread.refused
  have target : r.target scope = .ok (.located l) := by
    rw [Rule.target.eq_def, locator]
    rfl
  have found : ((w.find scope (.located l)).runIn st).1 = .error f := page.refuses refused scope st
  exact report_of_reading_error shallow target asks.noFallback
    (reading_of_find_error asks.elements.1 asks.elements.2 found)

end Walker

namespace Schema

section

variable {p : Page σ} (page : p.Refuses) {s : Schema} {settings : ExtractionSettings} {st : σ}

include page

/-- A rule on top that is misread says so. -/
theorem mem_errorsOf_of_misread {r : Rule} (hr : r ∈ s.rules) (asks : r.AsksOnce)
    (shallow : 1 ≤ settings.maxRuleDepth) (required : r.optional = false) {f : Fault}
    (misread : r.Misread f) :
    ∃ told ∈ ((s.reports settings p).run st).1,
      (ErrorLine.rule r f).text ∈ told.1.errorsOf told.2 := by
  have rules : ((s.reports settings p).run st).1.map Prod.fst = s.rules :=
    Walker.fst_of_reports _ _ _
  obtain ⟨told, ht, rfl⟩ := List.mem_map.1 (rules ▸ hr)
  obtain ⟨_, st', came⟩ := Walker.exists_of_mem_reports ht
  refine ⟨told, ht, Rule.mem_errorsOf.2 ⟨required, .inr ⟨f, ?_, rfl⟩⟩⟩
  rw [came]
  exact Walker.report_of_misread page misread asks shallow none st'

variable {maxDepth : Nat} (clean : s.check maxDepth = .ok [])

include clean

/-- What is told of a rule on top, for the walker of the page in its state. -/
theorem keeps_of_told {told : Rule × Outcome Json}
    (ht : told ∈ ((s.reports settings p).run st).1) :
    told.2.Keeps told.1.Allows (Walker.Tells Rule.Allows told.1) fun c =>
      c.rule ∈ told.1.tree ∧ c.IsWalk ((p.walker settings).run (p.url.runIn st).2).1 ∧
        ∀ f, c.value = .error f → c.rule.Allows f :=
  Walker.reports_tell (fun q hq => Walker.blames_of_clean page (isClean_of_check clean q hq)) ht

theorem allows_of_error {told : Rule × Outcome Json}
    (ht : told ∈ ((s.reports settings p).run st).1) {e : String}
    (he : e ∈ told.1.errorsOf told.2) :
    ∃ line : ErrorLine, e = line.text ∧ line.failed ∈ Rule.trees s.rules ∧
      line.failed.Allows line.fault := by
  obtain ⟨line, shape, leaves, allowed⟩ :=
    Rule.errorsOf_tells (A := Rule.Allows) (keeps_of_told page clean ht) he
  have top := (Walker.exists_of_mem_reports ht).1
  exact ⟨line, shape, Rule.mem_trees.2 ⟨_, top, leaves.failed_mem⟩, allowed⟩

/-- A walk is rejected exactly if its rule is misread, as far as the rule asks for nothing else. -/
theorem allows_of_call {c : Call} (hc : c ∈ s.calls settings p st) :
    c.rule ∈ Rule.trees s.rules ∧ (∀ f, c.value = .error f → c.rule.Allows f) ∧
      (c.rule.AsksOnce → c.depth ≤ settings.maxRuleDepth → ∀ f, c.rule.Misread f →
        c.value = .error f) := by
  obtain ⟨told, ht, hc⟩ := List.mem_flatMap.1 hc
  obtain ⟨below, walk, allowed⟩ := (keeps_of_told page clean ht).calls c hc
  have top := (Walker.exists_of_mem_reports ht).1
  refine ⟨Rule.mem_trees.2 ⟨_, top, below⟩, allowed, fun asks shallow f misread => ?_⟩
  obtain ⟨st', came⟩ := walk.exists_report
  rw [← came]
  exact Walker.report_of_misread page misread asks shallow c.scope st'

end

/-- A schema without warnings has a result on every site, and whatever is rejected in its extraction
is the XPath of a rule, for a path whose selector is not read. That holds of the errors in the
result as of all walks, those that leave no error among them. Each walk over a rule with such an
XPath fails with it, unless there is a fallback, and a rule on top that is not optional leaves the
error in the result. -/
theorem extract_rejects {maxDepth : Nat} {s : Schema} (clean : s.check maxDepth = .ok [])
    (settings : ExtractionSettings) (now : Instant) (pageNumber : Nat) (site : Site) :
    ∃ result after, (s.extract settings Site.page now pageNumber).runIn site = (.ok result, after) ∧
      (∀ e ∈ result.errors, ∃ line : ErrorLine, e = line.text ∧
        line.failed ∈ Rule.trees s.rules ∧
        (line.fault.isRejection = true → line.failed.Misread line.fault)) ∧
      (∀ c ∈ s.calls settings Site.page site, c.rule ∈ Rule.trees s.rules ∧
        (∀ f, f.isRejection = true → c.value = .error f → c.rule.Misread f) ∧
        (c.rule.AsksOnce → c.depth ≤ settings.maxRuleDepth → ∀ f, c.rule.Misread f →
          c.value = .error f)) ∧
      ∀ r ∈ s.rules, r.AsksOnce → 1 ≤ settings.maxRuleDepth → r.optional = false →
        ∀ f, r.Misread f → (ErrorLine.rule r f).text ∈ result.errors := by
  have located : s.rules.find? Rule.isUnlocatable = none :=
    List.find?_eq_none.2 fun r hr => by simp [(rules_of_check clean r hr).2]
  refine ⟨_, _, extract_runIn settings Site.page now s pageNumber located site, fun e he => ?_,
    fun c hc => ?_, fun r hr asks shallow required f misread => ?_⟩
  · obtain ⟨told, ht, he⟩ := List.mem_flatMap.1 he
    exact allows_of_error Site.page_refuses clean ht he
  · obtain ⟨known, allowed, fails⟩ := allows_of_call Site.page_refuses clean hc
    exact ⟨known, fun f rejects failed => allowed f failed rejects, fails⟩
  · exact List.mem_flatMap.2
      (mem_errorsOf_of_misread Site.page_refuses hr asks shallow required misread)

/-- The paragraphs in English, by an attribute of another namespace. -/
def englishParagraphs : Schema where
  id := "s"
  rules := [{ Rule.ofKind "english" .text with xpath := some "//p[@xml:lang='en']" }]

/-- The check has nothing to say of the attribute, but no selector has a colon in a name. -/
theorem extract_rejects_englishParagraphs :
    englishParagraphs.check 5 = .ok [] ∧ ∃ result after,
      (englishParagraphs.extract {} Site.page ⟨0, 0⟩ 1).runIn Site.Session.firstOfTwo =
        (.ok result, after) ∧
      "english: Invalid selector '//p[@xml:lang='en']': " ∈ result.errors := by
  have clean : englishParagraphs.check 5 = .ok [] := by rfl
  obtain ⟨result, after, ran, _, _, rejected⟩ :=
    extract_rejects clean {} ⟨0, 0⟩ 1 Site.Session.firstOfTwo
  refine ⟨clean, result, after, ran, ?_⟩
  have misread : Rule.Misread
      { Rule.ofKind "english" .text with xpath := some "//p[@xml:lang='en']" }
      (.invalidSelector "//p[@xml:lang='en']" "") := by
    refine .mk (p := ⟨.anywhere, ⟨"p", [[.equals "xml:lang" "en"]]⟩, []⟩) (by decide +kernel)
      (by decide +kernel) fun readable => ?_
    have parts := ((readable _ List.mem_cons_self).2 (.equals "xml:lang" "en") (by decide)).1
    have colon := (parts "xml:lang" rfl).parts ':' (by decide)
    exact absurd colon (by decide)
  exact rejected _ List.mem_cons_self ⟨by decide, by decide⟩ (by decide) rfl _ misread

end Schema

end PageHarvest
