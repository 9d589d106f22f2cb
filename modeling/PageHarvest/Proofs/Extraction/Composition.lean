import PageHarvest.Proofs.Extraction.Likeness
import PageHarvest.Proofs.Page.Registry

/-!
# Rules do not disturb each other

Every query leaves its marks in the registry of a site, but no rule can tell. What a schema extracts
is put together from what its rules extract alone, on this site or on any other one that shows the
same document at the same URL. So the order of the rules only shows in the order of the result.
-/

namespace PageHarvest

variable {σ : Type}

theorem Rule.extract_runIn (settings : ExtractionSettings) (p : Page σ) {r : Rule}
    (located : r.ensureLocatable = .ok ()) (s : σ) :
    (r.extract settings p).runIn s =
      let w := (p.walker settings).run s
      let o := (w.1.report r none 1).runIn w.2
      (o.1.value, o.2) := by
  unfold extract
  rw [located]
  let w := (p.walker settings).run s
  have walked := w.1.walk_reports r none 1 w.2 []
  show (((w.1.walk r none 1).runIn ⟨w.2, []⟩).1, ((w.1.walk r none 1).runIn ⟨w.2, []⟩).2.page) = _
  rw [walked]

theorem Schema.reports_run (settings : ExtractionSettings) (p : Page σ) (schema : Schema) (s : σ) :
    (schema.reports settings p).run s =
      let w := (p.walker settings).run (p.url.runIn s).2
      (w.1.reports schema.rules).run w.2 :=
  rfl

namespace Site

/-- The walker of a site. -/
def walker (settings : ExtractionSettings) (page : Site) : Walker Site :=
  ⟨Site.page, (Url.read page.url.text).toOption, settings⟩

theorem walker_run (settings : ExtractionSettings) (page : Site) :
    (Site.page.walker settings).run page = (page.walker settings, page) :=
  Page.walker_run Site.page settings page

variable {page copy : Site}

theorem Shows.walker_alike (same : page.Shows copy) (settings : ExtractionSettings) :
    (page.walker settings).Alike (twins page copy) (copy.walker settings) :=
  ⟨page_alike same, by rw [walker, walker, same.url], rfl⟩

/-- Rules one after the other report what each of them reports on a copy. -/
theorem reports_alone (same : page.Shows copy) (settings : ExtractionSettings) (rules : List Rule)
    {s : Site} (st : page.Extends s) :
    ReportsAgree (((page.walker settings).reports rules).run s).1
        (rules.map fun r => (r, (((copy.walker settings).report r none 1).runIn copy).1)) ∧
      page.Extends (((page.walker settings).reports rules).run s).2 := by
  induction rules generalizing s with
  | nil => exact ⟨.nil, st⟩
  | cons r rest ih =>
    have alike := same.walker_alike settings
    obtain ⟨agrees, later⟩ := Walker.report_alike alike ⟨st, .refl copy⟩ r 1
    obtain ⟨others, last⟩ := ih later.states.1
    exact ⟨.cons ⟨rfl, agrees⟩ others, last⟩

end Site

theorem Schema.reports_site (settings : ExtractionSettings) (s : Schema) (page : Site) :
    (s.reports settings Site.page).run page =
      ((page.walker settings).reports s.rules).run page := by
  have asked : Site.page.url.runIn page = (.ok page.url.text, page) := rfl
  rw [reports_run, asked]
  dsimp only
  rw [Site.walker_run]

/-- What a rule extracts from a site by itself, null where it fails. -/
def Rule.valueAlone (settings : ExtractionSettings) (page : Site) (r : Rule) : Json :=
  ((r.extract settings Site.page).runIn page).1.toOption.getD .null

/-- The errors that a rule leaves as the only rule of a schema. -/
def Schema.errorsAlone (settings : ExtractionSettings) (page : Site) (now : Instant)
    (pageNumber : Nat) (s : Schema) (r : Rule) : List String :=
  match (({ s with rules := [r] } : Schema).extract settings Site.page now pageNumber).runIn
    page with
  | (.ok result, _) => result.errors
  | (.error _, _) => []

theorem Rule.valueAlone_eq (settings : ExtractionSettings) (page : Site) {r : Rule}
    (located : r.ensureLocatable = .ok ()) :
    r.valueAlone settings page =
      (((page.walker settings).report r none 1).runIn page).1.orNull := by
  rw [valueAlone, extract_runIn settings Site.page located, Site.walker_run, Outcome.orNull]
  dsimp only
  cases (((page.walker settings).report r none 1).runIn page).1.value <;> rfl

theorem Schema.errorsAlone_eq (settings : ExtractionSettings) (page : Site) (now : Instant)
    (pageNumber : Nat) (s : Schema) {r : Rule} (located : r.ensureLocatable = .ok ()) :
    s.errorsAlone settings page now pageNumber r =
      r.errorsOf (((page.walker settings).report r none 1).runIn page).1 := by
  have found : [r].find? Rule.isUnlocatable = none := by
    simp [Rule.ensureLocatable_eq_ok.1 located]
  rw [errorsAlone, extract_runIn settings Site.page now { s with rules := [r] } pageNumber found,
    reports_site]
  exact List.append_nil _

section

variable {settings : ExtractionSettings} {page copy : Site} (same : page.Shows copy)
  {rules : List Rule} (located : ∀ r ∈ rules, r.ensureLocatable = .ok ())

include same located

theorem Rule.values_alone :
    (((page.walker settings).reports rules).run page).1.map (fun r => (r.1.name, r.2.orNull)) =
      rules.map fun r => (r.name, r.valueAlone settings copy) := by
  rw [(Site.reports_alone same settings rules (.refl page)).1.fields_eq, List.map_map]
  refine List.map_congr_left fun r hr => ?_
  rw [valueAlone_eq settings copy (located r hr)]
  rfl

theorem Schema.errors_alone (s : Schema) (now : Instant) (pageNumber : Nat) :
    (((page.walker settings).reports rules).run page).1.flatMap (fun r => r.1.errorsOf r.2) =
      rules.flatMap (s.errorsAlone settings copy now pageNumber) := by
  rw [(Site.reports_alone same settings rules (.refl page)).1.errors_eq, List.flatMap_map]
  refine List.flatMap_congr fun r hr => ?_
  rw [errorsAlone_eq settings copy now pageNumber s (located r hr)]

end

/-- A text and a picture. -/
def Schema.itemAndPicture : Schema where
  id := "s"
  rules := [{ Rule.ofKind "item" .text with selector := some "li" },
    Rule.ofKind "picture" .screenshot]

/-- A page without elements, which has one registered from before and was loaded more often than its
copy. -/
def Site.blank (registered : List Html.Place) (generation : Nat) : Site :=
  ⟨[], ⟨"about", none, "blank", none, none⟩, ⟨[], []⟩, registered, generation, 0, false⟩

end PageHarvest
