import PageHarvest.Proofs.Extraction.Limits
import PageHarvest.Proofs.Page.Clicking

/-!
# Runs through a site

A run over the pages of a site that clicks its way on goes along links: from each page to the one
that the first match of the selector leads to, if that is not out of use. It ends on the page of its
last result.
-/

namespace PageHarvest

variable {settings : ExtractionSettings} {now : Instant} {s : Schema}

namespace Schema

/-- The result is what the schema extracts from the site. -/
structure Extracts (settings : ExtractionSettings) (now : Instant) (s : Schema) (site : Site)
    (r : Result) : Prop where
  url : r.url = site.url.text
  extracted : ∃ after, (s.extract settings Site.page now r.pageNumber).runIn site = (.ok r, after)

/-- The sites of a run, one for each result, and the site at its end. -/
structure Trail (settings : ExtractionSettings) (now : Instant) (s : Schema) (sites : List Site)
    (rs : List Result) (after : Site) : Prop where
  results : List.Forall₂ (s.Extracts settings now) sites rs
  links : sites.IsChain (Site.Follows s.policy)
  last : ∃ site, sites.getLast? = some site ∧ site.Extends after

theorem Trail.lastUrl {sites : List Site} {rs : List Result} {after : Site}
    (trail : s.Trail settings now sites rs after) :
    rs.getLast?.map Result.url = some after.url.text := by
  obtain ⟨site, last, ends⟩ := trail.last
  have reversed : List.Forall₂ (s.Extracts settings now) sites.reverse rs.reverse :=
    List.rel_reverse trail.results
  rw [← List.head?_reverse] at last ⊢
  generalize sites.reverse = us, rs.reverse = vs at last reversed ⊢
  cases reversed with
  | nil => cases last
  | cons extracts _ =>
    cases last
    exact congrArg some (extracts.url.trans (congrArg Url.text ends.url.symm))

/-- An extraction leaves a site as it is, but for its registry. -/
theorem extends_of_extract {k : Nat} {site after : Site} {o : Except Fault Result}
    (ran : (s.extract settings Site.page now k).runIn site = (o, after)) : site.Extends after := by
  have same : site.Shows site := ⟨rfl, rfl⟩
  have later := (extract_alike (Site.page_alike same) Site.twins_refl settings now now s k).later
  rw [ran] at later
  exact later.states.1

theorem extracts_of_extract {k : Nat} {site after : Site} {r : Result}
    (ran : (s.extract settings Site.page now k).runIn site = (.ok r, after)) :
    s.Extracts settings now site r := by
  refine ⟨?_, after, by rwa [pageNumber_of_extract ran]⟩
  rw [extract_runIn settings Site.page now s k (located_of_extract ran)] at ran
  cases ran
  rfl

/-- The trail of the pages after one that was extracted. -/
theorem Visits.trail {left k wait : Nat} {st st' page : Site} {r : Result} {rs : List Result}
    (visits : Visits settings Site.page (Site.page.clickNext wait) now s left k st rs st')
    (extracts : s.Extracts settings now page r) (start : page.Extends st) :
    ∃ sites, s.Trail settings now (page :: sites) (r :: rs) st' := by
  -- `page` is the site as its extraction found it, `st` the same with what was registered since
  induction visits generalizing page r with
  | limit => exact ⟨[], .cons extracts .nil, .singleton page, page, rfl, start⟩
  | @stop left k st st' answer asked no =>
    refine ⟨[], .cons extracts .nil, .singleton page, page, rfl, ?_⟩
    rcases Site.clickNext_runIn wait s.policy st with ⟨t, moved, _⟩ | ⟨_, t, stayed, _, extended⟩
    · rw [asked] at moved
      cases moved
      exact absurd rfl no
    · rw [asked] at stayed
      cases stayed
      exact start.trans extended
  | @next left k st st₁ st₂ st' r' rs asked extracted _ ih =>
    obtain ⟨sites, trail⟩ := ih (extracts_of_extract extracted) (extends_of_extract extracted)
    have follows : page.Follows s.policy st₁ := by
      rcases Site.clickNext_runIn wait s.policy st with ⟨t, moved, follows⟩ | ⟨_, t, stayed, no, _⟩
      · rw [asked] at moved
        cases moved
        exact start.follows follows
      · rw [asked] at stayed
        cases stayed
        exact absurd rfl no
    obtain ⟨last, hlast, ends⟩ := trail.last
    refine ⟨st₁ :: sites, .cons extracts trail.results, .cons_cons follows trail.links, last, ?_,
      ends⟩
    rw [List.getLast?_cons_cons, hlast]

/-- The trail of a run. -/
theorem exists_trail {d wait : Nat} {page after : Site} {rs : List Result}
    (ran : (s.extractPages settings Site.page (Site.page.clickNext wait) now d).runIn page =
      (.ok rs, after)) : ∃ sites, s.Trail settings now (page :: sites) rs after := by
  obtain ⟨first, st, more, rfl, extracted, visits⟩ := extractPages_eq_ok.1 ran
  have extracts := extracts_of_extract extracted
  have extended := extends_of_extract extracted
  by_cases next : s.hasNext = true
  · rw [if_pos next] at visits
    exact visits.trail extracts extended
  · rw [if_neg next] at visits
    obtain ⟨rfl, rfl⟩ := visits
    exact ⟨[], .cons extracts .nil, .singleton page, page, rfl, extended⟩

/-- The results of a run are those of a trail of sites from the page on, each of which follows the
link of the one before it; at the end the page is the last of them, and the last result has its URL.
Each call of the advancer clicks once at most, and one that does not move the page on leaves it as
it was, but for its registry. -/
theorem extractPages_follows (settings : ExtractionSettings) (now : Instant) (s : Schema)
    (d wait : Nat) :
    (∀ page after rs,
      (s.extractPages settings Site.page (Site.page.clickNext wait) now d).runIn page =
        (.ok rs, after) →
      (∃ sites, s.Trail settings now (page :: sites) rs after) ∧
        rs.getLast?.map Result.url = some after.url.text) ∧
    ∀ policy page,
      let call := (Site.page.traced.clickNext wait policy).runIn ⟨page, []⟩
      (Site.page.clickNext wait policy).runIn page = (call.1, call.2.state) ∧
        call.2.clicks ≤ 1 ∧ (call.1 ≠ .ok true → page.Extends call.2.state) := by
  constructor
  · intro page after rs ran
    obtain ⟨sites, trail⟩ := exists_trail ran
    exact ⟨⟨sites, trail⟩, trail.lastUrl⟩
  · intro policy page call
    have plain := Site.page.clickNext_traced_runIn wait policy ⟨page, []⟩
    have clicks := Site.page.clickNext_clicks wait policy ⟨page, []⟩
    refine ⟨plain, by simpa [Traced.clicks] using clicks, fun no => ?_⟩
    rcases Site.clickNext_runIn wait policy page with ⟨t, moved, _⟩ | ⟨_, t, stayed, _, extended⟩
    · exact absurd (congrArg Prod.fst (plain.symm.trans moved)) no
    · have ended : call.2.state = t := congrArg Prod.snd (plain.symm.trans stayed)
      rwa [ended]

/-- A site of two pages, of which the first one has a link to the second. -/
def linked : Site where
  sources := [("about:b", "")]
  url := ⟨"about", none, "a", none, none⟩
  document := ⟨[.element 0 .html "a" [⟨"", "href", "about:b"⟩] []], []⟩
  registered := []
  generation := 0
  waited := 0
  isBroken := false

theorem extractPages_follows_linked :
    ∃ rs after b,
      (turning.extractPages {} Site.page (Site.page.clickNext 0) ⟨0, 0⟩ 2).runIn linked =
        (.ok rs, after) ∧
      rs.map Result.url = ["about:a", "about:b"] ∧ linked.Follows turning.policy b ∧
      b.Extends after := by
  have urls : ((turning.extractPages {} Site.page (Site.page.clickNext 0) ⟨0, 0⟩ 2).runIn
      linked).1.toOption.map (List.map Result.url) = some ["about:a", "about:b"] := by
    decide +kernel
  obtain ⟨rs, after, ran⟩ : ∃ rs after,
      (turning.extractPages {} Site.page (Site.page.clickNext 0) ⟨0, 0⟩ 2).runIn linked =
        (.ok rs, after) := exists_extractPages rfl 2 linked
  rw [ran] at urls
  obtain ⟨⟨sites, trail⟩, _⟩ := (extractPages_follows {} ⟨0, 0⟩ turning 2 0).1 linked after rs ran
  have urls : rs.map Result.url = ["about:a", "about:b"] := Option.some.inj urls
  have two : (linked :: sites).length = 2 := by
    rw [trail.results.length_eq, ← List.length_map Result.url, urls]
    rfl
  obtain ⟨b, rfl⟩ := List.length_eq_one_iff.1 (Nat.succ.inj two)
  obtain ⟨last, hlast, ends⟩ := trail.last
  obtain rfl : b = last := Option.some.inj hlast
  exact ⟨rs, after, b, ran, urls, (List.isChain_cons_cons.1 trail.links).1, ends⟩

end Schema

end PageHarvest
