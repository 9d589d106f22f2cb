import PageHarvest.Proofs.Extraction.Calls
import PageHarvest.Proofs.Extraction.Visits

/-!
# The length of a run

How far a run over pages comes, whatever its page and its advancer answer.

* `Visits.length_le`, `Visits.pageNumbers`: the results after a page, by its number;
* `Visits.leftPages`: how often the advancer was asked for them, and what it answered, from the
  notes of the run;
* `extractPagesCounting`: the run with its counts in words of 32 bits. They are never too short;
* `extractPages_turns`: what a passed check means for a run over several pages.
-/

namespace PageHarvest

variable {σ : Type}

namespace Schema

/-- The notes of a run that starts without any. -/
def events (settings : ExtractionSettings) (p : Page σ) (advance : Advancer σ) (now : Instant)
    (s : Schema) (d : Nat) (st : σ) : List Event :=
  ((s.extractPages settings p.traced (Advancer.traced advance) now d).runIn ⟨st, []⟩).2.events

/-- What the advancer answers in a run, one answer for each time it is asked. -/
def answers (settings : ExtractionSettings) (p : Page σ) (advance : Advancer σ) (now : Instant)
    (s : Schema) (d : Nat) (st : σ) : List (Except Fault Bool) :=
  (s.events settings p advance now d st).filterMap Event.advanced?

/-- Answers after which a page has been left `n` times, when that was allowed so many times: it was
left at each of them, and at the next one not, unless that was beyond the limit. -/
def LeftPages (limit n : Nat) (answers : List (Except Fault Bool)) : Prop :=
  (n = limit → answers = .replicate n (.ok true)) ∧
    (n < limit → ∃ last, last ≠ .ok true ∧ answers = .replicate n (.ok true) ++ [last])

variable {settings : ExtractionSettings} {p : Page σ} {advance : Advancer σ} {now : Instant}
  {s : Schema}

namespace Visits

variable {left k : Nat} {st st' : σ} {rs : List Result}

theorem length_le (h : Visits settings p advance now s left k st rs st') : rs.length ≤ left := by
  induction h with
  | limit => exact Nat.le_refl _
  | stop => exact Nat.zero_le _
  | next _ _ _ ih => exact Nat.succ_le_succ ih

theorem pageNumbers (h : Visits settings p advance now s left k st rs st') :
    rs.map Result.pageNumber = List.range' (k + 1) rs.length := by
  induction h with
  | limit => rfl
  | stop => rfl
  | next _ extracted _ ih =>
    rw [List.map_cons, ih, pageNumber_of_extract extracted, List.length_cons, List.range'_succ]

end Visits

/-- An extraction puts no question to the advancer. -/
theorem continues_of_extract {k : Nat} {st st' : Traced σ} {o : Except Fault Result}
    (extracted : (s.extract settings p.traced now k).runIn st = (o, st')) :
    Traced.Continues st.events st' := by
  have start : (Likeness.keeping (Traced.Continues st.events)).states st st :=
    ⟨rfl, [], (List.append_nil _).symm, rfl⟩
  have later := (extract_alike p.traced_keeps start settings now now s k).later
  rw [extracted] at later
  exact later.states.2

theorem Visits.leftPages {left k : Nat} {st st' : Traced σ} {rs : List Result}
    (h : Visits settings p.traced (Advancer.traced advance) now s left k st rs st') :
    ∃ more, st'.events = st.events ++ more ∧
      LeftPages left rs.length (more.filterMap Event.advanced?) := by
  induction h with
  | limit => exact ⟨[], (List.append_nil _).symm, fun _ => rfl, fun h => absurd h (Nat.lt_irrefl _)⟩
  | @stop left k st st' answer asked no =>
    cases asked
    exact ⟨_, rfl, nofun, fun _ => ⟨_, no, rfl⟩⟩
  | @next left k st st₁ st₂ st' r rs asked extracted _ ih =>
    obtain ⟨more, hm, full, short⟩ := ih
    obtain ⟨asks, ha, none⟩ := continues_of_extract extracted
    -- the answer of the advancer, the questions of the extraction, and those of the pages after it
    have events : st₁.events = st.events ++ [.advance s.policy (.ok true)] := by
      rw [Advancer.traced, Act.traced_runIn] at asked
      cases ho : ((advance s.policy).runIn st.state).1 with
      | ok go =>
        rw [ho] at asked
        cases asked
        rfl
      | error f =>
        rw [ho] at asked
        cases asked
    refine ⟨.advance s.policy (.ok true) :: (asks ++ more), ?_, ?_⟩
    · rw [hm, ha, events]
      simp
    · show LeftPages _ _ (.ok true :: (asks ++ more).filterMap Event.advanced?)
      rw [List.filterMap_append, none, List.nil_append]
      refine ⟨fun h => ?_, fun h => ?_⟩
      · rw [full (Nat.succ.inj h)]
        rfl
      · obtain ⟨last, no, hl⟩ := short (Nat.lt_of_succ_lt_succ h)
        exact ⟨last, no, by rw [hl]; rfl⟩

/-! ## Counting in 32 bits -/

/-- The count after one below a limit does not start from zero again. -/
theorem toNat_count_succ {n : Nat} {limit : UInt32} (below : UInt32.ofNat n < limit) :
    (UInt32.ofNat n + 1).toNat = (UInt32.ofNat n).toNat + 1 := by
  have lt := UInt32.lt_iff_toNat_lt.1 below
  have bound := limit.toNat_lt
  have one : (1 : UInt32).toNat = 1 := rfl
  rw [UInt32.toNat_add, one]
  omega

/-- A count that fits is itself. -/
theorem toNat_count {n : Nat} {limit : UInt32} (fits : n ≤ limit.toNat) :
    (UInt32.ofNat n).toNat = n := by
  have bound := limit.toNat_lt
  rw [UInt32.toNat_ofNat']
  omega

/-- The pages after those that have results, counted in words of 32 bits. -/
def extractCounting (settings : ExtractionSettings) (p : Page σ) (advance : Advancer σ)
    (now : Instant) (s : Schema) (limit : UInt32) (results : List Result) : Act σ (List Result) :=
  if _below : UInt32.ofNat results.length < limit then do
    match ← ExceptT.lift (advance s.policy).run with
    | .ok true =>
      let r ← s.extract settings p now (UInt32.ofNat results.length + 1).toNat
      extractCounting settings p advance now s limit (results ++ [r])
    | .ok false | .error _ => return results
  else return results
termination_by limit.toNat - (UInt32.ofNat results.length).toNat
decreasing_by
  have lt := UInt32.lt_iff_toNat_lt.1 _below
  have succ := toNat_count_succ _below
  rw [List.length_append, List.length_singleton, UInt32.ofNat_add]
  show limit.toNat - (UInt32.ofNat results.length + 1).toNat < _
  omega

/-- A run over pages that counts them in words of 32 bits. -/
def extractPagesCounting (settings : ExtractionSettings) (p : Page σ) (advance : Advancer σ)
    (now : Instant) (s : Schema) (defaultLimit : Nat) : Act σ (List Result) := do
  let first ← s.extract settings p now 1
  if (Rule.nonBlank? s.policy.nextSelector).isNone then return [first]
  else extractCounting settings p advance now s (UInt32.ofNat (s.pageLimit defaultLimit)) [first]

theorem runIn_extractCounting {limit : UInt32} {left : Nat} {results : List Result}
    (fits : results.length + left = limit.toNat) (st : σ) :
    (extractCounting settings p advance now s limit results).runIn st =
      Act.runIn (do
        let rs ← extractFurther settings p advance now s left results.length
        return results ++ rs) st := by
  have count := toNat_count (Nat.le.intro fits)
  induction left generalizing results st with
  | zero =>
    have full : ¬ UInt32.ofNat results.length < limit := by
      rw [UInt32.lt_iff_toNat_lt, count]
      omega
    rw [extractCounting, dif_neg full]
    show _ = (Except.ok (results ++ []), st)
    rw [List.append_nil]
    rfl
  | succ left ih =>
    have below : UInt32.ofNat results.length < limit := by
      rw [UInt32.lt_iff_toNat_lt, count]
      omega
    have number : (UInt32.ofNat results.length + 1).toNat = results.length + 1 := by
      rw [toNat_count_succ below, count]
    rw [extractCounting, dif_pos below, Act.runIn_bind_ok (Act.runIn_lift _ _), Act.runIn_bind,
      runIn_extractFurther, number]
    rcases (advance s.policy).runIn st with ⟨_ | _ | _, st'⟩
    · show (Except.ok results, st') = (Except.ok (results ++ []), st')
      rw [List.append_nil]
    · show (Except.ok results, st') = (Except.ok (results ++ []), st')
      rw [List.append_nil]
    · dsimp only
      rw [Act.runIn_bind, Act.runIn_bind]
      rcases (s.extract settings p now (results.length + 1)).runIn st' with ⟨f | r, st''⟩
      · rfl
      · have next : (results ++ [r]).length = results.length + 1 := List.length_append
        have fits' : (results ++ [r]).length + left = limit.toNat := by omega
        dsimp only
        rw [ih fits' _ (toNat_count (Nat.le.intro fits')), next, Act.runIn_bind, Act.runIn_bind]
        rcases Act.runIn _ st'' with ⟨f | rs, st₃⟩
        · rfl
        · show (Except.ok (results ++ [r] ++ rs), st₃) = (Except.ok (results ++ r :: rs), st₃)
          rw [List.append_assoc]
          rfl

/-- No count in a run leaves the words. -/
theorem extractPagesCounting_runIn {d : Nat} (fits : s.pageLimit d < UInt32.size) (st : σ) :
    (s.extractPagesCounting settings p advance now d).runIn st =
      (s.extractPages settings p advance now d).runIn st := by
  have limit : (UInt32.ofNat (s.pageLimit d)).toNat = s.pageLimit d :=
    UInt32.toNat_ofNat_of_lt' fits
  have positive : 1 ≤ s.pageLimit d := Nat.le_max_left _ _
  unfold extractPagesCounting extractPages
  rw [Act.runIn_bind, Act.runIn_bind]
  rcases (s.extract settings p now 1).runIn st with ⟨f | first, st'⟩
  · rfl
  · dsimp only
    by_cases last : (Rule.nonBlank? s.policy.nextSelector).isNone = true
    · rw [if_pos last, if_pos last]
    · have rest : [first].length + (s.pageLimit d - 1) = (UInt32.ofNat (s.pageLimit d)).toNat := by
        rw [limit, List.length_singleton]
        omega
      rw [if_neg last, if_neg last, runIn_extractCounting rest]
      rfl

/-! ## Whole runs -/

/-- A run that takes notes comes to what it comes to without them. -/
theorem extractPages_traced (d : Nat) (st : Traced σ) :
    ∃ outcome st', (s.extractPages settings p.traced (Advancer.traced advance) now d).runIn st =
        (outcome, st') ∧
      (s.extractPages settings p advance now d).runIn st.state = (outcome, st'.state) := by
  have start : (Likeness.withNotes σ).states st st.state := rfl
  have advances : ∀ {s₁ t₁}, (Likeness.withNotes σ).states s₁ t₁ → Act.Alike (.withNotes σ) Same
      (Advancer.traced advance s.policy) (advance s.policy) s₁ t₁ := Act.traced_alike _ _
  have alike : Act.Alike (.withNotes σ) Same
      (s.extractPages settings p.traced (Advancer.traced advance) now d)
      (s.extractPages settings p advance now d) st st.state :=
    (extractPages_alike p.traced_alike advances now d start).mono
      fun rs rs' _ _ _ dated => dated.1.symm.trans dated.2.symm
  obtain ⟨outcome, st', after, noted, plain, later⟩ := alike.exists_runs
  obtain rfl : st'.state = after := later.states
  exact ⟨outcome, st', noted, plain⟩

/-- A run that fails has asked the advancer for nothing. -/
theorem answers_of_lost {r : Rule} (lost : s.rules.find? Rule.isUnlocatable = some r) (d : Nat)
    (st : σ) : s.answers settings p advance now d st = [] := by
  rw [Schema.answers, events, extractPages_of_lost lost]
  rfl

/-- What the advancer is asked in a run that has results. -/
theorem answers_of_ok {d : Nat} {st st' : σ} {rs : List Result}
    (run : (s.extractPages settings p advance now d).runIn st = (.ok rs, st')) :
    if s.hasNext then
      LeftPages (s.pageLimit d - 1) (rs.length - 1) (s.answers settings p advance now d st)
    else rs.length = 1 ∧ s.answers settings p advance now d st = [] := by
  obtain ⟨_, noted, hnoted, plain⟩ :
      ∃ outcome noted, (s.extractPages settings p.traced (Advancer.traced advance) now d).runIn
        ⟨st, []⟩ = (outcome, noted) ∧ _ = (outcome, noted.state) := extractPages_traced d ⟨st, []⟩
  obtain ⟨rfl, rfl⟩ := Prod.mk.inj (plain.symm.trans run)
  have answers : s.answers settings p advance now d st =
      noted.events.filterMap Event.advanced? := by
    rw [Schema.answers, events, hnoted]
  obtain ⟨first, st₁, more, rfl, extracted, visits⟩ := extractPages_eq_ok.1 hnoted
  obtain ⟨asks, hasks, none⟩ := continues_of_extract extracted
  rw [List.nil_append] at hasks
  rw [answers]
  by_cases next : s.hasNext = true
  · rw [if_pos next] at visits ⊢
    obtain ⟨later, hlater, left⟩ := visits.leftPages
    rw [hlater, List.filterMap_append, hasks, none]
    exact left
  · rw [if_neg next] at visits ⊢
    obtain ⟨rfl, rfl⟩ := visits
    exact ⟨rfl, hasks ▸ none⟩

/-- How many results there are, and of which pages. -/
theorem pages_of_ok {d : Nat} {st st' : σ} {rs : List Result}
    (run : (s.extractPages settings p advance now d).runIn st = (.ok rs, st')) :
    1 ≤ rs.length ∧ rs.length ≤ s.pageLimit d ∧
      rs.map Result.pageNumber = List.range' 1 rs.length := by
  have positive : 1 ≤ s.pageLimit d := Nat.le_max_left _ _
  obtain ⟨first, st₁, more, rfl, extracted, visits⟩ := extractPages_eq_ok.1 run
  rw [List.map_cons, List.length_cons, List.range'_succ, pageNumber_of_extract extracted]
  by_cases next : s.hasNext = true
  · rw [if_pos next] at visits
    have le := visits.length_le
    exact ⟨by omega, by omega, congrArg (1 :: ·) visits.pageNumbers⟩
  · rw [if_neg next] at visits
    obtain ⟨rfl, -⟩ := visits
    exact ⟨Nat.le_refl 1, positive, rfl⟩

/-- A run has results unless the extraction from the first page fails; then the advancer is not
asked for anything. It has results for pages `1`, `2` and so on, at least one and no more than the
limit, and it has asked the advancer for each page after the first one and, if it did not come to
the limit, once more. Words of 32 bits are wide enough for its counts. -/
theorem extractPages_counts (settings : ExtractionSettings) (p : Page σ) (advance : Advancer σ)
    (now : Instant) (s : Schema) (d : Nat) (st : σ) :
    let run := (s.extractPages settings p advance now d).runIn st
    let answers := s.answers settings p advance now d st
    (∀ f, run.1 = .error f ↔ ((s.extract settings p now 1).runIn st).1 = .error f) ∧
    (∀ f, run.1 = .error f → answers = []) ∧
    (∀ rs, run.1 = .ok rs →
      1 ≤ rs.length ∧ rs.length ≤ s.pageLimit d ∧
      rs.map Result.pageNumber = List.range' 1 rs.length ∧
      if s.hasNext then LeftPages (s.pageLimit d - 1) (rs.length - 1) answers
      else rs.length = 1 ∧ answers = []) ∧
    (s.pageLimit d < UInt32.size →
      (s.extractPagesCounting settings p advance now d).runIn st = run) := by
  intro run answers
  have counting (fits : s.pageLimit d < UInt32.size) :
      (s.extractPagesCounting settings p advance now d).runIn st = run :=
    extractPagesCounting_runIn fits st
  cases lost : s.rules.find? Rule.isUnlocatable with
  | some r =>
    have failed : run = (.error (.noSelector r.name), st) :=
      congrArg (Act.runIn · st) (extractPages_of_lost lost d)
    have first : (s.extract settings p now 1).runIn st = (.error (.noSelector r.name), st) :=
      congrArg (Act.runIn · st) (extract_eq_throw settings p now 1 lost)
    refine ⟨fun f => ?_, fun _ _ => answers_of_lost lost d st, fun rs ok => ?_, counting⟩
    · rw [failed, first]
      constructor <;> (rintro ⟨⟩; rfl)
    · rw [failed] at ok
      cases ok
  | none =>
    obtain ⟨rs, st', ran⟩ : ∃ rs st', run = (.ok rs, st') := exists_extractPages lost d st
    obtain ⟨r, st₁, extracted⟩ :
        ∃ r st₁, (s.extract settings p now 1).runIn st = (.ok r, st₁) := exists_extract lost 1 st
    refine ⟨fun f => ?_, fun f failed => ?_, fun rs' ok => ?_, counting⟩
    · rw [ran, extracted]
      exact iff_of_false nofun nofun
    · rw [ran] at failed
      cases failed
    · rw [ran] at ok
      obtain rfl := Except.ok.inj ok
      obtain ⟨least, most, numbers⟩ := pages_of_ok ran
      exact ⟨least, most, numbers, answers_of_ok ran⟩

/-- A schema that reads nothing and turns page after page. -/
def turning : Schema where
  id := "s"
  rules := []
  pagination := some { nextSelector := some "a" }

/-- Three pages, for which the advancer is asked twice. -/
theorem extractPages_counts_three :
    ∃ rs, ((turning.extractPages {} .unreadable (fun _ => return true) ⟨0, 0⟩ 3).runIn ()).1 =
        .ok rs ∧
      rs.map Result.pageNumber = [1, 2, 3] ∧
      turning.answers {} .unreadable (fun _ => return true) ⟨0, 0⟩ 3 () = [.ok true, .ok true] := by
  obtain ⟨rs, ran⟩ : ∃ rs,
      ((turning.extractPages {} .unreadable (fun _ => return true) ⟨0, 0⟩ 3).runIn ()).1 = .ok rs :=
    ⟨_, rfl⟩
  have three : rs.length = 3 := by
    obtain rfl := Except.ok.inj ran
    rfl
  have counts := extractPages_counts {} .unreadable (fun _ => return true) ⟨0, 0⟩ turning 3 ()
  obtain ⟨_, _, numbers, asked⟩ := counts.2.2.1 rs ran
  have next : turning.hasNext = true := by decide
  rw [if_pos next, three] at asked
  rw [three] at numbers
  exact ⟨rs, ran, numbers, asked.1 rfl⟩

/-! ## Whether a run turns the page

The check of a schema and a run over pages each decide on their own whether there is a selector for
the next page. They differ on selectors of blanks alone: the check takes them for selectors, the run
takes them for none. -/

/-- Where a page may be left, the advancer is asked at least once. -/
theorem LeftPages.ne_nil {limit n : Nat} {answers : List (Except Fault Bool)}
    (h : LeftPages limit n answers) (positive : 0 < limit) (most : n ≤ limit) : answers ≠ [] := by
  rcases Nat.eq_or_lt_of_le most with rfl | fewer
  · rw [h.1 rfl, Ne, List.replicate_eq_nil_iff]
    exact Nat.ne_of_gt positive
  · obtain ⟨last, _, rfl⟩ := h.2 fewer
    simp

/-- A schema for several pages that passes its check without a warning on the selector for the next
page has one that is not empty. Whatever the page and the advancer do, a run has results, and it
asks the advancer at least once, unless the selector is nothing but blanks: then it never asks and
stays on the first page. -/
theorem extractPages_turns {s : Schema} {paging : Pagination} {n maxDepth : Nat}
    {ws : List Warning} (paged : s.pagination = some paging) (limit : paging.maxPages = some n)
    (several : 1 < n) (checked : s.check maxDepth = .ok ws)
    (unwarned : Warning.noNextSelector ∉ ws) (settings : ExtractionSettings) (p : Page σ)
    (advance : Advancer σ) (now : Instant) (d : Nat) (st : σ) :
    ∃ selector rs after, paging.nextSelector = some selector ∧ selector ≠ "" ∧
      (s.extractPages settings p advance now d).runIn st = (.ok rs, after) ∧
      let answers := s.answers settings p advance now d st
      if Text.isBlankText selector then answers = [] ∧ rs.length = 1 else answers ≠ [] := by
  obtain ⟨own, passed, sub⟩ := paging_of_check checked paged
  have policy : s.policy = paging := by rw [Schema.policy, paged, Option.getD_some]
  have many : 1 < paging.maxPages.getD 1 := by rwa [limit, Option.getD_some]
  have named : paging.nextSelector.getD "" ≠ "" := fun empty =>
    unwarned (sub (Pagination.mem_of_check passed many empty))
  obtain ⟨selector, next⟩ : ∃ selector, paging.nextSelector = some selector := by
    cases next : paging.nextSelector with
    | none => exact absurd (by rw [next, Option.getD_none]) named
    | some selector => exact ⟨selector, rfl⟩
  have located : s.rules.find? Rule.isUnlocatable = none :=
    List.find?_eq_none.2 fun r hr => by simp [(rules_of_check checked r hr).2]
  obtain ⟨rs, after, ran⟩ := exists_extractPages located d st
  refine ⟨selector, rs, after, next, by rwa [next] at named, ran, ?_⟩
  have asked := answers_of_ok ran
  rw [hasNext, policy, next, Option.all_some] at asked
  have pages : s.pageLimit d = n := by
    rw [pageLimit, policy, limit, Option.getD_some]
    omega
  cases blank : Text.isBlankText selector with
  | true =>
    rw [blank] at asked
    exact asked.symm
  | false =>
    rw [blank] at asked
    have most := (pages_of_ok ran).2.1
    exact LeftPages.ne_nil asked (by omega) (by omega)

/-- Two pages, with a selector for the second one. -/
def twoPages (selector : String) : Schema where
  id := "s"
  rules := []
  pagination := some { nextSelector := some selector, maxPages := some 2 }

/-- Both schemas get one and the same warning, and only for the first one the advancer is asked. -/
theorem extractPages_turns_blank :
    (twoPages "a").answers {} .unreadable (fun _ => return true) ⟨0, 0⟩ 1 () ≠ [] ∧
      (twoPages " ").answers {} .unreadable (fun _ => return true) ⟨0, 0⟩ 1 () = [] ∧
      (twoPages " ").check 16 = .ok [.noRules "s"] := by
  have checked (selector : String) (some : selector ≠ "") :
      (twoPages selector).check 16 = .ok [.noRules "s"] := by
    simp [twoPages, check, Pagination.check, Rule.checkAll, Text.isBlankText, Text.isBlank, some,
      Rule.duplicates, bind, Except.bind, pure, Except.pure]
  have unwarned : Warning.noNextSelector ∉ [.noRules "s"] := by simp
  have turned (selector : String) (some : selector ≠ "") :=
    extractPages_turns rfl rfl (by decide) (checked selector some) unwarned {} .unreadable
      (fun _ => return true) ⟨0, 0⟩ 1 ()
  obtain ⟨_, _, _, ⟨⟩, _, _, asked⟩ := turned "a" (by decide)
  obtain ⟨_, _, _, ⟨⟩, _, _, unasked⟩ := turned " " (by decide)
  exact ⟨asked, unasked.1, checked " " (by decide)⟩

end Schema

end PageHarvest
