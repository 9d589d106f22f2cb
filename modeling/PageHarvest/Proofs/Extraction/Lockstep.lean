import PageHarvest.Proofs.Extraction.Limits

/-!
# Runs in lockstep

The limit decides where a run over pages ends, and nothing else: a run with a larger limit first
does all that the run with the smaller one does, and then, if it was the limit that ended that one,
goes on from there.
-/

namespace PageHarvest

variable {σ : Type}

namespace Schema

/-- Goes on after the results of the pages after page `k`, if there are as many as the limit
allowed, with so many pages more. -/
def extractBeyond (settings : ExtractionSettings) (p : Page σ) (advance : Advancer σ)
    (now : Instant) (s : Schema) (limit more k : Nat) (rs : List Result) : Act σ (List Result) :=
  if rs.length < limit then return rs
  else return rs ++ (← extractFurther settings p advance now s more (k + rs.length))

variable {settings : ExtractionSettings} {p : Page σ} {advance : Advancer σ} {now : Instant}
  {s : Schema}

theorem extractBeyond_cons (limit more k : Nat) (r : Result) (rs : List Result) (st : σ) :
    (extractBeyond settings p advance now s (limit + 1) more k (r :: rs)).runIn st =
      Act.runIn (do
        let rs' ← extractBeyond settings p advance now s limit more (k + 1) rs
        return r :: rs') st := by
  have number : k + (r :: rs).length = k + 1 + rs.length := by
    rw [List.length_cons]
    omega
  unfold extractBeyond
  rw [number, List.length_cons]
  by_cases short : rs.length < limit
  · rw [if_pos short, if_pos (Nat.succ_lt_succ short)]
    rfl
  · rw [if_neg short, if_neg (short ∘ Nat.lt_of_succ_lt_succ), Act.runIn_bind, Act.runIn_bind,
      Act.runIn_bind]
    rcases Act.runIn _ st with ⟨f | rs', st'⟩ <;> rfl

/-- The pages after page `k`, as many as come first and then more. -/
theorem extractFurther_add (limit more k : Nat) (st : σ) :
    (extractFurther settings p advance now s (limit + more) k).runIn st =
      Act.runIn (do
        let rs ← extractFurther settings p advance now s limit k
        extractBeyond settings p advance now s limit more k rs) st := by
  -- both sides ask the advancer first, and go on alike from its answer
  induction limit generalizing k st with
  | zero =>
    have nothing : (extractFurther settings p advance now s 0 k).runIn st = (.ok [], st) := rfl
    rw [Nat.zero_add, Act.runIn_bind_ok nothing]
    show _ = Act.runIn (extractFurther settings p advance now s more k >>= pure) st
    rw [bind_pure]
  | succ limit ih =>
    rw [Nat.add_right_comm, runIn_extractFurther, Act.runIn_bind, runIn_extractFurther]
    rcases (advance s.policy).runIn st with ⟨_ | _ | _, st'⟩
    · rfl
    · rfl
    · dsimp only
      rw [Act.runIn_bind, Act.runIn_bind]
      rcases (s.extract settings p now (k + 1)).runIn st' with ⟨f | r, st''⟩
      · rfl
      · dsimp only
        rw [Act.runIn_bind, ih, Act.runIn_bind, Act.runIn_bind]
        rcases (extractFurther settings p advance now s limit (k + 1)).runIn st'' with ⟨f | rs, st₃⟩
        · rfl
        · show _ = (extractBeyond settings p advance now s (limit + 1) more k (r :: rs)).runIn st₃
          rw [extractBeyond_cons, Act.runIn_bind]

/-- A run up to the larger limit is one up to the smaller limit that goes on from there. -/
theorem extractPages_beyond (next : s.hasNext = true) {d d' : Nat}
    (le : s.pageLimit d ≤ s.pageLimit d') (st : σ) :
    (s.extractPages settings p advance now d').runIn st =
      Act.runIn (do
        let rs ← s.extractPages settings p advance now d
        extractBeyond settings p advance now s (s.pageLimit d) (s.pageLimit d' - s.pageLimit d) 0
          rs) st := by
  have positive : 1 ≤ s.pageLimit d := Nat.le_max_left _ _
  obtain ⟨limit, hlimit⟩ : ∃ limit, s.pageLimit d = limit + 1 := Nat.exists_eq_add_of_le' positive
  obtain ⟨more, hmore⟩ := Nat.exists_eq_add_of_le le
  have further : s.pageLimit d' - 1 = limit + more := by omega
  rw [extractPages_eq, extractPages_eq, further, hmore, Nat.add_sub_cancel_left, hlimit,
    Nat.add_sub_cancel, Act.runIn_bind, Act.runIn_bind, Act.runIn_bind]
  rcases (s.extract settings p now 1).runIn st with ⟨f | first, st₁⟩
  · rfl
  · dsimp only
    rw [if_pos next, if_pos next, Act.runIn_bind, Act.runIn_bind,
      extractFurther_add, Act.runIn_bind]
    rcases (extractFurther settings p advance now s limit 1).runIn st₁ with ⟨f | rs, st₂⟩
    · rfl
    · show _ = (extractBeyond settings p advance now s (limit + 1) more 0 (first :: rs)).runIn st₂
      rw [extractBeyond_cons, Act.runIn_bind]

/-! ## Another time -/

/-- The time of a run shows in the results only. -/
theorem extractPages_at (now now' : Instant) (d : Nat) (st : σ) :
    ∃ outcome st', (s.extractPages settings p advance now d).runIn st = (outcome, st') ∧
      outcome.map (List.map (·.at now)) = outcome ∧
      (s.extractPages settings p advance now' d).runIn st =
        (outcome.map (List.map (·.at now')), st') := by
  have start : (Likeness.keeping fun _ : σ => True).states st st := ⟨rfl, trivial⟩
  have pages : p.Alike (.keeping fun _ => True) p :=
    Page.alike_keeping (fun _ _ => trivial) (fun _ _ _ _ => trivial) (fun _ _ _ => trivial)
      (fun _ _ _ => trivial) (fun _ _ _ _ => trivial) (fun _ _ _ => trivial) (fun _ _ _ => trivial)
      (fun _ _ => trivial) fun _ _ => trivial
  have advances : ∀ {s₁ t₁}, (Likeness.keeping fun _ : σ => True).states s₁ t₁ →
      Act.Alike (.keeping fun _ => True) Same (advance s.policy) (advance s.policy) s₁ t₁ :=
    Act.Keeps.alike fun _ _ => trivial
  have alike : Act.Alike (.keeping fun _ => True) _ (s.extractPages settings p advance now d)
      (s.extractPages settings p advance now' d) st st :=
    extractPages_alike pages advances now' d start
  cases alike with
  | value ran ran' later dated =>
    obtain rfl := later.states.1
    refine ⟨_, _, ran, congrArg Except.ok dated.1, ?_⟩
    rw [ran', dated.2]
    rfl
  | fault ran ran' later =>
    obtain rfl := later.states.1
    exact ⟨_, _, ran, rfl, ran'⟩

theorem events_at (now now' : Instant) (d : Nat) (st : σ) :
    s.events settings p advance now' d st = s.events settings p advance now d st := by
  obtain ⟨_, after, ran, _, ran'⟩ := extractPages_at now now' d (⟨st, []⟩ : Traced σ)
  rw [events, events, ran, ran']

/-! ## Smaller and larger limits -/

/-- Going on adds to the results, unless the limit was not reached. -/
theorem extractBeyond_eq_ok (located : s.rules.find? Rule.isUnlocatable = none)
    {limit more k : Nat} {rs : List Result} {st st' : σ} {outcome : Except Fault (List Result)}
    (run : (extractBeyond settings p advance now s limit more k rs).runIn st = (outcome, st')) :
    ∃ rs', outcome = .ok (rs ++ rs') ∧
      if rs.length < limit then rs' = [] ∧ st' = st
      else Visits settings p advance now s more (k + rs.length) st rs' st' := by
  unfold extractBeyond at run
  by_cases short : rs.length < limit
  · rw [if_pos short] at run
    cases run
    exact ⟨[], by rw [List.append_nil], by rw [if_pos short]; exact ⟨rfl, rfl⟩⟩
  · obtain ⟨rs', st₁, visits⟩ :
        ∃ rs' st₁, Visits settings p advance now s more (k + rs.length) st rs' st₁ :=
      exists_visits located _ _ _
    rw [if_neg short, Act.runIn_bind_ok (extractFurther_eq_ok.2 visits)] at run
    cases run
    exact ⟨rs', rfl, by rwa [if_neg short]⟩

/-! ## Limits of the schema -/

/-- The schema with another limit of its own. -/
def limited (limit : Option Nat) (s : Schema) : Schema :=
  { s with pagination := some { s.policy with maxPages := limit } }

theorem extractFurther_congr {s' : Schema}
    (extracts : ∀ k, s.extract settings p now k = s'.extract settings p now k)
    (advances : advance s.policy = advance s'.policy) (left k : Nat) :
    extractFurther settings p advance now s left k =
      extractFurther settings p advance now s' left k := by
  induction left generalizing k with
  | zero => rfl
  | succ left ih =>
    unfold extractFurther
    rw [extracts, advances, ih]

/-- A limit of the schema is as good as one of the driver, for an advancer that does not mind it. -/
theorem extractPages_limited {limit : Nat}
    (same : advance (s.limited (some limit)).policy = advance (s.limited none).policy) (d : Nat) :
    (s.limited (some limit)).extractPages settings p advance now d =
      (s.limited none).extractPages settings p advance now limit := by
  have extracts (k : Nat) : (s.limited (some limit)).extract settings p now k =
      (s.limited none).extract settings p now k := rfl
  unfold extractPages
  rw [extracts, extractFurther_congr extracts same]
  rfl

section

variable (next : s.hasNext = true) {d d' : Nat} (le : s.pageLimit d ≤ s.pageLimit d')

include next le

/-- The results of a run are the first ones of a run with a larger limit. -/
theorem extractPages_take {st mid : σ} {rs : List Result}
    (ran : (s.extractPages settings p advance now d).runIn st = (.ok rs, mid)) :
    ∃ all after, (s.extractPages settings p advance now d').runIn st = (.ok all, after) ∧
      all.take (s.pageLimit d) = rs ∧ (rs.length < s.pageLimit d → after = mid) := by
  have most := (pages_of_ok ran).2.1
  rw [extractPages_beyond next le, Act.runIn_bind_ok ran]
  rcases beyond : Act.runIn _ mid with ⟨outcome, after⟩
  obtain ⟨more, rfl, further⟩ := extractBeyond_eq_ok (located_of_extractPages ran) beyond
  by_cases fewer : rs.length < s.pageLimit d
  · rw [if_pos fewer] at further
    obtain ⟨rfl, rfl⟩ := further
    refine ⟨_, after, rfl, ?_, fun _ => rfl⟩
    rw [List.append_nil, List.take_of_length_le most]
  · have full : rs.length = s.pageLimit d := Nat.le_antisymm most (Nat.le_of_not_lt fewer)
    refine ⟨_, after, rfl, ?_, fun h => absurd h fewer⟩
    rw [← full, List.take_left]

/-- The notes of a run are the first ones of a run with a larger limit. -/
theorem events_prefix (st : σ) :
    s.events settings p advance now d st <+: s.events settings p advance now d' st := by
  rw [events, events, extractPages_beyond next le]
  rcases ran : (s.extractPages settings p.traced (Advancer.traced advance) now d).runIn ⟨st, []⟩
    with ⟨f | rs, mid⟩
  · exact ⟨[], by rw [Act.runIn_bind_error ran, List.append_nil]⟩
  · rw [Act.runIn_bind_ok ran]
    rcases beyond : Act.runIn _ mid with ⟨outcome, after⟩
    obtain ⟨more, _, further⟩ := extractBeyond_eq_ok (located_of_extractPages ran) beyond
    by_cases fewer : rs.length < s.pageLimit d
    · rw [if_pos fewer] at further
      exact ⟨[], by rw [further.2, List.append_nil]⟩
    · rw [if_neg fewer] at further
      obtain ⟨events, hevents, _⟩ := further.leftPages
      exact ⟨events, hevents.symm⟩

/-- The results of a run are the first ones of a run with a larger limit at another time. -/
theorem results_lockstep (settings : ExtractionSettings) (p : Page σ) (advance : Advancer σ)
    (now now' : Instant) (st : σ) :
    let small := (s.extractPages settings p advance now d).runIn st
    let large := (s.extractPages settings p advance now' d').runIn st
    (∀ f, small.1 = .error f ↔ large.1 = .error f) ∧
    (∀ rs, large.1 = .ok rs → small.1 = .ok ((rs.take (s.pageLimit d)).map (·.at now))) ∧
    (∀ rs, small.1 = .ok rs → rs.length < s.pageLimit d → small.2 = large.2) := by
  intro small large
  obtain ⟨outcome, after, ran, dated, ran'⟩ : ∃ outcome after,
      (s.extractPages settings p advance now d').runIn st = (outcome, after) ∧
        outcome.map (List.map (·.at now)) = outcome ∧
        large = (outcome.map (List.map (·.at now')), after) := extractPages_at now now' d' st
  rcases ended : small with ⟨f | rs, mid⟩
  · have failed : (s.extractPages settings p advance now d').runIn st = (.error f, mid) := by
      rw [extractPages_beyond next le, Act.runIn_bind_error ended]
    obtain ⟨rfl, rfl⟩ := Prod.mk.inj (ran.symm.trans failed)
    refine ⟨fun f' => ?_, fun rs h => ?_, fun rs h => ?_⟩
    · rw [ran']
      rfl
    · rw [ran'] at h
      cases h
    · cases h
  · obtain ⟨all, end', larger, first, short⟩ := extractPages_take next le ended
    obtain ⟨rfl, rfl⟩ := Prod.mk.inj (ran.symm.trans larger)
    have undated : rs.map (·.at now) = rs := by
      rw [← first, List.map_take, Except.ok.inj dated]
    refine ⟨fun f => ?_, fun rs' h => ?_, fun rs' h fewer => ?_⟩
    · rw [ran']
      exact iff_of_false nofun nofun
    · rw [ran'] at h
      obtain rfl := Except.ok.inj h
      have again : (Result.at now ∘ Result.at now') = Result.at now := rfl
      rw [← List.map_take, first, List.map_map, again, undated]
    · obtain rfl := Except.ok.inj h
      rw [ran']
      exact (short fewer).symm

/-- A run and one with a larger limit, from the same state but at different times, go on in lockstep
until the first one ends: they put the same questions and get the same answers, and the results of
the first one are the first results of the other, but for their times. The larger run is the smaller
one, if it had been at the time of the larger one, going on where its limit ended it. Limits that
the schema sets do as well, but an advancer may look at them. -/
theorem extractPages_lockstep (settings : ExtractionSettings) (p : Page σ) (advance : Advancer σ)
    (now now' : Instant) (st : σ) :
    let small := (s.extractPages settings p advance now d).runIn st
    let large := (s.extractPages settings p advance now' d').runIn st
    (∀ f, small.1 = .error f ↔ large.1 = .error f) ∧
    (∀ rs, large.1 = .ok rs → small.1 = .ok ((rs.take (s.pageLimit d)).map (·.at now))) ∧
    (∀ rs, small.1 = .ok rs → rs.length < s.pageLimit d → small.2 = large.2) ∧
    s.events settings p advance now d st <+: s.events settings p advance now' d' st ∧
    large = Act.runIn (do
      let rs ← s.extractPages settings p advance now' d
      extractBeyond settings p advance now' s (s.pageLimit d) (s.pageLimit d' - s.pageLimit d) 0
        rs) st ∧
    ∀ limit, advance (s.limited (some limit)).policy = advance (s.limited none).policy →
      (s.limited (some limit)).extractPages settings p advance now d =
        (s.limited none).extractPages settings p advance now limit := by
  have results := results_lockstep next le settings p advance now now' st
  refine ⟨results.1, results.2.1, results.2.2, ?_, extractPages_beyond next le st, ?_⟩
  · rw [events_at now now' d' st]
    exact events_prefix next le st
  · exact fun limit same => extractPages_limited same d

end

/-- A run over two pages and one over four. -/
theorem extractPages_lockstep_two :
    ∃ rs, ((turning.extractPages {} .unreadable (fun _ => return true) ⟨9, 0⟩ 4).runIn ()).1 =
        .ok rs ∧
      rs.length = 4 ∧
      ((turning.extractPages {} .unreadable (fun _ => return true) ⟨0, 0⟩ 2).runIn ()).1 =
        .ok ((rs.take 2).map (·.at ⟨0, 0⟩)) := by
  obtain ⟨rs, ran⟩ : ∃ rs,
      ((turning.extractPages {} .unreadable (fun _ => return true) ⟨9, 0⟩ 4).runIn ()).1 = .ok rs :=
    ⟨_, rfl⟩
  have four : rs.length = 4 := by
    obtain rfl := Except.ok.inj ran
    rfl
  have next : turning.hasNext = true := by decide
  have le : turning.pageLimit 2 ≤ turning.pageLimit 4 := by decide
  have lockstep :=
    extractPages_lockstep next le {} .unreadable (fun _ => return true) ⟨0, 0⟩ ⟨9, 0⟩ ()
  exact ⟨rs, ran, four, lockstep.2.1 rs ran⟩

end Schema

end PageHarvest
