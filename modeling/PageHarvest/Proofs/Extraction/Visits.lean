import PageHarvest.Proofs.Extraction.Likeness
import PageHarvest.Proofs.Page.Tracing

/-!
# Visiting pages

A run over pages as a relation: after the first page, the advancer is asked as long as the limit
allows, and each page that it moves on to is extracted. The states are those of the page and of the
advancer together, and nothing is assumed of either.

* `Schema.Visits`: what comes after a page, one constructor for each way a visit can go on or end;
* `extractFurther_eq_ok`: the relation says what the program does;
* `extractPages_alike`: runs on pages that are alike come to the same.
-/

namespace PageHarvest

variable {σ τ : Type}

namespace Schema

/-- The results of the pages after page `k`, when at most so many are left, and the state at the
end. -/
inductive Visits (settings : ExtractionSettings) (p : Page σ) (advance : Advancer σ) (now : Instant)
    (s : Schema) : Nat → Nat → σ → List Result → σ → Prop
  | limit {k : Nat} {st : σ} : Visits settings p advance now s 0 k st [] st
  | stop {left k : Nat} {st st' : σ} {answer : Except Fault Bool} :
      (advance s.policy).runIn st = (answer, st') → answer ≠ .ok true →
      Visits settings p advance now s (left + 1) k st [] st'
  | next {left k : Nat} {st st₁ st₂ st' : σ} {r : Result} {rs : List Result} :
      (advance s.policy).runIn st = (.ok true, st₁) →
      (s.extract settings p now (k + 1)).runIn st₁ = (.ok r, st₂) →
      Visits settings p advance now s left (k + 1) st₂ rs st' →
      Visits settings p advance now s (left + 1) k st (r :: rs) st'

variable {settings : ExtractionSettings} {p : Page σ} {advance : Advancer σ} {now : Instant}
  {s : Schema}

theorem runIn_extractFurther (left k : Nat) (st : σ) :
    (extractFurther settings p advance now s (left + 1) k).runIn st =
      match (advance s.policy).runIn st with
      | (.ok true, st') => Act.runIn (do
          let r ← s.extract settings p now (k + 1)
          return r :: (← extractFurther settings p advance now s left (k + 1))) st'
      | (_, st') => (.ok [], st') := by
  rw [extractFurther, Act.runIn_bind_ok (Act.runIn_lift _ _)]
  rcases (advance s.policy).runIn st with ⟨_ | _ | _, st'⟩ <;> rfl

/-- A run after a page has results exactly if they are those of a visit. -/
theorem extractFurther_eq_ok {left k : Nat} {st st' : σ} {rs : List Result} :
    (extractFurther settings p advance now s left k).runIn st = (.ok rs, st') ↔
      Visits settings p advance now s left k st rs st' := by
  induction left generalizing k st rs with
  | zero =>
    constructor
    · rintro ⟨⟩
      exact .limit
    · rintro ⟨⟩
      rfl
  | succ left ih =>
    rw [runIn_extractFurther]
    constructor
    · intro run
      split at run
      · rename_i st₁ asked
        obtain ⟨r, st₂, extracted, run⟩ := Act.runIn_bind_eq_ok.1 run
        obtain ⟨rs', _, rest, ⟨⟩⟩ := Act.runIn_bind_eq_ok.1 run
        exact .next asked extracted (ih.1 rest)
      · rename_i answer st₁ no asked
        cases run
        exact .stop asked no
    · intro visits
      cases visits with
      | stop asked no =>
        rw [asked]
        split
        · rename_i h
          cases h
          exact absurd rfl no
        · rename_i h
          cases h
          rfl
      | next asked extracted rest =>
        rw [asked]
        dsimp only
        rw [Act.runIn_bind_ok extracted, Act.runIn_bind_ok (ih.2 rest)]
        rfl

/-- An extraction with rules that can be located has a result. -/
theorem exists_extract (located : s.rules.find? Rule.isUnlocatable = none) (k : Nat) (st : σ) :
    ∃ r st', (s.extract settings p now k).runIn st = (.ok r, st') :=
  ⟨_, _, extract_runIn settings p now s k located st⟩

theorem pageNumber_of_extract {k : Nat} {st st' : σ} {r : Result}
    (extracted : (s.extract settings p now k).runIn st = (.ok r, st')) : r.pageNumber = k := by
  rw [extract_runIn settings p now s k (located_of_extract extracted)] at extracted
  cases extracted
  rfl

/-- A run after a page comes to an end, and not to a fault. -/
theorem exists_visits (located : s.rules.find? Rule.isUnlocatable = none) (left k : Nat) (st : σ) :
    ∃ rs st', Visits settings p advance now s left k st rs st' := by
  induction left generalizing k st with
  | zero => exact ⟨_, _, .limit⟩
  | succ left ih =>
    rcases asked : (advance s.policy).runIn st with ⟨answer, st₁⟩
    by_cases go : answer = .ok true
    · subst go
      obtain ⟨r, st₂, extracted⟩ := exists_extract located (k + 1) st₁
      obtain ⟨rs, st', rest⟩ := ih (k + 1) st₂
      exact ⟨_, _, .next asked extracted rest⟩
    · exact ⟨_, _, .stop asked go⟩

/-- Whether there is a selector for the next page. -/
def hasNext (s : Schema) : Bool := !s.policy.nextSelector.all Text.isBlankText

theorem extractPages_eq (d : Nat) :
    s.extractPages settings p advance now d = (do
      let first ← s.extract settings p now 1
      if s.hasNext then
        return first :: (← extractFurther settings p advance now s (s.pageLimit d - 1) 1)
      else return [first]) := by
  have next : (Rule.nonBlank? s.policy.nextSelector).isNone = !s.hasNext := by
    rw [hasNext, Bool.not_not, Bool.eq_iff_iff, Option.isNone_iff_eq_none, Rule.nonBlank?_eq_none]
  unfold extractPages
  rw [next]
  cases s.hasNext <;> rfl

theorem extractPages_of_lost {r : Rule} (lost : s.rules.find? Rule.isUnlocatable = some r)
    (d : Nat) :
    s.extractPages settings p advance now d = throw (.noSelector r.name) := by
  unfold extractPages
  rw [extract_eq_throw settings p now 1 lost]
  rfl

theorem extractPages_eq_ok {d : Nat} {st st' : σ} {rs : List Result} :
    (s.extractPages settings p advance now d).runIn st = (.ok rs, st') ↔
      ∃ first st₁ more, rs = first :: more ∧
        (s.extract settings p now 1).runIn st = (.ok first, st₁) ∧
          if s.hasNext then Visits settings p advance now s (s.pageLimit d - 1) 1 st₁ more st'
          else more = [] ∧ st' = st₁ := by
  rw [extractPages_eq, Act.runIn_bind_eq_ok]
  cases s.hasNext with
  | false =>
    constructor
    · rintro ⟨first, st₁, extracted, ⟨⟩⟩
      exact ⟨first, _, [], rfl, extracted, rfl, rfl⟩
    · rintro ⟨first, st₁, _, rfl, extracted, rfl, rfl⟩
      exact ⟨first, _, extracted, rfl⟩
  | true =>
    constructor
    · rintro ⟨first, st₁, extracted, run⟩
      obtain ⟨more, _, further, ⟨⟩⟩ := Act.runIn_bind_eq_ok.1 run
      exact ⟨first, st₁, more, rfl, extracted, extractFurther_eq_ok.1 further⟩
    · rintro ⟨first, st₁, more, rfl, extracted, visits⟩
      refine ⟨first, st₁, extracted, Act.runIn_bind_eq_ok.2 ⟨more, st', ?_, rfl⟩⟩
      exact extractFurther_eq_ok.2 visits

theorem located_of_extractPages {d : Nat} {st st' : σ} {rs : List Result}
    (ran : (s.extractPages settings p advance now d).runIn st = (.ok rs, st')) :
    s.rules.find? Rule.isUnlocatable = none := by
  obtain ⟨_, _, _, _, extracted, _⟩ := extractPages_eq_ok.1 ran
  exact located_of_extract extracted

/-- A run fails as its first extraction does, or has results. -/
theorem exists_extractPages (located : s.rules.find? Rule.isUnlocatable = none) (d : Nat) (st : σ) :
    ∃ rs st', (s.extractPages settings p advance now d).runIn st = (.ok rs, st') := by
  obtain ⟨first, st₁, extracted⟩ :
      ∃ r st₁, (s.extract settings p now 1).runIn st = (.ok r, st₁) := exists_extract located 1 st
  by_cases next : s.hasNext = true
  · obtain ⟨more, st', visits⟩ :
        ∃ rs st', Visits settings p advance now s (s.pageLimit d - 1) 1 st₁ rs st' :=
      exists_visits located _ _ _
    refine ⟨first :: more, st', extractPages_eq_ok.2 ⟨first, st₁, more, rfl, extracted, ?_⟩⟩
    rwa [if_pos next]
  · refine ⟨[first], st₁, extractPages_eq_ok.2 ⟨first, st₁, [], rfl, extracted, ?_⟩⟩
    rw [if_neg next]
    exact ⟨rfl, rfl⟩

/-! ## Alike -/

section

variable {L : Likeness σ τ} {q : Page τ} {advance' : Advancer τ} (pages : p.Alike L q)
  (advances : ∀ {st st'}, L.states st st' →
    Act.Alike L Same (advance s.policy) (advance' s.policy) st st') (now' : Instant)

include pages advances

/-- Runs on pages that are alike come to the same results, but for their times. -/
theorem extractFurther_alike (left k : Nat) {st : σ} {st' : τ} (start : L.states st st') :
    Act.Alike L (fun _ _ rs rs' => rs.map (·.at now) = rs ∧ rs' = rs.map (·.at now'))
      (extractFurther settings p advance now s left k)
      (extractFurther settings q advance' now' s left k) st st' := by
  induction left generalizing k st st' with
  | zero => exact .pure start ⟨rfl, rfl⟩
  | succ left ih =>
    refine (Act.Alike.lift (advances start)).bindSame fun answer s₁ t₁ asked => ?_
    match answer with
    | .error _ | .ok false => exact .pure asked.states ⟨rfl, rfl⟩
    | .ok true =>
      have extracted := extract_alike pages asked.states settings now now' s (k + 1)
      refine extracted.bind fun r r' s₂ t₂ later dated => ?_
      refine (ih (k + 1) later.states).bind fun rs rs' s₃ t₃ last further => ?_
      refine .pure last.states ⟨?_, ?_⟩
      · rw [List.map_cons, dated.1, further.1]
      · rw [List.map_cons, dated.2, further.2]

theorem extractPages_alike (d : Nat) {st : σ} {st' : τ} (start : L.states st st') :
    Act.Alike L (fun _ _ rs rs' => rs.map (·.at now) = rs ∧ rs' = rs.map (·.at now'))
      (s.extractPages settings p advance now d)
      (s.extractPages settings q advance' now' d) st st' := by
  rw [extractPages_eq, extractPages_eq]
  refine (extract_alike pages start settings now now' s 1).bind fun r r' s₁ t₁ later dated => ?_
  by_cases next : s.hasNext = true
  · rw [if_pos next, if_pos next]
    refine (extractFurther_alike pages advances now' _ 1 later.states).bind
      fun rs rs' s₂ t₂ further dated' => ?_
    refine .pure further.states ⟨?_, ?_⟩
    · rw [List.map_cons, dated.1, dated'.1]
    · rw [List.map_cons, dated.2, dated'.2]
  · rw [if_neg next, if_neg next]
    refine .pure later.states ⟨?_, ?_⟩
    · rw [List.map_singleton, dated.1]
    · rw [List.map_singleton, dated.2]

end

end Schema

end PageHarvest
