import PageHarvest.Proofs.Data.Entries
import PageHarvest.Proofs.Extraction.Report
import PageHarvest.Proofs.Schema.Locating

/-!
# What a result says

The main result on the extraction from one page, for pages that may fail in any way at any time.
Only a rule that cannot be located ends an extraction, and then the page is not touched. Otherwise
there is a result that covers what its rules come to one after the other: each name once with the
value of its last rule, and for each rule that is not optional its fault and then its item errors.
-/

namespace PageHarvest

namespace Outcome

/-- The value in a result. -/
def orNull (o : Outcome Json) : Json :=
  match o.value with
  | .ok v => v
  | .error _ => .null

end Outcome

/-- The errors that a rule leaves in a result. -/
def Rule.errorsOf (r : Rule) (o : Outcome Json) : List String :=
  if r.optional then []
  else
    match o.value with
    | .ok _ => o.itemErrors
    | .error f => (r.name ++ ": " ++ f.message) :: o.itemErrors

variable {σ : Type}

/-- What rules on top come to one after the other. -/
def Walker.reports (w : Walker σ) : List Rule → StateM σ (List (Rule × Outcome Json))
  | [] => return []
  | r :: rest => do
    let o ← (w.report r none 1).runIn
    return (r, o) :: (← w.reports rest)

/-- What the rules of a schema come to on a page, after its URL was asked for. -/
def Schema.reports (settings : ExtractionSettings) (p : Page σ) (s : Schema) :
    StateM σ (List (Rule × Outcome Json)) := do
  let _ ← p.url.run
  let w ← p.walker settings
  w.reports s.rules

/-- What a result tells of the page and of the rules. -/
structure Result.Covers (result : Result) (url : Except Fault String)
    (rules : List (Rule × Outcome Json)) : Prop where
  url : result.url = url.toOption.getD ""
  keys : result.data.keys = (rules.map fun r => r.1.name).eraseDups
  values : ∀ name, result.data.get? name =
    (rules.reverse.find? fun r => r.1.name == name).map fun r => r.2.orNull
  errors : result.errors = rules.flatMap fun r => r.1.errorsOf r.2

theorem Collected.add_outcome (c : Collected) (r : Rule) (o : Outcome Json) :
    c.add r o.value o.itemErrors = ⟨c.data.insert r.name o.orNull, c.errors ++ r.errorsOf o⟩ := by
  unfold add Rule.errorsOf Outcome.orNull
  cases o.value with
  | ok v => by_cases optional : r.optional = true <;> simp [optional]
  | error f => by_cases optional : r.optional = true <;> simp [optional]

theorem Walker.fst_of_reports (w : Walker σ) (rules : List Rule) (page : σ) :
    ((w.reports rules).run page).1.map Prod.fst = rules := by
  induction rules generalizing page with
  | nil => rfl
  | cons r rest ih => exact congrArg (r :: ·) (ih _)

/-- The record is empty before each rule, so each rule has its own item errors. -/
theorem Walker.collect_run (w : Walker σ) (rules : List Rule) (c : Collected) (page : σ) :
    (w.collect rules c).run ⟨page, []⟩ =
      (⟨c.data.overwrite (((w.reports rules).run page).1.map fun r => (r.1.name, r.2.orNull)),
        c.errors ++ ((w.reports rules).run page).1.flatMap fun r => r.1.errorsOf r.2⟩,
        ⟨((w.reports rules).run page).2, []⟩) := by
  induction rules generalizing c page with
  | nil =>
    show (c, (⟨page, []⟩ : Recording σ)) = (⟨c.data, c.errors ++ []⟩, _)
    rw [List.append_nil]
    rfl
  | cons r rest ih =>
    let o := (w.report r none 1).runIn page
    have walked : (w.walk r none 1).runIn ⟨page, []⟩ = (o.1.value, ⟨o.2, o.1.itemErrors⟩) :=
      w.walk_reports r none 1 page []
    have step : (w.collect (r :: rest) c).run ⟨page, []⟩ =
        (w.collect rest (c.add r o.1.value o.1.itemErrors)).run ⟨o.2, []⟩ := by
      show (w.collect rest (c.add r ((w.walk r none 1).runIn ⟨page, []⟩).1
        ((w.walk r none 1).runIn ⟨page, []⟩).2.itemErrors)).run
          ⟨((w.walk r none 1).runIn ⟨page, []⟩).2.page, []⟩ = _
      rw [walked]
    have further : (w.reports (r :: rest)).run page =
        ((r, o.1) :: ((w.reports rest).run o.2).1, ((w.reports rest).run o.2).2) := rfl
    rw [step, ih, further, Collected.add_outcome, List.flatMap_cons, List.append_assoc]
    rfl

/-- The result of rules that can be located. -/
theorem Schema.extract_runIn (settings : ExtractionSettings) (p : Page σ) (now : Instant)
    (s : Schema) (pageNumber : Nat) (h : s.rules.find? Rule.isUnlocatable = none) (page : σ) :
    (s.extract settings p now pageNumber).runIn page =
      let rules := (s.reports settings p).run page
      (.ok {
        schemaId := s.id
        url := (p.url.runIn page).1.toOption.getD ""
        timestamp := now
        data := Entries.ofList (rules.1.map fun r => (r.1.name, r.2.orNull))
        errors := rules.1.flatMap fun r => r.1.errorsOf r.2
        pageNumber }, rules.2) := by
  unfold extract
  rw [ensureLocatable_eq, h]
  let url := p.url.runIn page
  let w := (p.walker settings).run url.2
  have collected := w.1.collect_run s.rules .empty w.2
  show (Except.ok (⟨s.id, url.1.toOption.getD "", now,
    ((w.1.collect s.rules .empty).run ⟨w.2, []⟩).1.data,
    ((w.1.collect s.rules .empty).run ⟨w.2, []⟩).1.errors, pageNumber⟩ : Result),
    ((w.1.collect s.rules .empty).run ⟨w.2, []⟩).2.page) = _
  rw [collected]
  rfl

theorem Schema.extract_eq_throw (settings : ExtractionSettings) (p : Page σ) (now : Instant)
    {s : Schema} (pageNumber : Nat) {r : Rule} (h : s.rules.find? Rule.isUnlocatable = some r) :
    s.extract settings p now pageNumber = throw (.noSelector r.name) := by
  unfold extract
  rw [ensureLocatable_eq, h]

theorem Schema.located_of_extract {settings : ExtractionSettings} {p : Page σ} {now : Instant}
    {s : Schema} {k : Nat} {st st' : σ} {r : Result}
    (extracted : (s.extract settings p now k).runIn st = (.ok r, st')) :
    s.rules.find? Rule.isUnlocatable = none := by
  refine Option.eq_none_iff_forall_ne_some.2 fun lostRule lost => ?_
  rw [extract_eq_throw settings p now k lost] at extracted
  cases extracted

/-- An extraction fails exactly if a rule cannot be located. Then the fault names the first such
rule, and nothing is asked of the page. In all other cases the result covers what the rules come to,
which is what walks that share a record come to and append to it. -/
theorem Schema.extract_covers (settings : ExtractionSettings) (p : Page σ) (now : Instant)
    (s : Schema) (pageNumber : Nat) :
    (∀ page, (∃ f after, (s.extract settings p now pageNumber).runIn page = (.error f, after)) ↔
      ∃ r ∈ s.rules, r.isUnlocatable = true) ∧
    (∀ r, s.rules.find? Rule.isUnlocatable = some r →
      s.extract settings p now pageNumber = throw (.noSelector r.name)) ∧
    (s.rules.find? Rule.isUnlocatable = none → ∀ page, ∃ result,
      (s.extract settings p now pageNumber).runIn page =
        (.ok result, ((s.reports settings p).run page).2) ∧
      result.schemaId = s.id ∧ result.pageNumber = pageNumber ∧
      result.Covers (p.url.runIn page).1 ((s.reports settings p).run page).1) ∧
    (∀ page, ((s.reports settings p).run page).1.map Prod.fst = s.rules) ∧
    ∀ (w : Walker σ) (r : Rule), (w.walk r none 1).Reports (w.report r none 1) := by
  refine ⟨fun page => ?_, fun r h => ?_, fun h page => ?_, fun page => ?_, fun w r => ?_⟩
  · cases h : s.rules.find? Rule.isUnlocatable with
    | none =>
      rw [extract_runIn settings p now s pageNumber h page]
      constructor
      · rintro ⟨f, after, hf⟩
        cases hf
      · rintro ⟨r, hr, lost⟩
        exact absurd lost (List.find?_eq_none.1 h r hr)
    | some r =>
      rw [extract_eq_throw settings p now pageNumber h]
      exact iff_of_true ⟨_, _, rfl⟩ ⟨r, List.mem_of_find?_eq_some h, List.find?_some h⟩
  · exact extract_eq_throw settings p now pageNumber h
  · refine ⟨_, extract_runIn settings p now s pageNumber h page, rfl, rfl, ⟨rfl, ?_, ?_, rfl⟩⟩
    · rw [Entries.keys_ofList, List.map_map]
      rfl
    · intro name
      rw [Entries.get?_ofList, ← List.map_reverse, List.find?_map, Option.map_map]
      rfl
  · exact ((p.walker settings).run (p.url.runIn page).2).1.fst_of_reports s.rules _
  · exact w.walk_reports r none 1

end PageHarvest
