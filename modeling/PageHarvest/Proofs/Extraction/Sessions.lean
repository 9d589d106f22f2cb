import Mathlib.Data.List.Induction
import PageHarvest.Extraction.Paging

/-!
# What a session holds

An engine is asked for one thing after the other, in any order and on any pages. Its log has every
request with the answer that it got. The log alone tells what the session holds in the end.

* `results_step`: what one request does to the results;
* `results_run`: what a run does to them, by the log;
* `foldl_leave_of_endsWith`, `foldl_leave_of_not_endsWith`: the results of the last run over pages,
  or none.
-/

namespace PageHarvest

variable {σ : Type}

/-- What an engine can be asked for. -/
inductive Request (σ : Type)
  | extract (p : Page σ) (advance : Advancer σ) (now : Instant) (s : Schema)
  | clear
  | extractSchema (p : Page σ) (now : Instant) (s : Schema) (pageNumber : Nat)
  | extractRule (p : Page σ) (r : Rule)

namespace Request

def Answer : Request σ → Type
  | extract .. => Except Fault (List Result)
  | clear => Unit
  | extractSchema .. => Except Fault Result
  | extractRule .. => Except Fault Json

/-- Whether a request leaves the results of the session alone. -/
def LeavesResults : Request σ → Prop
  | extract .. | clear => False
  | extractSchema .. | extractRule .. => True

end Request

/-- A request with its answer. -/
abbrev Exchange (σ : Type) := (q : Request σ) × q.Answer

/-- The results that are held after an exchange, by those held before. -/
def Exchange.leave (before : List Result) : Exchange σ → List Result
  | ⟨.extract .., .ok results⟩ => results
  | ⟨.extract .., .error _⟩ => []
  | ⟨.clear, _⟩ => []
  | ⟨.extractSchema .., _⟩ | ⟨.extractRule .., _⟩ => before

theorem Exchange.leave_eq {e : Exchange σ} (other : e.1.LeavesResults) (before : List Result) :
    e.leave before = before := by
  obtain ⟨q, answer⟩ := e
  cases q with
  | extract | clear => exact absurd other id
  | extractSchema | extractRule => rfl

namespace Session

/-- One request to an engine with this session. -/
def step (settings : ExtractionSettings) (x : Session) :
    Request σ → StateM σ (Exchange σ × Session)
  | .extract p advance now s => do
    let (outcome, y) ← Session.extract settings p advance now s
    return (⟨.extract p advance now s, outcome⟩, y)
  | .clear => return (⟨.clear, ()⟩, empty)
  | .extractSchema p now s pageNumber => do
    let outcome ← (s.extract settings p now pageNumber).run
    return (⟨.extractSchema p now s pageNumber, outcome⟩, x)
  | .extractRule p r => do
    let outcome ← (r.extract settings p).run
    return (⟨.extractRule p r, outcome⟩, x)

/-- Requests one after the other: the log, and the session in the end. -/
def run (settings : ExtractionSettings) (x : Session) :
    List (Request σ) → StateM σ (List (Exchange σ) × Session)
  | [] => return ([], x)
  | q :: rest => do
    let (exchange, y) ← x.step settings q
    let (log, z) ← y.run settings rest
    return (exchange :: log, z)

variable (settings : ExtractionSettings) (x : Session)

theorem request_step (q : Request σ) (page : σ) :
    ((x.step settings q).run page).1.1.1 = q := by
  cases q <;> rfl

theorem extract_run (p : Page σ) (advance : Advancer σ) (now : Instant) (s : Schema) (page : σ) :
    let pages := (s.extractPages settings p advance now settings.maxPages).runIn page
    (Session.extract settings p advance now s).run page =
      ((pages.1, ⟨pages.1.toOption.getD []⟩), pages.2) := by
  intro pages
  have ran : StateT.run (ExceptT.run (s.extractPages settings p advance now settings.maxPages)) page
      = pages := rfl
  rw [Session.extract, StateT.run_bind, ran]
  rcases pages with ⟨f | results, after⟩ <;> rfl

/-- What a run over pages answers is what the session holds; a fault leaves it empty. -/
theorem results_step (q : Request σ) (page : σ) :
    ((x.step settings q).run page).1.2.results =
      ((x.step settings q).run page).1.1.leave x.results := by
  cases q with
  | extract p advance now s =>
    have ran := extract_run settings p advance now s page
    show ((Session.extract settings p advance now s).run page).1.2.results =
      Exchange.leave x.results
        ⟨.extract p advance now s, ((Session.extract settings p advance now s).run page).1.1⟩
    rw [ran]
    rcases (s.extractPages settings p advance now settings.maxPages).runIn page with
      ⟨f | results, after⟩ <;> rfl
  | clear => rfl
  | extractSchema | extractRule => rfl

theorem run_cons (q : Request σ) (rest : List (Request σ)) (page : σ) :
    (x.run settings (q :: rest)).run page =
      let first := (x.step settings q).run page
      let further := (first.1.2.run settings rest).run first.2
      ((first.1.1 :: further.1.1, further.1.2), further.2) := rfl

theorem requests_run (requests : List (Request σ)) (page : σ) :
    ((x.run settings requests).run page).1.1.map Sigma.fst = requests := by
  induction requests generalizing x page with
  | nil => rfl
  | cons q rest ih =>
    rw [run_cons]
    simp only [List.map_cons, request_step, ih]

theorem results_run (requests : List (Request σ)) (page : σ) :
    ((x.run settings requests).run page).1.2.results =
      ((x.run settings requests).run page).1.1.foldl Exchange.leave x.results := by
  induction requests generalizing x page with
  | nil => rfl
  | cons q rest ih =>
    rw [run_cons]
    simp only [List.foldl_cons, ih, results_step]

/-! ## The log alone -/

variable {log before after : List (Exchange σ)} {held : List Result}

theorem foldl_leave_of_leavesResults (others : ∀ e ∈ log, e.1.LeavesResults) :
    log.foldl Exchange.leave held = held := by
  induction log with
  | nil => rfl
  | cons e rest ih =>
    obtain ⟨first, further⟩ := List.forall_mem_cons.1 others
    rw [List.foldl_cons, Exchange.leave_eq first, ih further]

/-- The last run over pages in the log gave these results, and no later request clears them. -/
def EndsWith (log : List (Exchange σ)) (results : List Result) : Prop :=
  ∃ before p advance now s after,
    log = before ++ ⟨.extract p advance now s, .ok results⟩ :: after ∧
      ∀ e ∈ after, e.1.LeavesResults

theorem foldl_leave_of_endsWith {results : List Result} (ends : EndsWith log results) :
    log.foldl Exchange.leave held = results := by
  obtain ⟨before, p, advance, now, s, after, rfl, others⟩ := ends
  rw [List.foldl_append, List.foldl_cons]
  exact foldl_leave_of_leavesResults others

theorem EndsWith.concat {results : List Result} {e : Exchange σ} (ends : EndsWith log results)
    (other : e.1.LeavesResults) : EndsWith (log ++ [e]) results := by
  obtain ⟨before, p, advance, now, s, after, rfl, others⟩ := ends
  refine ⟨before, p, advance, now, s, after ++ [e], by simp, ?_⟩
  exact List.forall_mem_append.2 ⟨others, List.forall_mem_singleton.2 other⟩

/-- After a run over pages that failed, none counts. -/
theorem not_endsWith_fault (log : List (Exchange σ)) {p : Page σ} {advance : Advancer σ}
    {now : Instant} {s : Schema} {f : Fault} {results : List Result} :
    ¬ EndsWith (log ++ [⟨.extract p advance now s, .error f⟩]) results := by
  rintro ⟨before, p, advance, now, s, after, shape, others⟩
  rcases List.eq_nil_or_concat after with rfl | ⟨further, e, rfl⟩
  · have last := List.append_inj_right' shape rfl
    cases last
  · rw [List.concat_eq_append] at others shape
    rw [← List.cons_append, ← List.append_assoc] at shape
    have last := List.append_inj_right' shape rfl
    cases last
    exact others _ (List.mem_append_right _ List.mem_cons_self)

theorem foldl_leave_of_not_endsWith (none : ¬ ∃ results, EndsWith log results) :
    log.foldl Exchange.leave [] = [] := by
  induction log using List.reverseRecOn with
  | nil => rfl
  | append_singleton log e ih =>
    rw [List.foldl_append, List.foldl_cons, List.foldl_nil]
    by_cases other : e.1.LeavesResults
    · rw [Exchange.leave_eq other]
      exact ih fun ⟨results, ends⟩ => none ⟨results, ends.concat other⟩
    obtain ⟨q, answer⟩ := e
    cases q with
    | extract p advance now s =>
      cases answer with
      | ok results =>
        exact (none ⟨results, log, p, advance, now, s, [], rfl, List.forall_mem_nil _⟩).elim
      | error f => rfl
    | clear => rfl
    | extractSchema | extractRule => exact absurd trivial other

end Session

end PageHarvest
