import PageHarvest.Extraction.Walk
import PageHarvest.Proofs.Page.Acting

/-!
# What a walk reports

The item errors of a walk without a record: every action hands them on together with its value. What
a rule reports depends on the rule, its scope and the page alone. So nothing of one rule can end up
among the item errors of another one. `Walk.Reports` ties this to walks that share a record: they
come to the same, and append what is reported to what is there. Next to the item errors a report
tells which rules were walked.

* `Report`: an action with its item errors, one after the other in the order of the actions;
* `Walker.report`: what a rule comes to;
* `walk_reports`: a walk over a rule appends the item errors of the rule to the record.
-/

namespace PageHarvest

/-- A rule that was walked inside a scope at a depth, and what that came to. -/
structure Call where
  rule : Rule
  scope : Option Handle
  depth : Nat
  value : Except Fault Json

/-- What an action comes to, the item errors inside it, and the walks inside it. -/
structure Outcome (α : Type) where
  value : Except Fault α
  itemErrors : List String
  calls : List Call

namespace Outcome

variable {α : Type}

/-- An outcome that follows another one. -/
def after {β : Type} (o : Outcome α) (first : Outcome β) : Outcome α :=
  ⟨o.value, first.itemErrors ++ o.itemErrors, first.calls ++ o.calls⟩

/-- The item error that a child of a list leaves, by the value it comes to. -/
def ownErrors (list : String) (i : Nat) (child : Rule) : Except Fault Json → List String
  | .ok _ | .error (.maxDepthExceeded _) => []
  | .error f => [list ++ "[" ++ toString i ++ "]." ++ child.name ++ ": " ++ f.message]

/-- The value of a field. Only a nesting that is too deep goes beyond it. -/
def fieldValue : Except Fault Json → Except Fault Json
  | .ok v => .ok v
  | .error (.maxDepthExceeded d) => .error (.maxDepthExceeded d)
  | .error _ => .ok .null

/-- The outcome of a child in a record of a list: its own error follows those of the lists below
it, and an optional child has none. -/
def asField (list : String) (i : Nat) (child : Rule) (o : Outcome Json) : Outcome Json :=
  ⟨fieldValue o.value,
    if child.optional then [] else o.itemErrors ++ ownErrors list i child o.value, o.calls⟩

end Outcome

/-- An action on a page whose outcome tells the item errors. -/
def Report (σ α : Type) := σ → Outcome α × σ

namespace Report

variable {σ α β : Type}

def runIn (o : Report σ α) (page : σ) : Outcome α × σ := o page

instance : Monad (Report σ) where
  pure x := fun page => (⟨.ok x, [], []⟩, page)
  bind o k := fun page =>
    let first := o page
    match first.1.value with
    | .ok x => ((k x first.2).1.after first.1, (k x first.2).2)
    | .error f => (⟨.error f, first.1.itemErrors, first.1.calls⟩, first.2)

/-- After a fault, what the handler comes to. -/
instance : MonadExcept Fault (Report σ) where
  throw f := fun page => (⟨.error f, [], []⟩, page)
  tryCatch o k := fun page =>
    let first := o page
    match first.1.value with
    | .ok _ => first
    | .error f => ((k f first.2).1.after first.1, (k f first.2).2)

theorem runIn_bind_ok {o : Report σ α} {k : α → Report σ β} {page : σ} {x : α}
    (h : (o.runIn page).1.value = .ok x) :
    (o >>= k).runIn page =
      (((k x).runIn (o.runIn page).2).1.after (o.runIn page).1,
        ((k x).runIn (o.runIn page).2).2) := by
  show (match (o.runIn page).1.value with
    | .ok x => _
    | .error f => _) = _
  rw [h]
  rfl

theorem runIn_bind_error {o : Report σ α} {k : α → Report σ β} {page : σ} {f : Fault}
    (h : (o.runIn page).1.value = .error f) :
    (o >>= k).runIn page =
      (⟨.error f, (o.runIn page).1.itemErrors, (o.runIn page).1.calls⟩, (o.runIn page).2) := by
  show (match (o.runIn page).1.value with
    | .ok x => _
    | .error f => _) = _
  rw [h]
  rfl

theorem runIn_tryCatch_ok {o : Report σ α} {k : Fault → Report σ α} {page : σ} {x : α}
    (h : (o.runIn page).1.value = .ok x) : (tryCatch o k).runIn page = o.runIn page := by
  show (match (o.runIn page).1.value with
    | .ok x => _
    | .error f => _) = _
  rw [h]
  rfl

theorem runIn_tryCatch_error {o : Report σ α} {k : Fault → Report σ α} {page : σ} {f : Fault}
    (h : (o.runIn page).1.value = .error f) :
    (tryCatch o k).runIn page =
      (((k f).runIn (o.runIn page).2).1.after (o.runIn page).1,
        ((k f).runIn (o.runIn page).2).2) := by
  show (match (o.runIn page).1.value with
    | .ok x => _
    | .error f => _) = _
  rw [h]
  rfl

/-- An action on the page has no item errors and no walks inside it. -/
def onPage (a : Act σ α) : Report σ α := fun page => (⟨(a.runIn page).1, [], []⟩, (a.runIn page).2)

/-- The values of reports one after the other, up to the first fault. -/
def inTurn : List (Report σ α) → Report σ (List α)
  | [] => return []
  | o :: rest => return (← o) :: (← inTurn rest)

def asField (list : String) (i : Nat) (child : Rule) (o : Report σ Json) : Report σ Json :=
  fun page => ((o page).1.asField list i child, (o page).2)

/-- A walk over a rule, told after those inside it. -/
def asCall (r : Rule) (scope : Option Handle) (depth : Nat) (o : Report σ Json) : Report σ Json :=
  fun page =>
    let done := o page
    ({ done.1 with calls := done.1.calls ++ [⟨r, scope, depth, done.1.value⟩] }, done.2)

end Report

namespace Walker

variable {σ : Type}

/-- What a rule comes to, by what a reading of it comes to: the reading at its target or, after a
fault, at its fallback. -/
def reportAttempt (w : Walker σ) (r : Rule) (scope : Option Handle) (depth : Nat)
    (reading : Target → Report σ Json) : Report σ Json := do
  if w.settings.maxRuleDepth < depth then throw (.maxDepthExceeded w.settings.maxRuleDepth)
  else
    match r.target scope with
    | .error f => throw f
    | .ok t =>
      let v ← tryCatch (reading t) fun first =>
        match r.fallback? with
        | some l => tryCatch (reading (.located l)) fun _ => throw first
        | none => throw first
      return r.refine v

mutual

/-- What a rule comes to at a depth, inside a scope or on the whole page. -/
def report (w : Walker σ) : Rule → Option Handle → Nat → Report σ Json
  | ⟨id, name, kind, selector, xpath, attributeName, regex, transform, multiple, optional,
      fallbackSelector, children⟩, scope, depth =>
    let r : Rule := ⟨id, name, kind, selector, xpath, attributeName, regex, transform, multiple,
      optional, fallbackSelector, children⟩
    .asCall r scope depth <| w.reportAttempt r scope depth fun t =>
      if kind ≠ .list then .onPage (w.readAt r scope t)
      else do
        let items ← .onPage (w.find scope t)
        if children.isEmpty then .onPage (w.readItems items)
        else
          return .arr (← .inTurn (items.zipIdx.map fun h => do
            return .obj (← w.reportFields name children h.2 h.1 (depth + 1) [])))

/-- What the children of a list come to for one item. -/
def reportFields (w : Walker σ) (list : String) :
    List Rule → Nat → Handle → Nat → Entries Json → Report σ (Entries Json)
  | [], _, _, _, fields => return fields
  | child :: rest, i, h, depth, fields => do
    let v ← (w.report child (some h) depth).asField list i child
    w.reportFields list rest i h depth (fields.insert child.name v)

end

end Walker

/-! ## Walks with a record -/

namespace Walk

variable {σ α β : Type}

/-- Whatever is recorded before, the walk comes to what is reported and records the item errors that
are reported. -/
def Reports (m : Walk σ α) (o : Report σ α) : Prop := ∀ page before,
  m.runIn ⟨page, before⟩ =
    ((o.runIn page).1.value, ⟨(o.runIn page).2, before ++ (o.runIn page).1.itemErrors⟩)

/-- A field, from what its child came to. -/
theorem runIn_fieldOf (list : String) (i : Nat) (child : Rule) (v : Except Fault Json)
    (s : Recording σ) :
    (fieldOf list i child v).runIn s =
      (Outcome.fieldValue v, ⟨s.page,
        if child.optional then s.itemErrors
        else s.itemErrors ++ Outcome.ownErrors list i child v⟩) := by
  unfold fieldOf
  split
  · simp [Outcome.fieldValue, Outcome.ownErrors]
  · simp [Outcome.fieldValue, Outcome.ownErrors]
  · rename_i f shallow
    rw [Outcome.fieldValue.eq_3 f shallow, Outcome.ownErrors.eq_3 list i child f shallow]
    by_cases optional : child.optional = true
    · simp [optional]
    · simp only [optional, Bool.not_false, if_true]
      rfl

/-- A child as a field. The item errors of an optional child are those behind what was recorded
before it. -/
theorem runIn_asField (list : String) (i : Nat) (child : Rule) {m : Walk σ Json}
    {s s' : Recording σ} {v : Except Fault Json} (h : m.runIn s = (v, s')) :
    (asField list i child m).runIn s =
      (Outcome.fieldValue v, ⟨s'.page,
        if child.optional then s'.itemErrors.take s.itemErrors.length
        else s'.itemErrors ++ Outcome.ownErrors list i child v⟩) := by
  have got : Act.runIn (get : Walk σ (Recording σ)) s = (.ok s, s) := rfl
  have lifted : Act.runIn (ExceptT.lift m.run) s = (.ok v, s') := by
    show (Except.ok (m.runIn s).1, (m.runIn s).2) = _
    rw [h]
  unfold asField
  rw [Act.runIn_bind_ok got, Act.runIn_bind_ok lifted]
  by_cases optional : child.optional = true
  · have cut : Act.runIn (modify fun r => ⟨r.page, r.itemErrors.take s.itemErrors.length⟩ :
        Walk σ PUnit) s' = (.ok (), ⟨s'.page, s'.itemErrors.take s.itemErrors.length⟩) := rfl
    rw [if_pos optional, if_pos optional, Act.runIn_bind_ok cut, runIn_fieldOf, if_pos optional]
  · rw [if_neg optional, if_neg optional, runIn_fieldOf, if_neg optional]

namespace Reports

variable {m : Walk σ α} {o : Report σ α}

/-- Nothing is recorded where nothing is reported. -/
theorem of_none (h : ∀ page before, m.runIn ⟨page, before⟩ =
      ((o.runIn page).1.value, ⟨(o.runIn page).2, before⟩))
    (none : ∀ page, (o.runIn page).1.itemErrors = []) : m.Reports o := by
  intro page before
  rw [h, none, List.append_nil]

theorem pure (x : α) : Reports (Pure.pure x : Walk σ α) (Pure.pure x) :=
  of_none (fun _ _ => rfl) fun _ => rfl

theorem throw (f : Fault) :
    Reports (MonadExcept.throw f : Walk σ α) (MonadExcept.throw f : Report σ α) :=
  of_none (fun _ _ => rfl) fun _ => rfl

theorem onPage (a : Act σ α) : Reports (Walk.onPage a) (.onPage a) :=
  of_none (fun _ _ => rfl) fun _ => rfl

theorem bind {k : α → Walk σ β} {l : α → Report σ β} (h : m.Reports o)
    (hk : ∀ x, (k x).Reports (l x)) : Reports (m >>= k) (o >>= l) := by
  intro page before
  cases hv : (o.runIn page).1.value with
  | ok x =>
    rw [Act.runIn_bind_ok (hv ▸ h page before), hk x, Report.runIn_bind_ok hv, List.append_assoc]
    rfl
  | error f =>
    rw [Act.runIn_bind_error (hv ▸ h page before), Report.runIn_bind_error hv]

theorem tryCatch {k : Fault → Walk σ α} {l : Fault → Report σ α} (h : m.Reports o)
    (hk : ∀ f, (k f).Reports (l f)) :
    Reports (MonadExcept.tryCatch m k) (MonadExcept.tryCatch o l) := by
  intro page before
  rw [Act.runIn_tryCatch, h page before]
  cases hv : (o.runIn page).1.value with
  | ok x =>
    rw [Report.runIn_tryCatch_ok hv, hv]
  | error f =>
    show (k f).runIn _ = _
    rw [hk f, Report.runIn_tryCatch_error hv, List.append_assoc]
    rfl

/-- Telling of a walk changes nothing of it. -/
theorem asCall {m : Walk σ Json} {o : Report σ Json} (h : m.Reports o) (r : Rule)
    (scope : Option Handle) (depth : Nat) : m.Reports (o.asCall r scope depth) :=
  h

/-- Walks that report what their partners in the list say. -/
theorem mapM {ι : Type} {k : ι → Walk σ α} {l : ι → Report σ α} (hk : ∀ x, (k x).Reports (l x))
    (xs : List ι) : Reports (xs.mapM k) (.inTurn (xs.map l)) := by
  induction xs with
  | nil =>
    rw [List.mapM_nil]
    exact .pure _
  | cons x xs ih =>
    rw [List.mapM_cons]
    exact .bind (hk x) fun v => .bind ih fun vs => .pure _

/-- The errors below an optional child are those behind what was recorded before it. -/
theorem asField {m : Walk σ Json} {o : Report σ Json} (h : m.Reports o) (list : String) (i : Nat)
    (child : Rule) : Reports (Walk.asField list i child m) (o.asField list i child) := by
  intro page before
  rw [runIn_asField list i child (h page before)]
  show _ = (Outcome.fieldValue _, (⟨_, before ++ ite _ _ _⟩ : Recording σ))
  by_cases optional : child.optional = true
  · rw [if_pos optional, if_pos optional, List.append_nil]
    exact congrArg _ (congrArg _ List.take_left)
  · rw [if_neg optional, if_neg optional, List.append_assoc]
    rfl

end Reports

end Walk

namespace Walker

variable {σ : Type} (w : Walker σ)

theorem attempt_reports (r : Rule) (scope : Option Handle) (depth : Nat)
    {reading : Target → Walk σ Json} {reported : Target → Report σ Json}
    (h : ∀ t, (reading t).Reports (reported t)) :
    (w.attempt r scope depth reading).Reports (w.reportAttempt r scope depth reported) := by
  unfold attempt reportAttempt
  by_cases deep : w.settings.maxRuleDepth < depth
  · rw [if_pos deep, if_pos deep]
    exact .throw _
  · rw [if_neg deep, if_neg deep]
    cases r.target scope with
    | error f => exact .throw f
    | ok t =>
      refine .bind (.tryCatch (h t) fun first => ?_) fun v => .pure _
      cases r.fallback? with
      | none => exact .throw first
      | some l => exact .tryCatch (h _) fun _ => .throw first

mutual

/-- A walk over a rule records the item errors of the rule, behind those that are there. -/
theorem walk_reports : ∀ (r : Rule) (scope : Option Handle) (depth : Nat),
    (w.walk r scope depth).Reports (w.report r scope depth)
  | ⟨id, name, kind, selector, xpath, attributeName, regex, transform, multiple, optional,
      fallbackSelector, children⟩, scope, depth => by
    unfold walk report
    refine .asCall (w.attempt_reports _ scope depth fun t => ?_) _ scope depth
    by_cases list : kind ≠ .list
    · rw [if_pos list, if_pos list]
      exact .onPage _
    · rw [if_neg list, if_neg list]
      refine .bind (.onPage _) fun items => ?_
      by_cases empty : children.isEmpty = true
      · rw [if_pos empty, if_pos empty]
        exact .onPage _
      · rw [if_neg empty, if_neg empty]
        refine .bind (.mapM (fun h => ?_) _) fun _ => .pure _
        exact .bind (walkFields_reports name children h.2 h.1 (depth + 1) []) fun _ => .pure _

theorem walkFields_reports (list : String) : ∀ (children : List Rule) (i : Nat) (h : Handle)
    (depth : Nat) (fields : Entries Json),
    (w.walkFields list children i h depth fields).Reports
      (w.reportFields list children i h depth fields)
  | [], i, h, depth, fields => by
    unfold walkFields reportFields
    exact .pure fields
  | child :: rest, i, h, depth, fields => by
    unfold walkFields reportFields
    refine .bind ((walk_reports child (some h) depth).asField list i child) fun v => ?_
    exact walkFields_reports list rest i h depth _

end

end Walker

end PageHarvest
