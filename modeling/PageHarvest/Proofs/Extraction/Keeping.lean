import PageHarvest.Proofs.Extraction.ErrorLines
import PageHarvest.Proofs.Extraction.Failing

/-!
# Invariants of reports

What holds of all that a report tells, whatever the page does: of its fault, of each item error and
of each walk in it. An invariant is shown for the parts of a report and kept by all that puts
reports together.

* `Report.Keeps`: the invariant, with a lemma for each way to put reports together;
* `Walker.reading`: what a walk does at a target, of which a report is made (`report_eq`);
* `Call.IsWalk`: a walk in a report is what the same walk comes to by itself.
-/

namespace PageHarvest

variable {σ α β : Type}

/-- What holds of the fault of an outcome, of each of its item errors and of each walk in it. -/
structure Outcome.Keeps (F : Fault → Prop) (E : String → Prop) (P : Call → Prop) (o : Outcome α) :
    Prop where
  fault : ∀ f, o.value = .error f → F f
  itemErrors : ∀ e ∈ o.itemErrors, E e
  calls : ∀ c ∈ o.calls, P c

/-- In every state of the page, the outcome is of this kind. -/
def Report.Keeps (F : Fault → Prop) (E : String → Prop) (P : Call → Prop) (o : Report σ α) : Prop :=
  ∀ page, (o.runIn page).1.Keeps F E P

namespace Report.Keeps

variable {F G : Fault → Prop} {E E' : String → Prop} {P P' : Call → Prop} {o : Report σ α}

theorem pure (x : α) : Keeps F E P (Pure.pure x : Report σ α) := fun _ => ⟨nofun, nofun, nofun⟩

theorem throw {f : Fault} (h : F f) : Keeps F E P (MonadExcept.throw f : Report σ α) := by
  refine fun _ => ⟨?_, nofun, nofun⟩
  rintro _ ⟨⟩
  exact h

theorem onPage {a : Act σ α} (h : a.FailsWith F) : (onPage a).Keeps F E P :=
  fun page => ⟨h page, nofun, nofun⟩

theorem mono (h : o.Keeps F E P) (faults : ∀ f, F f → G f) (errors : ∀ e, E e → E' e)
    (calls : ∀ c, P c → P' c) : o.Keeps G E' P' := fun page =>
  { fault := fun f failed => faults f ((h page).fault f failed)
    itemErrors := fun e he => errors e ((h page).itemErrors e he)
    calls := fun c hc => calls c ((h page).calls c hc) }

/-- An outcome that follows another one, of which only the fault is forgotten. -/
theorem after {first : Outcome β} {o : Outcome α} (hf : first.Keeps F E P) (ho : o.Keeps G E P) :
    (o.after first).Keeps G E P where
  fault := ho.fault
  itemErrors e he := (List.mem_append.1 he).elim (hf.itemErrors e) (ho.itemErrors e)
  calls c hc := (List.mem_append.1 hc).elim (hf.calls c) (ho.calls c)

theorem bind {k : α → Report σ β} (h : o.Keeps F E P) (hk : ∀ x, (k x).Keeps F E P) :
    Keeps F E P (o >>= k) := by
  intro page
  cases hv : (o.runIn page).1.value with
  | ok x =>
    rw [runIn_bind_ok hv]
    exact after (h page) (hk x _)
  | error f =>
    rw [runIn_bind_error hv]
    refine ⟨?_, (h page).itemErrors, (h page).calls⟩
    rintro _ ⟨⟩
    exact (h page).fault f hv

/-- The fault of the first report is known to the handler alone. -/
theorem tryCatch {k : Fault → Report σ α} (h : o.Keeps F E P) (hk : ∀ f, F f → (k f).Keeps G E P) :
    Keeps G E P (MonadExcept.tryCatch o k) := by
  intro page
  cases hv : (o.runIn page).1.value with
  | ok x =>
    rw [runIn_tryCatch_ok hv]
    refine ⟨fun f failed => ?_, (h page).itemErrors, (h page).calls⟩
    rw [hv] at failed
    cases failed
  | error f =>
    rw [runIn_tryCatch_error hv]
    exact after (h page) (hk f ((h page).fault f hv) _)

theorem inTurn {os : List (Report σ α)} (h : ∀ o ∈ os, o.Keeps F E P) :
    (inTurn os).Keeps F E P := by
  induction os with
  | nil => exact .pure _
  | cons o rest ih =>
    refine .bind (h o List.mem_cons_self) fun x => .bind (ih fun q hq => ?_) fun _ => .pure _
    exact h q (List.mem_cons_of_mem _ hq)

/-- A field has the fault of its child only if that is nested too deep. Unless the child is
optional, its item errors are kept, and its fault becomes one of them. -/
theorem asField {o : Report σ Json} (h : o.Keeps F E P) {list : String} {i : Nat} {child : Rule}
    (deep : ∀ d, F (.maxDepthExceeded d) → G (.maxDepthExceeded d))
    (inner : child.optional = false → ∀ e, E e → E' e)
    (own : child.optional = false → ∀ f, F f → E' (itemHead list i child.name ++ f.message)) :
    (o.asField list i child).Keeps G E' P := by
  intro page
  have kept := h page
  refine ⟨fun f failed => ?_, fun e he => ?_, kept.calls⟩
  · have failed : Outcome.fieldValue (o.runIn page).1.value = .error f := failed
    cases hv : (o.runIn page).1.value with
    | ok v =>
      rw [hv] at failed
      cases failed
    | error g =>
      rw [hv] at failed
      cases g with
      | maxDepthExceeded d =>
        cases failed
        exact deep d (kept.fault _ hv)
      | _ => cases failed
  · have he : e ∈ ((o.runIn page).1.asField list i child).itemErrors := he
    by_cases optional : child.optional = true
    · rw [Outcome.asField, if_pos optional] at he
      cases he
    · rw [Outcome.asField, if_neg optional] at he
      have required : child.optional = false := Bool.eq_false_iff.2 optional
      rcases List.mem_append.1 he with he | he
      · exact inner required e (kept.itemErrors e he)
      · unfold Outcome.ownErrors at he
        split at he
        · cases he
        · cases he
        · rename_i f _ hv
          rw [List.mem_singleton.1 he]
          exact own required f (kept.fault f hv)

/-- The walk that is told last has the value of the report. -/
theorem asCall {o : Report σ Json} (h : o.Keeps F E P) {r : Rule} {scope : Option Handle}
    {depth : Nat} (own : ∀ page, P ⟨r, scope, depth, (o.runIn page).1.value⟩) :
    (o.asCall r scope depth).Keeps F E P := by
  intro page
  refine ⟨(h page).fault, (h page).itemErrors, fun c hc => ?_⟩
  rcases List.mem_append.1 hc with inner | last
  · exact (h page).calls c inner
  · rw [List.mem_singleton.1 last]
    exact own page

end Report.Keeps

namespace Walker

variable (w : Walker σ)

/-- What an item of a list comes to. -/
def reportItem (r : Rule) (depth : Nat) (item : Handle × Nat) : Report σ Json := do
  return .obj (← w.reportFields r.name r.children item.2 item.1 depth [])

/-- What a reading of a rule at a target comes to. -/
def reading (r : Rule) (scope : Option Handle) (depth : Nat) (t : Target) : Report σ Json :=
  if r.kind ≠ .list then .onPage (w.readAt r scope t)
  else do
    let items ← .onPage (w.find scope t)
    if r.children.isEmpty then .onPage (w.readItems items)
    else return .arr (← .inTurn (items.zipIdx.map (w.reportItem r (depth + 1))))

theorem report_eq (r : Rule) (scope : Option Handle) (depth : Nat) :
    w.report r scope depth =
      .asCall r scope depth (w.reportAttempt r scope depth (w.reading r scope depth)) := by
  cases r
  rw [report]
  rfl

/-- Whoever looks for elements fails if they cannot be looked for. -/
theorem reading_of_find_error {w : Walker σ} {r : Rule} (looks : r.kind ≠ .metadata)
    (looks' : r.kind ≠ .screenshot) {scope : Option Handle} {depth : Nat} {t : Target} {page : σ}
    {f : Fault} (failed : ((w.find scope t).runIn page).1 = .error f) :
    ((w.reading r scope depth t).runIn page).1.value = .error f := by
  have stops {α : Type} (k : List Handle → Act σ α) :
      ((w.find scope t >>= k).runIn page).1 = .error f := by
    rw [Act.runIn_bind_error (Prod.ext failed rfl)]
  unfold reading
  by_cases list : r.kind ≠ .list
  · rw [if_pos list]
    show ((w.readAt r scope t).runIn page).1 = .error f
    unfold readAt
    split
    · exact absurd ‹_› looks
    · exact absurd ‹_› looks'
    all_goals exact stops _
  · have found : ((Report.onPage (w.find scope t)).runIn page).1.value = .error f := failed
    rw [if_neg list, Report.runIn_bind_error found]

section

variable {w} {r : Rule} {scope : Option Handle} {depth : Nat} {t : Target} {page : σ}
  (shallow : depth ≤ w.settings.maxRuleDepth) (target : r.target scope = .ok t)

include shallow target

/-- What is read at the target is refined, and the fallback left alone. -/
theorem reportAttempt_of_reading_ok {v : Json}
    (read : ((w.reading r scope depth t).runIn page).1.value = .ok v) :
    (w.reportAttempt r scope depth (w.reading r scope depth)).runIn page =
      (⟨.ok (r.refine v), ((w.reading r scope depth t).runIn page).1.itemErrors,
          ((w.reading r scope depth t).runIn page).1.calls⟩,
        ((w.reading r scope depth t).runIn page).2) := by
  unfold reportAttempt
  rw [if_neg (Nat.not_lt.2 shallow), target]
  dsimp only
  rw [Report.runIn_bind_ok (by rw [Report.runIn_tryCatch_ok read, read]),
    Report.runIn_tryCatch_ok read]
  refine Prod.ext ?_ rfl
  show Outcome.mk _ (_ ++ []) (_ ++ []) = _
  rw [List.append_nil, List.append_nil]
  rfl

/-- A rule comes to what is read at its target. -/
theorem report_of_reading_ok {v : Json}
    (read : ((w.reading r scope depth t).runIn page).1.value = .ok v) :
    ((w.report r scope depth).runIn page).1.value = .ok (r.refine v) ∧
      ((w.report r scope depth).runIn page).1.itemErrors =
        ((w.reading r scope depth t).runIn page).1.itemErrors := by
  have attempt := reportAttempt_of_reading_ok shallow target read
  rw [report_eq]
  exact ⟨congrArg (·.1.value) attempt, congrArg (·.1.itemErrors) attempt⟩

/-- The rest of the rule leaves the page as the reading did. -/
theorem report_snd_of_reading_ok {v : Json}
    (read : ((w.reading r scope depth t).runIn page).1.value = .ok v) :
    ((w.report r scope depth).runIn page).2 = ((w.reading r scope depth t).runIn page).2 := by
  have attempt := reportAttempt_of_reading_ok shallow target read
  rw [report_eq]
  exact congrArg (·.2) attempt

/-- Without a fallback, the fault of a reading is the fault of its rule. -/
theorem report_of_reading_error {f : Fault} (none : r.fallback? = none)
    (failed : ((w.reading r scope depth t).runIn page).1.value = .error f) :
    ((w.report r scope depth).runIn page).1.value = .error f := by
  suffices attempt : ((w.reportAttempt r scope depth (w.reading r scope depth)).runIn
      page).1.value = .error f by
    rw [report_eq]
    exact attempt
  unfold reportAttempt
  rw [if_neg (Nat.not_lt.2 shallow), target]
  dsimp only
  rw [none, Report.runIn_bind_error]
  rw [Report.runIn_tryCatch_error failed]
  rfl

end

end Walker

/-- The call is a walk from some state of the page, whatever was recorded before. -/
def Call.IsWalk (w : Walker σ) (c : Call) : Prop := ∃ page, ∀ before,
  ((w.walk c.rule c.scope c.depth).runIn ⟨page, before⟩).1 = c.value

/-- A walk comes to what is reported of it. -/
theorem Call.IsWalk.exists_report {w : Walker σ} {c : Call} (h : c.IsWalk w) :
    ∃ page, ((w.report c.rule c.scope c.depth).runIn page).1.value = c.value := by
  obtain ⟨page, walked⟩ := h
  refine ⟨page, ?_⟩
  rw [← walked [], w.walk_reports c.rule c.scope c.depth]

namespace Walker

variable {w : Walker σ} {F : Fault → Prop} {E : String → Prop} {P : Call → Prop}

/-- A reading, by what is read from the page and, of a list, by the fields of its items. -/
theorem reading_keeps {r : Rule} {scope : Option Handle} {depth : Nat} {t : Target}
    (read : (w.readAt r scope t).FailsWith F) (find : (w.find scope t).FailsWith F)
    (readItems : ∀ items, (w.readItems items).FailsWith F)
    (fields : r.kind = .list → ∀ i h,
      (w.reportFields r.name r.children i h (depth + 1) []).Keeps F E P) :
    (w.reading r scope depth t).Keeps F E P := by
  unfold reading
  by_cases list : r.kind ≠ .list
  · rw [if_pos list]
    exact .onPage read
  · rw [if_neg list]
    refine .bind (.onPage find) fun items => ?_
    by_cases empty : r.children.isEmpty = true
    · rw [if_pos empty]
      exact .onPage (readItems items)
    · rw [if_neg empty]
      refine .bind (.inTurn fun o ho => ?_) fun _ => .pure _
      obtain ⟨item, _, rfl⟩ := List.mem_map.1 ho
      exact .bind (fields (not_not.1 list) item.2 item.1) fun _ => .pure _

/-- The report of a rule, by what it comes to at its target and at its fallback. -/
theorem report_keeps {r : Rule} {scope : Option Handle} {depth : Nat}
    (attempt : (w.reportAttempt r scope depth (w.reading r scope depth)).Keeps F E P)
    (own : ∀ v, Call.IsWalk w ⟨r, scope, depth, v⟩ → (∀ f, v = .error f → F f) →
      P ⟨r, scope, depth, v⟩) : (w.report r scope depth).Keeps F E P := by
  rw [report_eq]
  refine .asCall attempt fun page => own _ ⟨page, fun before => ?_⟩ (attempt page).fault
  rw [w.walk_reports r scope depth page before, report_eq]
  rfl

end Walker

end PageHarvest
