import PageHarvest.Page.Basic

/-!
# Runs of actions

What an action made of others comes to, and the state it leaves, in terms of the runs of its parts.
-/

namespace PageHarvest.Act

variable {ι σ α β : Type}

@[simp] theorem runIn_pure (x : α) (s : σ) : (pure x : Act σ α).runIn s = (.ok x, s) := rfl

@[simp] theorem runIn_throw (f : Fault) (s : σ) : (throw f : Act σ α).runIn s = (.error f, s) := rfl

@[simp] theorem runIn_get (s : σ) : runIn (get : Act σ σ) s = (.ok s, s) := rfl

theorem runIn_eq_of_ok {a : Act σ α} {s : σ} {x : α} (h : (a.runIn s).1.toOption = some x) :
    a.runIn s = (.ok x, (a.runIn s).2) := by
  rcases hr : a.runIn s with ⟨_ | y, s'⟩
  · rw [hr] at h
    cases h
  · rw [hr] at h
    cases h
    rfl

/-- An action whose outcome is looked at does not fail. -/
theorem runIn_lift (a : Act σ α) (s : σ) :
    runIn (ExceptT.lift a.run : Act σ (Except Fault α)) s = (.ok (a.runIn s).1, (a.runIn s).2) :=
  rfl

/-- What follows an action starts where that ended, unless it failed. -/
theorem runIn_bind (a : Act σ α) (k : α → Act σ β) (s : σ) :
    (a >>= k).runIn s =
      match a.runIn s with
      | (.ok x, s') => (k x).runIn s'
      | (.error f, s') => (.error f, s') := by
  show (ExceptT.bindCont k (a.runIn s).1) (a.runIn s).2 = _
  rcases a.runIn s with ⟨_ | _, _⟩ <;> rfl

theorem runIn_bind_ok {a : Act σ α} {k : α → Act σ β} {s s' : σ} {x : α}
    (h : a.runIn s = (.ok x, s')) : (a >>= k).runIn s = (k x).runIn s' := by
  rw [runIn_bind, h]

theorem runIn_bind_error {a : Act σ α} {k : α → Act σ β} {s s' : σ} {f : Fault}
    (h : a.runIn s = (.error f, s')) : (a >>= k).runIn s = (.error f, s') := by
  rw [runIn_bind, h]

theorem runIn_bind_eq_ok {a : Act σ α} {k : α → Act σ β} {s s' : σ} {y : β} :
    (a >>= k).runIn s = (.ok y, s') ↔
      ∃ x s₁, a.runIn s = (.ok x, s₁) ∧ (k x).runIn s₁ = (.ok y, s') := by
  constructor
  · intro run
    rw [runIn_bind] at run
    split at run
    · rename_i x s₁ first
      exact ⟨x, s₁, first, run⟩
    · cases run
  · rintro ⟨x, s₁, first, second⟩
    exact (runIn_bind_ok first).trans second

/-- Actions in a row come to one value each. -/
theorem runIn_mapM_ok {s s' : σ} {k : ι → Act σ α} {l : ι → Act σ β} {f : α → β}
    (each : ∀ x s v s', (k x).runIn s = (.ok v, s') → (l x).runIn s = (.ok (f v), s'))
    {xs : List ι} {vs : List α} (run : (xs.mapM k).runIn s = (.ok vs, s')) :
    vs.length = xs.length ∧ (xs.mapM l).runIn s = (.ok (vs.map f), s') := by
  induction xs generalizing s vs with
  | nil =>
    rw [List.mapM_nil] at run
    cases run
    exact ⟨rfl, rfl⟩
  | cons x xs ih =>
    rw [List.mapM_cons] at run ⊢
    obtain ⟨v, s₁, first, run⟩ := runIn_bind_eq_ok.1 run
    obtain ⟨vs', s₂, later, last⟩ := runIn_bind_eq_ok.1 run
    cases last
    obtain ⟨length, mapped⟩ := ih later
    refine ⟨congrArg Nat.succ length, ?_⟩
    rw [runIn_bind_ok (each x s v s₁ first), runIn_bind_ok mapped]
    rfl

/-- What actions in a row come to is what is added up, if each step runs the action of its own and
adds its value. -/
theorem runIn_foldlM_ok {s s' : σ} {k : ι → Act σ α} {step : β → ι → Act σ β} {add : β → α → β}
    (each : ∀ b x s v s', (k x).runIn s = (.ok v, s') → (step b x).runIn s = (.ok (add b v), s'))
    {xs : List ι} {vs : List α} (run : (xs.mapM k).runIn s = (.ok vs, s')) (b : β) :
    (xs.foldlM step b).runIn s = (.ok (vs.foldl add b), s') := by
  induction xs generalizing s vs b with
  | nil =>
    rw [List.mapM_nil] at run
    cases run
    rfl
  | cons x xs ih =>
    rw [List.mapM_cons] at run
    obtain ⟨v, s₁, first, run⟩ := runIn_bind_eq_ok.1 run
    obtain ⟨vs', s₂, later, last⟩ := runIn_bind_eq_ok.1 run
    cases last
    rw [List.foldlM_cons, runIn_bind_ok (each b x s v s₁ first)]
    exact ih later (add b v)

/-- A handler starts where the action failed. -/
theorem runIn_tryCatch (a : Act σ α) (k : Fault → Act σ α) (s : σ) :
    (tryCatch a k).runIn s =
      match a.runIn s with
      | (.ok x, s') => (.ok x, s')
      | (.error f, s') => (k f).runIn s' := by
  show runIn (ExceptT.tryCatch a k) s = _
  simp only [runIn, ExceptT.tryCatch, ExceptT.mk, bind, StateT.bind]
  rcases a s with ⟨_ | _, _⟩ <;> rfl

end PageHarvest.Act
