import PageHarvest.Proofs.Flow.Loops

/-!
# What expansions write

A loop writes its variable and its index, and nothing else writes at all. Every iteration writes
both, so of all the writes only those of the last one are left.

* `Loop.contextAfter_succ`: the context after some iterations holds the bindings of the last;
* `Control.expand_cases`: a control step unrolls a loop or leaves the context alone;
* `Control.expand_writes`: what follows for the context after a control step.
-/

namespace PageHarvest

variable {start after : Context} {names : List String}

/-! ## Contexts and loops -/

theorem Context.get?_setVariables_of_not_mem {bindings : Entries Json} {name : String}
    (other : name ∉ bindings.keys) :
    (start.setVariables bindings).vars.get? name = start.vars.get? name := by
  rw [setVariables, Entries.get?_overwrite_of_not_mem other]

namespace Loop

variable {l : Loop}

/-- Every iteration binds these names, each of them once. -/
structure Binds (l : Loop) (names : List String) : Prop where
  keys : ∀ k, (l.bindings k).keys = names
  distinct : names.Nodup

theorem contextAfter_succ (binds : l.Binds names) (start : Context) (n : Nat) :
    l.contextAfter start (n + 1) = start.setVariables (l.bindings n) := by
  induction n with
  | zero => rfl
  | succ n ih =>
    have distinct : (l.bindings n).keys.Nodup := by
      rw [binds.keys]
      exact binds.distinct
    have same : (l.bindings (n + 1)).keys = (l.bindings n).keys := by rw [binds.keys, binds.keys]
    rw [contextAfter, ih, Context.setVariables, Context.setVariables, Context.setVariables,
      Entries.overwrite_overwrite distinct same]

/-- What no iteration binds is never changed. -/
theorem Binds.contextAfter_kept (binds : l.Binds names) (start : Context) (n : Nat) :
    (l.contextAfter start n).results = start.results ∧
      ∀ name, name ∉ names →
        (l.contextAfter start n).vars.get? name = start.vars.get? name := by
  cases n with
  | zero => exact ⟨rfl, fun _ _ => rfl⟩
  | succ n =>
    rw [contextAfter_succ binds]
    refine ⟨rfl, fun name other => Context.get?_setVariables_of_not_mem ?_⟩
    rwa [binds.keys]

theorem getLast?_iterations (l : Loop) (n : Nat) (truncated : Bool) :
    (l.repeated 0 (n + 1) truncated).iterations.getLast? =
      some ⟨n, l.bindings n, l.body.length⟩ := by
  simp [repeated, List.getLast?_range']

end Loop

namespace Expansion

/-- The context after an expansion is the one before it, with the bindings of the last iteration if
there is any. -/
def Wrote (e : Expansion) (start after : Context) : Prop :=
  match e.iterations.getLast? with
  | some last => after = start.setVariables last.bindings
  | none => after = start

theorem wrote_unrolled {l : Loop} (binds : l.Binds names) (start : Context) (cap : Nat) :
    (l.unrolled start cap 0).1.Wrote start (l.unrolled start cap 0).2 := by
  simp only [Loop.unrolled, Nat.zero_add]
  cases l.count cap 0 with
  | zero => rfl
  | succ n =>
    rw [Wrote, Loop.getLast?_iterations]
    exact Loop.contextAfter_succ binds start n

end Expansion

/-! ## Control steps -/

/-- The names that a loop over a variable binds. -/
def loopNames (loopVar : String) : List String :=
  if loopVar = loopIndex then [loopIndex] else [loopVar, loopIndex]

theorem keys_loopBindings (loopVar : String) (value : Json) (k : Nat) :
    (loopBindings loopVar value k).keys = loopNames loopVar := by
  rw [loopBindings_eq, loopNames]
  split <;> rfl

theorem nodup_loopNames (loopVar : String) : (loopNames loopVar).Nodup := by
  rw [loopNames]
  split
  · exact List.nodup_singleton _
  · rename_i other
    simpa using other

namespace Control

open Loop

/-- The variables that a control step may write. -/
def written : Control → List String
  | branch .. | switch .. => []
  | repeatWhile .. => [loopIndex]
  | countUp loopVar .. => loopNames (loopVar.getD "i")
  | forEach loopVar .. => loopNames (loopVar.getD "item")

theorem expand_cases (caps : LoopCaps) (start : Context) (c : Control) :
    (∃ (l : Loop) (cap : Nat), l.Binds c.written ∧
        expand caps start c = l.unrolled start cap 0) ∨
      ∃ steps, expand caps start c = (Expansion.ofSteps steps, start) := by
  cases c with
  | branch condition thenSteps elseSteps => exact .inr ⟨_, rfl⟩
  | switch value cases default => exact .inr ⟨_, rfl⟩
  | repeatWhile condition body cap =>
    have binds : (conditional start condition body).Binds [loopIndex] :=
      ⟨fun _ => rfl, List.nodup_singleton _⟩
    exact .inl ⟨_, _, binds, expandWhile_eq start condition body _⟩
  | countUp loopVar first stop step body cap =>
    refine .inl ⟨_, _, ⟨fun k => ?_, nodup_loopNames _⟩, expandCount_eq start _ _ _ _ body _⟩
    exact keys_loopBindings _ _ k
  | forEach loopVar source body cap =>
    rw [expand]
    split
    · refine .inl ⟨_, _, ⟨fun k => ?_, nodup_loopNames _⟩, expandItems_eq start _ _ body _⟩
      exact keys_loopBindings _ _ k
    · exact .inr ⟨[], rfl⟩

theorem expand_choice (caps : LoopCaps) (start : Context) {c : Control}
    (choice : c.kind = "if" ∨ c.kind = "switch") : (expand caps start c).2 = start := by
  cases c with
  | branch | switch => rfl
  | repeatWhile | countUp | forEach => simp [kind] at choice

/-- A control step changes no result, and no variable but those of its loop. A choice changes
nothing. The context after a loop is the one before it, with the bindings of the last iteration. -/
theorem expand_writes (caps : LoopCaps) (start : Context) (c : Control) :
    let result := expand caps start c
    result.2.results = start.results ∧
      (∀ name, name ∉ c.written → result.2.vars.get? name = start.vars.get? name) ∧
      (c.kind = "if" ∨ c.kind = "switch" → result.2 = start) ∧
      result.1.Wrote start result.2 := by
  intro result
  obtain ⟨l, cap, binds, unrolls⟩ | ⟨steps, plain⟩ := expand_cases caps start c
  · have result_eq : result = l.unrolled start cap 0 := unrolls
    have kept := binds.contextAfter_kept start (0 + l.count cap 0)
    refine ⟨?_, ?_, expand_choice caps start, ?_⟩
    · rw [result_eq]
      exact kept.1
    · rw [result_eq]
      exact kept.2
    · rw [result_eq]
      exact Expansion.wrote_unrolled binds start cap
  · have result_eq : result = (Expansion.ofSteps steps, start) := plain
    rw [result_eq]
    exact ⟨rfl, fun _ _ => rfl, fun _ => rfl, rfl⟩

/-- A loop over a variable named as the index writes no other, and a choice writes none. -/
theorem expand_writes_own_index :
    let c := forEach (some "_loopIndex") (.arr [.null, .bool true]) [] none
    let start : Context := ⟨[("z", .null)], [("_loopIndex", .null)]⟩
    let after := (expand {} start c).2
    ("z" ∉ c.written ∧ after.vars.get? "z" = some .null) ∧
      (branch (.expression "z") [] []).kind = "if" ∧
      (expand {} start (branch (.expression "z") [] [])).2 = start := by
  intro c start after
  have other : "z" ∉ c.written := by decide
  have choice : (branch (.expression "z") [] []).kind = "if" := rfl
  exact ⟨⟨other, (expand_writes {} start c).2.1 "z" other⟩, choice,
    (expand_writes {} start (branch (.expression "z") [] [])).2.2.1 (.inl choice)⟩

end Control

end PageHarvest
