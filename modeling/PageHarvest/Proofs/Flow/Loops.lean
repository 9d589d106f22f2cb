import PageHarvest.Flow.Expansion
import PageHarvest.Proofs.Data.Entries
import PageHarvest.Proofs.Decimal.Integers

/-!
# Loops and their iterations

What a loop does is given by its body, by what each iteration binds, and by whether it goes on to an
iteration. The three kinds of loop differ in nothing else. A loop never looks at its cap but to stop
there, so under a greater one it does the same for longer.

* `Loop.unrolled`: a loop under a cap in closed form, by the number of its iterations;
* `expandWhile_eq`, `expandCount_eq`, `expandItems_eq`: each kind unrolls its own loop;
* `Loop.Unrolls`: the iterations end where the loop does not go on, or at the cap;
* `Loop.count_succ`: a loop that goes on uses one more iteration of room, and no other loop does;
* `Control.expand_withCap`: what follows for the expansions of one step under two caps.
-/

namespace PageHarvest

/-! ## Loops -/

/-- A loop: its body, what its iterations bind, and whether it goes on to an iteration. -/
structure Loop where
  body : List Step
  bindings : Nat → Entries Json
  goesOn : Nat → Bool

namespace Loop

variable (l : Loop) {start : Context} {room index : Nat}

/-- The number of iterations from an index on, with `room` left before the cap. -/
def count (l : Loop) : (room index : Nat) → Nat
  | 0, _ => 0
  | room + 1, index => if l.goesOn index then l.count room (index + 1) + 1 else 0

/-- The expansion by `n` iterations from an index on. -/
def repeated (index n : Nat) (truncated : Bool) : Expansion where
  steps := (List.replicate n l.body).flatten
  iterations := (List.range' index n).map fun k => ⟨k, l.bindings k, l.body.length⟩
  truncated := truncated

/-- The context after the first `n` iterations. -/
def contextAfter (l : Loop) (start : Context) : Nat → Context
  | 0 => start
  | n + 1 => (l.contextAfter start n).setVariables (l.bindings n)

/-- The expansion from an index on and the context after it: truncated if the loop would go on. -/
def unrolled (start : Context) (room index : Nat) : Expansion × Context :=
  let n := l.count room index
  (l.repeated index n (l.goesOn (index + n)), l.contextAfter start (index + n))

theorem repeated_zero (truncated : Bool) : l.repeated index 0 truncated = ⟨[], [], truncated⟩ := rfl

theorem repeated_succ (n : Nat) (truncated : Bool) :
    l.repeated index (n + 1) truncated =
      (l.repeated (index + 1) n truncated).cons index (l.bindings index) l.body := by
  simp [repeated, Expansion.cons, List.replicate_succ, List.range'_succ]

variable {l}

theorem count_of_ends (ends : l.goesOn index = false) : l.count room index = 0 := by
  cases room <;> simp [count, ends]

theorem count_of_goesOn (on : l.goesOn index = true) :
    l.count (room + 1) index = l.count room (index + 1) + 1 := by
  rw [count, if_pos on]

theorem unrolled_of_ends (ends : l.goesOn index = false) :
    l.unrolled start room index = (Expansion.empty, l.contextAfter start index) := by
  rw [unrolled, count_of_ends ends, repeated_zero, Nat.add_zero, ends]
  rfl

theorem unrolled_zero (on : l.goesOn index = true) :
    l.unrolled start 0 index = (⟨[], [], true⟩, l.contextAfter start index) := by
  rw [unrolled, count, repeated_zero, Nat.add_zero, on]

theorem unrolled_succ (on : l.goesOn index = true) :
    l.unrolled start (room + 1) index =
      ((l.unrolled start room (index + 1)).1.cons index (l.bindings index) l.body,
        (l.unrolled start room (index + 1)).2) := by
  have last : index + l.count (room + 1) index = index + 1 + l.count room (index + 1) := by
    rw [count_of_goesOn on, ← Nat.add_assoc, Nat.add_right_comm]
  simp only [unrolled, last]
  rw [count_of_goesOn on, repeated_succ]

/-- What stops, is capped and goes on as a loop does is the loop unrolled. -/
theorem eq_unrolled {f : (room index : Nat) → Context → Expansion × Context}
    (stops : ∀ room index, l.goesOn index = false →
      f room index (l.contextAfter start index) = (Expansion.empty, l.contextAfter start index))
    (capped : ∀ index, l.goesOn index = true →
      f 0 index (l.contextAfter start index) = (⟨[], [], true⟩, l.contextAfter start index))
    (goes : ∀ room index, l.goesOn index = true →
      f (room + 1) index (l.contextAfter start index) =
        let (e, context) := f room (index + 1) (l.contextAfter start (index + 1))
        (e.cons index (l.bindings index) l.body, context))
    (room index : Nat) :
    f room index (l.contextAfter start index) = l.unrolled start room index := by
  induction room generalizing index with
  | zero =>
    cases on : l.goesOn index with
    | false => rw [stops 0 index on, unrolled_of_ends on]
    | true => rw [capped index on, unrolled_zero on]
  | succ room ih =>
    cases on : l.goesOn index with
    | false => rw [stops (room + 1) index on, unrolled_of_ends on]
    | true => rw [goes room index on, unrolled_succ on, ih]

/-! ## Where a loop ends -/

theorem count_le (room index : Nat) : l.count room index ≤ room := by
  induction room generalizing index with
  | zero => exact Nat.le_refl _
  | succ room ih =>
    cases on : l.goesOn index with
    | false => rw [count_of_ends on]; exact Nat.zero_le _
    | true => rw [count_of_goesOn on]; exact Nat.succ_le_succ (ih _)

theorem goesOn_of_lt_count {k : Nat} (hk : k < l.count room index) :
    l.goesOn (index + k) = true := by
  induction room generalizing index k with
  | zero => exact absurd hk (Nat.not_lt_zero _)
  | succ room ih =>
    cases on : l.goesOn index with
    | false =>
      rw [count_of_ends on] at hk
      exact absurd hk (Nat.not_lt_zero _)
    | true =>
      rw [count_of_goesOn on] at hk
      cases k with
      | zero => exact on
      | succ k =>
        rw [← Nat.add_assoc, Nat.add_right_comm]
        exact ih (Nat.lt_of_succ_lt_succ hk)

/-- With room left, a loop has ended by itself. -/
theorem goesOn_count (left : l.count room index < room) :
    l.goesOn (index + l.count room index) = false := by
  induction room generalizing index with
  | zero => exact absurd left (Nat.not_lt_zero _)
  | succ room ih =>
    cases on : l.goesOn index with
    | false => rw [count_of_ends on, Nat.add_zero, on]
    | true =>
      rw [count_of_goesOn on] at left ⊢
      rw [← Nat.add_assoc, Nat.add_right_comm]
      exact ih (Nat.lt_of_succ_lt_succ left)

/-! ## Loops by the number of their iterations -/

section Iterations

variable {l' : Loop} {cap n : Nat}

theorem count_eq (fits : n ≤ cap) (on : ∀ k < n, l.goesOn k = true)
    (last : n = cap ∨ l.goesOn n = false) : l.count cap 0 = n := by
  have most : l.count cap 0 ≤ cap := count_le cap 0
  rcases Nat.lt_trichotomy (l.count cap 0) n with less | same | more
  · have ends : l.goesOn (0 + l.count cap 0) = false := goesOn_count (Nat.lt_of_lt_of_le less fits)
    rw [Nat.zero_add, on _ less] at ends
    cases ends
  · exact same
  · have goes : l.goesOn (0 + n) = true := goesOn_of_lt_count more
    have ends : l.goesOn n = false := last.resolve_left (by omega)
    rw [Nat.zero_add, ends] at goes
    cases goes

theorem unrolled_eq (fits : n ≤ cap) (on : ∀ k < n, l.goesOn k = true)
    (last : n = cap ∨ l.goesOn n = false) :
    l.unrolled start cap 0 = (l.repeated 0 n (l.goesOn n), l.contextAfter start n) := by
  rw [unrolled, count_eq fits on last, Nat.zero_add]

theorem repeated_congr (body : l.body = l'.body) (same : ∀ k < n, l.bindings k = l'.bindings k)
    (truncated : Bool) : l.repeated 0 n truncated = l'.repeated 0 n truncated := by
  have iterations : (List.range' 0 n).map (fun k => Iteration.mk k (l.bindings k) l.body.length) =
      (List.range' 0 n).map fun k => ⟨k, l'.bindings k, l'.body.length⟩ := by
    refine List.map_congr_left fun k hk => ?_
    have inside : k < n := by simpa using hk
    rw [same k inside, body]
  rw [repeated, repeated, body, ← iterations, body]

theorem contextAfter_congr (same : ∀ k < n, l.bindings k = l'.bindings k) (start : Context) :
    l.contextAfter start n = l'.contextAfter start n := by
  induction n with
  | zero => rfl
  | succ n ih =>
    rw [contextAfter, contextAfter, same n (Nat.lt_succ_self n),
      ih fun k hk => same k (Nat.lt_succ_of_lt hk)]

end Iterations

variable (l)

/-- What a loop under a cap gives: the iterations up to the first that it does not go on to, or as
many as the cap allows. -/
def Unrolls (cap : Nat) (start : Context) (result : Expansion × Context) : Prop :=
  (∃ n ≤ cap, (∀ k < n, l.goesOn k = true) ∧ l.goesOn n = false ∧
    result = (l.repeated 0 n false, l.contextAfter start n)) ∨
  ((∀ k ≤ cap, l.goesOn k = true) ∧
    result = (l.repeated 0 cap true, l.contextAfter start cap))

theorem unrolls_unrolled (cap : Nat) (start : Context) :
    l.Unrolls cap start (l.unrolled start cap 0) := by
  have before : ∀ k < l.count cap 0, l.goesOn k = true := fun k hk => by
    simpa using goesOn_of_lt_count hk
  cases last : l.goesOn (l.count cap 0) with
  | false =>
    refine .inl ⟨l.count cap 0, count_le cap 0, before, last, ?_⟩
    simp [unrolled, last]
  | true =>
    -- a loop that would go on has no room left
    have full : l.count cap 0 = cap := by
      refine Nat.le_antisymm (count_le cap 0) (Nat.le_of_not_lt fun left => ?_)
      have ends : l.goesOn (l.count cap 0) = false := by simpa using goesOn_count left
      exact absurd (last.symm.trans ends) (by decide)
    rw [full] at before last
    refine .inr ⟨fun k hk => ?_, by simp [unrolled, full, last]⟩
    rcases Nat.lt_or_eq_of_le hk with hk | rfl
    · exact before k hk
    · exact last

end Loop

/-! ## The kinds of loop -/

theorem Context.setVariables_singleton (c : Context) (name : String) (value : Json) :
    c.setVariables [(name, value)] = c.setVariable name value := rfl

theorem Context.setVariable_setVariable (c : Context) (name : String) (a b : Json) :
    (c.setVariable name a).setVariable name b = c.setVariable name b := by
  simp only [Context.setVariable, Entries.insert_insert]

theorem loopBindings_eq (loopVar : String) (value : Json) (k : Nat) :
    loopBindings loopVar value k =
      if loopVar = loopIndex then [(loopIndex, Json.ofNat k)]
      else [(loopVar, value), (loopIndex, Json.ofNat k)] := by
  by_cases own : loopVar = loopIndex
  · simp [loopBindings, Entries.insert, own]
  · simp [loopBindings, Entries.insert, own]

/-- The context that the condition of a while loop sees before iteration `k`. -/
def Context.before (c : Context) : (k : Nat) → Context
  | 0 => c
  | k + 1 => c.setVariable loopIndex (Json.ofNat k)

namespace Loop

/-- A loop that goes on while a condition is true. -/
def conditional (context : Context) (condition : Condition) (body : List Step) : Loop where
  body := body
  bindings k := [(loopIndex, Json.ofNat k)]
  goesOn k := condition.evaluate (context.before k)

/-- The counter of a counted loop, after `k` steps. -/
def counter (first step : Float) : (k : Nat) → Float
  | 0 => first
  | k + 1 => counter first step k + step

/-- A loop that counts from a number to another. -/
def counting (loopVar : String) (first stop step : Float) (body : List Step) : Loop where
  body := body
  bindings k := loopBindings loopVar (Json.ofFloat (counter first step k)) k
  goesOn k := counter first step k < stop

/-- A loop over items. -/
def overItems (loopVar : String) (items : List Json) (body : List Step) : Loop where
  body := body
  bindings k := loopBindings loopVar (items.getD k .null) k
  goesOn k := k < items.length

theorem contextAfter_conditional (context : Context) (condition : Condition) (body : List Step)
    (k : Nat) :
    (conditional context condition body).contextAfter context k = context.before k := by
  induction k with
  | zero => rfl
  | succ k ih =>
    rw [contextAfter, ih, conditional, Context.setVariables_singleton]
    cases k with
    | zero => rfl
    | succ k => rw [Context.before, Context.setVariable_setVariable, Context.before]

end Loop

namespace Control

open Loop

theorem expandWhile_eq (start : Context) (condition : Condition) (body : List Step) (cap : Nat) :
    expandWhile condition body cap 0 start =
      (conditional start condition body).unrolled start cap 0 := by
  let l := conditional start condition body
  have goesOn (k : Nat) : l.goesOn k = condition.evaluate (l.contextAfter start k) := by
    rw [contextAfter_conditional]
    rfl
  refine eq_unrolled (f := expandWhile condition body) ?stops ?capped ?goes cap 0
  case stops =>
    intro room index ends
    unfold expandWhile
    rw [if_neg (ne_true_of_eq_false ((goesOn index).symm.trans ends))]
  case capped =>
    intro index on
    unfold expandWhile
    rw [if_pos ((goesOn index).symm.trans on)]
  case goes =>
    intro room index on
    rw [expandWhile, if_pos ((goesOn index).symm.trans on)]
    rfl

theorem expandCount_eq (start : Context) (loopVar : String) (first stop step : Float)
    (body : List Step) (cap : Nat) :
    expandCount loopVar stop step body cap 0 first start =
      (counting loopVar first stop step body).unrolled start cap 0 := by
  let f := fun room index =>
    expandCount loopVar stop step body room index (counter first step index)
  refine eq_unrolled (f := f) ?stops ?capped ?goes cap 0
  case stops =>
    intro room index ends
    unfold f expandCount
    rw [if_neg (of_decide_eq_false ends)]
  case capped =>
    intro index on
    unfold f expandCount
    rw [if_pos (of_decide_eq_true on)]
  case goes =>
    intro room index on
    unfold f
    rw [expandCount, if_pos (of_decide_eq_true on)]
    rfl

theorem expandItems_eq (start : Context) (loopVar : String) (items : List Json)
    (body : List Step) (cap : Nat) :
    expandItems loopVar body cap 0 items start =
      (overItems loopVar items body).unrolled start cap 0 := by
  let f := fun room index => expandItems loopVar body room index (items.drop index)
  refine eq_unrolled (f := f) ?stops ?capped ?goes cap 0
  case stops =>
    intro room index ends
    have past : items.drop index = [] :=
      List.drop_eq_nil_of_le (Nat.le_of_not_lt (of_decide_eq_false ends))
    unfold f
    rw [past, expandItems]
  case capped =>
    intro index on
    have inside : index < items.length := of_decide_eq_true on
    unfold f
    rw [List.drop_eq_getElem_cons inside, expandItems]
  case goes =>
    intro room index on
    have inside : index < items.length := of_decide_eq_true on
    have item : items.getD index .null = items[index] := by simp [inside]
    unfold f
    rw [List.drop_eq_getElem_cons inside, expandItems, ← item]
    rfl

/-- A loop over items has one iteration for each of them, as far as the cap allows. -/
theorem count_overItems (loopVar : String) (items : List Json) (body : List Step) (cap : Nat) :
    (overItems loopVar items body).count cap 0 = min items.length cap := by
  have last : min items.length cap = cap ∨
      (overItems loopVar items body).goesOn (min items.length cap) = false := by
    rcases Nat.le_total cap items.length with le | le
    · exact .inl (Nat.min_eq_right le)
    · rw [Nat.min_eq_left le]
      exact .inr (decide_eq_false (Nat.lt_irrefl _))
  exact count_eq (Nat.min_le_right ..) (fun k hk => decide_eq_true (Nat.lt_min.1 hk).1) last

theorem expandItems_eq_min (start : Context) (loopVar : String) (items : List Json)
    (body : List Step) (cap : Nat) :
    expandItems loopVar body cap 0 items start =
      ((overItems loopVar items body).repeated 0 (min items.length cap) (cap < items.length),
        (overItems loopVar items body).contextAfter start (min items.length cap)) := by
  have last : (overItems loopVar items body).goesOn (min items.length cap) =
      decide (cap < items.length) := by
    rw [overItems, decide_eq_decide]
    omega
  rw [expandItems_eq, unrolled, count_overItems, Nat.zero_add, last]

/-- A while loop and a counted loop unroll under their caps. A loop over an array has one iteration
for each item, as far as the cap allows, and one over anything else has none. The index of an
iteration wins over a loop variable of its name. -/
theorem expand_loops (caps : LoopCaps) (start : Context) :
    (∀ condition body cap,
      (conditional start condition body).Unrolls (cap.getD caps.whileLoops) start
        (expand caps start (.repeatWhile condition body cap))) ∧
    (∀ loopVar first stop step body cap,
      (counting (loopVar.getD "i") (bound start first 0.0) (bound start stop 10.0)
          (bound start step 1.0) body).Unrolls (cap.getD caps.countedLoops) start
        (expand caps start (.countUp loopVar first stop step body cap))) ∧
    (∀ loopVar source body cap,
      expand caps start (.forEach loopVar source body cap) =
        match Condition.operand start source with
        | some (.arr items) =>
          let l := overItems (loopVar.getD "item") items body
          let m := cap.getD caps.forEachLoops
          let n := min items.length m
          (l.repeated 0 n (m < items.length), l.contextAfter start n)
        | _ => (Expansion.empty, start)) ∧
    (∀ loopVar value k,
      loopBindings loopVar value k =
        if loopVar = loopIndex then [(loopIndex, Json.ofNat k)]
        else [(loopVar, value), (loopIndex, Json.ofNat k)]) ∧
    ∀ k < 2 ^ 53, Json.ofNat k = .int k := by
  refine ⟨fun condition body cap => ?_, fun loopVar first stop step body cap => ?_,
    fun loopVar source body cap => ?_, loopBindings_eq, fun _ small => Json.ofNat_eq small⟩
  · rw [expand, expandWhile_eq]
    exact unrolls_unrolled ..
  · rw [expand, expandCount_eq]
    exact unrolls_unrolled ..
  · rw [expand]
    split <;> simp only [*, expandItems_eq_min]

/-- One iteration over two items. -/
theorem expand_loops_cut :
    (expand {} .empty (.forEach none (.arr [.null, .null]) [] (some 1))).1.truncated = true ∧
      1 < 2 ^ 53 ∧ Json.ofNat 1 = .int 1 := by
  obtain ⟨_, _, items, _, index⟩ := expand_loops {} .empty
  refine ⟨?_, by decide, index 1 (by decide)⟩
  rw [items]
  rfl

/-- The condition sees the index of the iteration before. -/
example :
    let untilOne := Condition.simple (.str "_loopIndex") .notEquals (some (.int 1))
    (expand {} .empty (.repeatWhile untilOne [] none)).1.iterations.length = 2 := by
  decide +kernel

end Control

/-! ## Two caps -/

namespace Loop

variable {l : Loop} {start : Context} {cap more : Nat}

theorem count_succ (room index : Nat) :
    l.count (room + 1) index =
      if l.goesOn (index + l.count room index) then l.count room index + 1
      else l.count room index := by
  induction room generalizing index with
  | zero => simp [count]
  | succ room ih =>
    cases on : l.goesOn index with
    | false => rw [count_of_ends on, count_of_ends on, Nat.add_zero, on, if_neg Bool.false_ne_true]
    | true =>
      rw [count_of_goesOn on, count_of_goesOn on, ih, ← Nat.add_assoc, Nat.add_right_comm]
      split <;> rfl

theorem count_mono (index : Nat) (le : cap ≤ more) : l.count cap index ≤ l.count more index := by
  induction le with
  | refl => exact Nat.le_refl _
  | step _ ih =>
    rw [count_succ]
    split
    · exact Nat.le_succ_of_le ih
    · exact ih

/-- A loop that ended by itself ends there under any greater cap. -/
theorem count_eq_of_ends {index : Nat} (le : cap ≤ more)
    (ends : l.goesOn (index + l.count cap index) = false) :
    l.count more index = l.count cap index := by
  induction le with
  | refl => rfl
  | step _ ih => rw [count_succ, ih, ends, if_neg Bool.false_ne_true]

theorem repeated_begins (l : Loop) (index : Nat) {n n' : Nat} (le : n ≤ n')
    (truncated truncated' : Bool) :
    (l.repeated index n truncated).steps <+: (l.repeated index n' truncated').steps ∧
      (l.repeated index n truncated).iterations <+:
        (l.repeated index n' truncated').iterations := by
  obtain ⟨d, rfl⟩ := Nat.exists_eq_add_of_le le
  constructor
  · rw [repeated, repeated, ← List.replicate_append_replicate, List.flatten_append]
    exact List.prefix_append ..
  · rw [repeated, repeated, ← List.range'_append_1, List.map_append]
    exact List.prefix_append ..

theorem length_iterations (l : Loop) (index n : Nat) (truncated : Bool) :
    (l.repeated index n truncated).iterations.length = n := by
  simp [repeated]

end Loop

namespace Control

open Loop

/-- The step with a cap of its own, if it is a loop. -/
def withCap (cap : Nat) : Control → Control
  | repeatWhile condition body _ => repeatWhile condition body (some cap)
  | countUp loopVar first stop step body _ => countUp loopVar first stop step body (some cap)
  | forEach loopVar source body _ => forEach loopVar source body (some cap)
  | choice => choice

/-- A step unrolls one loop whatever its cap, or expands without any loop. -/
theorem expand_withCap_cases (caps : LoopCaps) (start : Context) (c : Control) :
    (∃ l : Loop, ∀ cap, expand caps start (c.withCap cap) = l.unrolled start cap 0) ∨
      ∃ steps, ∀ cap, expand caps start (c.withCap cap) = (Expansion.ofSteps steps, start) := by
  cases c with
  | branch condition thenSteps elseSteps => exact .inr ⟨_, fun _ => rfl⟩
  | switch value cases default => exact .inr ⟨_, fun _ => rfl⟩
  | repeatWhile condition body _ => exact .inl ⟨_, expandWhile_eq start condition body⟩
  | countUp loopVar first stop step body _ =>
    exact .inl ⟨_, expandCount_eq start _ _ _ _ body⟩
  | forEach loopVar source body _ =>
    by_cases array : ∃ items, Condition.operand start source = some (.arr items)
    · obtain ⟨items, array⟩ := array
      refine .inl ⟨overItems (loopVar.getD "item") items body, fun cap => ?_⟩
      rw [withCap, expand, array]
      exact expandItems_eq ..
    · refine .inr ⟨[], fun cap => ?_⟩
      rw [withCap, expand]
      split
      · exact absurd ⟨_, ‹_›⟩ array
      · rfl

/-- Under a greater cap a loop begins in the same way; it is truncated if and only if one more
iteration would be used; and if it is not, no greater cap makes a difference. -/
theorem expand_withCap (caps : LoopCaps) (start : Context) (c : Control) {cap more : Nat}
    (le : cap ≤ more) :
    let result (cap : Nat) := expand caps start (c.withCap cap)
    ((result cap).1.steps <+: (result more).1.steps ∧
        (result cap).1.iterations <+: (result more).1.iterations) ∧
      ((result cap).1.truncated = true ↔
        (result (cap + 1)).1.iterations.length = (result cap).1.iterations.length + 1) ∧
      ((result cap).1.truncated = false → result more = result cap) := by
  obtain ⟨l, unrolls⟩ | ⟨steps, plain⟩ := expand_withCap_cases caps start c
  · simp only [unrolls, unrolled, length_iterations, Nat.zero_add]
    refine ⟨repeated_begins l 0 (count_mono 0 le) _ _, ?_, fun ends => ?_⟩
    · rw [count_succ, Nat.zero_add]
      by_cases on : l.goesOn (l.count cap 0) = true
      · simp [repeated, on]
      · simp [repeated, on]
    · have same : l.count more 0 = l.count cap 0 :=
        count_eq_of_ends le (by rw [Nat.zero_add]; exact ends)
      rw [same]
  · simp [plain, Expansion.ofSteps]

/-- A loop over two items is not truncated by a cap of two. -/
theorem expand_withCap_two_items :
    2 ≤ 5 ∧
      expand {} .empty ((forEach none (.arr [.null, .null]) [] none).withCap 5) =
        expand {} .empty ((forEach none (.arr [.null, .null]) [] none).withCap 2) :=
  ⟨by decide, (expand_withCap {} .empty (forEach none (.arr [.null, .null]) [] none)
    (by decide : 2 ≤ 5)).2.2 rfl⟩

end Control

end PageHarvest
