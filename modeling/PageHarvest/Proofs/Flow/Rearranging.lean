import Mathlib.Logic.Relation
import PageHarvest.Flow.Condition

/-!
# Compounds with rearranged members

A compound joins the outcomes of its members, each of which is evaluated by itself. So the order of
the members does not count, nor how often one of them stands there, and members of a compound inside
another of the same logic may as well stand in the outer one. Only an empty compound has to stay
where it is: it is true, so it is no unit of a disjunction.

* `Condition.evaluate_and`, `Condition.evaluate_or`: a compound by the outcomes of its members;
* `Condition.Rearranges`: one such change, at any depth;
* `Condition.evaluate_rearranged`: any number of them, in both directions.
-/

namespace PageHarvest.Condition

variable {context : Context} {logic : Logic} {c d : Condition}

/-! ## Outcomes of the members -/

theorem evaluateAll_eq_all (context : Context) (cs : List Condition) :
    evaluateAll context cs = cs.all (evaluate context) := by
  induction cs with
  | nil => rfl
  | cons c cs ih => simp [evaluateAll, ih]

theorem evaluateAny_eq_any (context : Context) (cs : List Condition) :
    evaluateAny context cs = cs.any (evaluate context) := by
  induction cs with
  | nil => rfl
  | cons c cs ih => simp [evaluateAny, ih]

@[simp]
theorem evaluate_and (context : Context) (cs : List Condition) :
    evaluate context (.compound .and cs) = cs.all (evaluate context) := by
  cases cs with
  | nil => rfl
  | cons c cs => rw [evaluate, evaluateAll_eq_all]

@[simp]
theorem evaluate_or (context : Context) (cs : List Condition) :
    evaluate context (.compound .or cs) = (cs.isEmpty || cs.any (evaluate context)) := by
  cases cs with
  | nil => rfl
  | cons c cs => rw [evaluate, evaluateAny_eq_any, List.isEmpty_cons, Bool.false_or]

/-! ## Rearranging -/

/-- One change to the members of a compound somewhere in a condition. -/
inductive Rearranges : Condition → Condition → Prop
  | permute {logic : Logic} {cs ds : List Condition} (order : cs.Perm ds) :
      Rearranges (.compound logic cs) (.compound logic ds)
  | duplicate {logic : Logic} {c : Condition} {cs : List Condition} (member : c ∈ cs) :
      Rearranges (.compound logic cs) (.compound logic (c :: cs))
  | splice {logic : Logic} {front inner back : List Condition} (nonempty : inner ≠ []) :
      Rearranges (.compound logic (front ++ .compound logic inner :: back))
        (.compound logic (front ++ inner ++ back))
  | inside {logic : Logic} {c d : Condition} {front back : List Condition}
      (member : Rearranges c d) :
      Rearranges (.compound logic (front ++ c :: back)) (.compound logic (front ++ d :: back))

/-- The outcomes alone count, each of them once. -/
theorem evaluate_compound_congr {cs ds : List Condition}
    (outcomes : ∀ b, b ∈ cs.map (evaluate context) ↔ b ∈ ds.map (evaluate context)) :
    evaluate context (.compound logic cs) = evaluate context (.compound logic ds) := by
  have empty : cs = [] ↔ ds = [] := by
    rw [← List.map_eq_nil_iff (f := evaluate context) (l := cs),
      ← List.map_eq_nil_iff (f := evaluate context) (l := ds), List.eq_nil_iff_forall_not_mem,
      List.eq_nil_iff_forall_not_mem]
    exact forall_congr' fun b => not_congr (outcomes b)
  have found (b : Bool) :
      (∃ c ∈ cs, evaluate context c = b) ↔ ∃ d ∈ ds, evaluate context d = b := by
    simpa using outcomes b
  rw [Bool.eq_iff_iff]
  cases logic with
  | and =>
    have none_failed := not_congr (found false)
    simpa using none_failed
  | or => simp [empty, found true]

theorem evaluate_splice {front inner back : List Condition} (nonempty : inner ≠ []) :
    evaluate context (.compound logic (front ++ .compound logic inner :: back)) =
      evaluate context (.compound logic (front ++ inner ++ back)) := by
  rw [Bool.eq_iff_iff]
  cases logic with
  | and => simp
  | or => simp [nonempty]

/-- No change of the members changes the outcome. -/
theorem Rearranges.evaluate_eq (h : Rearranges c d) : evaluate context c = evaluate context d := by
  induction h with
  | permute order => exact evaluate_compound_congr fun b => (order.map _).mem_iff
  | duplicate member =>
    refine evaluate_compound_congr fun b => ?_
    rw [List.map_cons, List.mem_cons, or_iff_right_of_imp]
    rintro rfl
    exact List.mem_map_of_mem member
  | splice nonempty => exact evaluate_splice nonempty
  | inside _ ih => exact evaluate_compound_congr fun b => by simp [ih]

/-- Members may be moved, repeated and taken out of a compound of the same logic that is not empty,
at any depth and any number of times. A compound with members is the conjunction or the disjunction
of what they are by themselves, and an empty one is true. -/
theorem evaluate_rearranged (context : Context) :
    (∀ c d, Relation.EqvGen Rearranges c d → evaluate context c = evaluate context d) ∧
    (∀ c cs, evaluate context (.compound .and (c :: cs)) = (c :: cs).all (evaluate context)) ∧
    (∀ c cs, evaluate context (.compound .or (c :: cs)) = (c :: cs).any (evaluate context)) ∧
    ∀ logic, evaluate context (.compound logic []) = true := by
  refine ⟨fun c d rearranged => ?_, fun c cs => evaluate_and context _, fun c cs => ?_, ?_⟩
  · induction rearranged with
    | rel _ _ h => exact h.evaluate_eq
    | refl => rfl
    | symm _ _ _ ih => exact ih.symm
    | trans _ _ _ _ _ first second => exact first.trans second
  · rw [evaluate_or, List.isEmpty_cons, Bool.false_or]
  · rintro (_ | _) <;> rfl

/-- An expression in a disjunction in another one, with a member that is repeated and moved. -/
theorem evaluate_rearranged_nested :
    let context : Context := ⟨[("n", .int 1)], []⟩
    let off : Condition := .simple (.bool false) .isTrue none
    let on : Condition := .simple (.str "n") .equals (some (.int 1))
    let before : Condition := .compound .and [.compound .or [off, .compound .or [off, on]], on]
    let after : Condition := .compound .and [on, on, .compound .or [on, off, off]]
    Relation.EqvGen Rearranges before after ∧
      evaluate context before = true ∧ evaluate context after = true := by
  intro context off on before after
  have spliced : Rearranges (.compound .or [off, .compound .or [off, on]])
      (.compound .or [off, off, on]) :=
    @Rearranges.splice .or [off] [off, on] [] (List.cons_ne_nil _ _)
  have moved : Rearranges (.compound .or [off, off, on]) (.compound .or [on, off, off]) :=
    .permute (List.reverse_perm [on, off, off])
  have inside {c d : Condition} (h : Rearranges c d) :
      Relation.EqvGen Rearranges (.compound .and [c, on]) (.compound .and [d, on]) :=
    .rel _ _ (@Rearranges.inside .and c d [] [on] h)
  have swapped : Rearranges (.compound .and [.compound .or [on, off, off], on])
      (.compound .and [on, .compound .or [on, off, off]]) :=
    .permute (List.reverse_perm [on, .compound .or [on, off, off]])
  have rearranged : Relation.EqvGen Rearranges before after :=
    (inside spliced).trans _ _ _ <| (inside moved).trans _ _ _ <|
      (Relation.EqvGen.rel _ _ swapped).trans _ _ _ <| .rel _ _ (.duplicate List.mem_cons_self)
  have value : evaluate context before = true := by decide +kernel
  exact ⟨rearranged, value, ((evaluate_rearranged context).1 _ _ rearranged).symm.trans value⟩

/-- An empty disjunction cannot be taken out of a disjunction. -/
example : evaluate .empty (.compound .or [.compound .or [], .simple .null .isTrue none]) = true ∧
    evaluate .empty (.compound .or [.simple .null .isTrue none]) = false := by
  decide

end PageHarvest.Condition
