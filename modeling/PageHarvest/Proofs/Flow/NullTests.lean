import PageHarvest.Proofs.Flow.Dependence
import PageHarvest.Proofs.Flow.ReadConditions

/-!
# Comparisons with an explicit null

A comparison may have null on its right, or nothing. Equality and the orders tell the two apart, the
other operators do not. The written form of a condition does not keep them apart when it is read, so
the condition read back may have another value, but only if such an operator meets such a null.

* `Operator.tellsNull`: the operators that tell null from a missing value;
* `Condition.evaluate_withoutNulls`: elsewhere a null on the right may be left out;
* `Reference.exists_resolve`: a text can resolve to any value, unless it refers to nothing at all;
* `Condition.ofJson?_toJson_up_to_nulls`: what the written form denotes, and when its value is the
  same.
-/

namespace PageHarvest

/-! ## Operators -/

namespace Operator

/-- Whether an operator tells an explicit null on the right from a missing value. -/
def tellsNull : Operator → Bool
  | equals | notEquals | greaterThan | lessThan | greaterOrEqual | lessOrEqual => true
  | _ => false

theorem holds_missing {op : Operator} (quiet : op.tellsNull = false) (left : Option Json) :
    op.holds left none = op.holds left (some .null) := by
  cases op with
  | equals | notEquals | greaterThan | lessThan | greaterOrEqual | lessOrEqual => cases quiet
  | contains | startsWith | endsWith | isEmpty | isNotEmpty | isMatch | «exists» | notExists
  | isTrue | isFalse | unknown => rfl

theorem exists_tells {op : Operator} (tells : op.tellsNull = true) :
    ∃ left, op.holds (some left) none ≠ op.holds (some left) (some .null) := by
  cases op with
  | equals | notEquals | greaterOrEqual | lessOrEqual => exact ⟨.null, by decide +kernel⟩
  | greaterThan => exact ⟨.int 1, by decide +kernel⟩
  | lessThan => exact ⟨.int (-1), by decide +kernel⟩
  | contains | startsWith | endsWith | isEmpty | isNotEmpty | isMatch | «exists» | notExists
  | isTrue | isFalse | unknown => cases tells

end Operator

/-! ## Texts that resolve to anything -/

namespace Reference

/-- A value with another one at the end of a path. -/
def nested (v : Json) : List String → Json
  | [] => v
  | segment :: rest => .obj [(segment, nested v rest)]

theorem descendAll_nested (v : Json) (segments : List String) :
    descendAll (nested v segments) segments = some v := by
  induction segments with
  | nil => rfl
  | cons segment rest ih =>
    rw [nested, descendAll, descend, Entries.get?, if_pos rfl, Option.bind_some, ih]

theorem exists_resolvePath {path : String} (rooted : root? path ≠ none) (v : Json) :
    ∃ context, resolvePath context path = some v := by
  unfold root? at rooted
  cases split : segments path.toList with
  | nil =>
    rw [split] at rooted
    exact absurd rfl rooted
  | cons root rest =>
    have named : root ≠ "" := by
      rintro rfl
      rw [split] at rooted
      exact rooted rfl
    refine ⟨⟨[(root, nested v rest)], []⟩, ?_⟩
    have found : Context.lookup ⟨[(root, nested v rest)], []⟩ root = some (nested v rest) :=
      if_pos rfl
    rw [resolvePath, split]
    show (if root = "" then none else _) = some v
    rw [if_neg named, found, Option.bind_some, descendAll_nested]

/-- Any value may be what a text resolves to, but for a reference without a name. -/
theorem exists_resolve {token : String}
    (refers : ∀ path, wholePath? token = some path → root? path ≠ none) (v : Json) :
    ∃ context, resolve context token = some v := by
  cases whole : wholePath? token with
  | some path =>
    obtain ⟨context, found⟩ := exists_resolvePath (refers path whole) v
    exact ⟨context, by rw [resolve, whole]; exact found⟩
  | none =>
    have found : Entries.get? token [(token, v)] = some v := if_pos rfl
    exact ⟨⟨[(token, v)], []⟩, by simp only [resolve, whole, found]⟩

end Reference

/-! ## Conditions -/

namespace Condition

mutual

theorem evaluate_withoutNulls (context : Context) (c : Condition)
    (quiet : ∀ op ∈ c.nullTests, op.tellsNull = false) :
    c.withoutNulls.evaluate context = c.evaluate context := by
  cases c with
  | simple left op right =>
    match right with
    | none => rfl
    | some .null =>
      exact Operator.holds_missing (quiet op (List.mem_singleton_self op)) (operand context left)
    | some (.bool _) | some (.num _) | some (.str _) | some (.arr _) | some (.obj _) => rfl
  | expression source => rfl
  | compound logic members =>
    obtain ⟨all, any⟩ := evaluateMembers_withoutNulls context members quiet
    cases members with
    | nil => rfl
    | cons c cs =>
      cases logic with
      | and => exact all
      | or => exact any

theorem evaluateMembers_withoutNulls (context : Context) (cs : List Condition)
    (quiet : ∀ op ∈ nullTestsOf cs, op.tellsNull = false) :
    evaluateAll context (withoutNullsOf cs) = evaluateAll context cs ∧
      evaluateAny context (withoutNullsOf cs) = evaluateAny context cs := by
  cases cs with
  | nil => exact ⟨rfl, rfl⟩
  | cons c cs =>
    obtain ⟨first_quiet, rest_quiet⟩ := List.forall_mem_append.1 quiet
    have first := evaluate_withoutNulls context c first_quiet
    obtain ⟨all, any⟩ := evaluateMembers_withoutNulls context cs rest_quiet
    simp only [withoutNullsOf, evaluateAll, evaluateAny, first, all, any, and_self]

end

/-- A text compared to null: leaving the null out makes no difference to operators that do not tell
it, and to no others. -/
theorem evaluate_withoutNulls_text {token : String} {op : Operator}
    (refers : ∀ path, Reference.wholePath? token = some path → Reference.root? path ≠ none) :
    (∀ context, (withoutNulls (.simple (.str token) op (some .null))).evaluate context =
        evaluate context (.simple (.str token) op (some .null))) ↔ op.tellsNull = false := by
  constructor
  · intro same
    refine Bool.eq_false_iff.2 fun tells => ?_
    obtain ⟨left, differs⟩ := Operator.exists_tells tells
    obtain ⟨context, resolves⟩ := Reference.exists_resolve refers left
    have at_context : op.holds (Reference.resolve context token) none =
        op.holds (Reference.resolve context token) (some .null) := same context
    rw [resolves] at at_context
    exact differs at_context
  · intro quiet context
    refine evaluate_withoutNulls context _ fun other mem => ?_
    rw [List.mem_singleton.1 mem, quiet]

/-- The written form of a condition can be read, as the condition without the explicit nulls on its
right sides. That is the condition itself if there are none, and it has the same value in every
context if the operators do not tell such a null from a missing value. For a text compared to null
it has the same value in every context only then. -/
theorem ofJson?_toJson_up_to_nulls (c : Condition) (wf : c.toJson.WellFormed) :
    ofJson? c.toJson = some c.withoutNulls ∧
      (c.withoutNulls = c ↔ c.nullTests = []) ∧
      ((∀ op ∈ c.nullTests, op.tellsNull = false) →
        ∀ context, c.withoutNulls.evaluate context = c.evaluate context) ∧
      ∀ (token : String) (op : Operator), c = simple (.str token) op (some .null) →
        (∀ path, Reference.wholePath? token = some path → Reference.root? path ≠ none) →
        ((∀ context, c.withoutNulls.evaluate context = c.evaluate context) ↔
          op.tellsNull = false) := by
  refine ⟨ofTreeIn?_toJson false c wf, withoutNulls_eq_self c, fun quiet context =>
    evaluate_withoutNulls context c quiet, ?_⟩
  rintro token op rfl refers
  exact evaluate_withoutNulls_text refers

/-- A pattern may be null, but whether the value at a path is null is lost. -/
theorem ofJson?_toJson_null_at_path :
    let kept := compound .or [.simple (.obj [("a", .null)]) .contains (some .null)]
    let lost := simple (.str "$\x7ba.b\x7d") .equals (some .null)
    (kept.toJson.WellFormed ∧ ofJson? kept.toJson = some kept.withoutNulls ∧
        ∀ context, kept.withoutNulls.evaluate context = kept.evaluate context) ∧
      ofJson? lost.toJson = some (simple (.str "$\x7ba.b\x7d") .equals none) ∧
      ¬ ∀ context, evaluate context (simple (.str "$\x7ba.b\x7d") .equals none) =
        lost.evaluate context := by
  intro kept lost
  have kept_wf : kept.toJson.WellFormed := by
    simp [kept, wellFormed_compound, wellFormed_simple, Json.wellFormed_obj, Entries.keys]
  have refers (path : String) (whole : Reference.wholePath? "$\x7ba.b\x7d" = some path) :
      Reference.root? path ≠ none := by
    have known : Reference.wholePath? "$\x7ba.b\x7d" = some "a.b" := by decide +kernel
    rw [known] at whole
    cases whole
    decide +kernel
  have lost_wf : lost.toJson.WellFormed :=
    wellFormed_simple.2 ⟨trivial, by rintro _ ⟨⟩; trivial⟩
  obtain ⟨kept_read, _, kept_same, _⟩ := ofJson?_toJson_up_to_nulls kept kept_wf
  obtain ⟨lost_read, _, _, lost_same⟩ := ofJson?_toJson_up_to_nulls lost lost_wf
  refine ⟨⟨kept_wf, kept_read, kept_same ?_⟩, lost_read, fun same => ?_⟩
  · intro op mem
    rw [List.mem_singleton.1 mem]
    rfl
  · exact absurd ((lost_same _ _ rfl refers).1 same) (by decide)

end Condition

end PageHarvest
