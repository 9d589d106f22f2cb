import PageHarvest.Proofs.Decimal.Integers
import PageHarvest.Proofs.Flow.Comparisons

/-!
# Numbers in comparisons

Values that are not both texts are compared as floating point numbers, which have 53 bits. So the
order of two integers as values is that of the nearest integers that fit. The negation of a value is
the negative of its number, if that is finite, and null otherwise. Null counts as zero, so two
negations keep the order of a finite number only.

* `Json.integer?_int`: the number of an integer;
* `Expr.Comparison.onIntegers_rounded`: the order of integers that rounding keeps apart;
* `Operator.holds_integers`: what conditions and expressions say of two integers;
* `Expr.units?_negated`: the number of a negation;
* `Expr.eval_compare_negate_negate`: two negations in front of a number that is compared.
-/

namespace PageHarvest

open Decimal (rounded)

/-! ## Integers -/

/-- An integer that a value can be. -/
def Number.Holds (n : Int) : Prop := minInt ≤ n ∧ n ≤ maxInt

instance (n : Int) : Decidable (Number.Holds n) := inferInstanceAs (Decidable (_ ∧ _))

variable {a b : Int}

namespace Json

theorem integer?_int (held : Number.Holds a) :
    Decimal.integer? (toFloat (some (.int a))) = some (rounded a) := by
  have bits : a.natAbs.log2 < 65 := by
    obtain ⟨least, greatest⟩ := held
    have lower : Number.minInt = -2 ^ 63 := by decide
    have upper : Number.maxInt = 2 ^ 64 - 1 := by decide
    exact Decimal.log2_lt_of_small (by omega)
  exact Decimal.integer?_ofInt_rounded (Nat.lt_trans bits (by decide))

theorem strictEq_int (ha : Number.Holds a) (hb : Number.Holds b) :
    strictEq (some (.int a)) (some (.int b)) = true ↔ rounded a = rounded b := by
  change (toFloat (some (.int a)) == toFloat (some (.int b))) = true ↔ _
  rw [Decimal.beq_iff, Decimal.compare?_of_integers (integer?_int ha) (integer?_int hb),
    Option.some_inj, Int.compare_eq_eq]

end Json

namespace Expr

open Operator (Orders)

variable {op : Operator} {c : Comparison}

theorem not_texts (a : Int) (v : Option Json) :
    ¬ ∃ s t, some (Json.int a) = some (.str s) ∧ v = some (.str t) := by
  rintro ⟨s, t, text, -⟩
  cases text

theorem order?_int (ha : Number.Holds a) (hb : Number.Holds b) :
    order? (some (.int a)) (some (.int b)) = some (Ord.compare (rounded a) (rounded b)) := by
  rw [order?_eq_compare? (not_texts a _),
    Decimal.compare?_of_integers (Json.integer?_int ha) (Json.integer?_int hb)]

namespace Comparison

/-- What a comparison says of two integers. -/
def onIntegers : Comparison → Int → Int → Bool
  | eq, a, b | strictEq, a, b => a = b
  | notEq, a, b | strictNotEq, a, b => a ≠ b
  | lt, a, b => a < b
  | le, a, b => a ≤ b
  | gt, a, b => b < a
  | ge, a, b => b ≤ a

theorem holds_int (orders : Orders op c) (ha : Number.Holds a) (hb : Number.Holds b) :
    c.holds (some (.int a)) (some (.int b)) = c.onIntegers (rounded a) (rounded b) := by
  have order := order?_int ha hb
  rw [Bool.eq_iff_iff]
  cases orders <;>
    simp only [Comparison.holds, order, onIntegers, Bool.or_eq_true, beq_iff_eq, Option.some_inj,
      Int.compare_eq_lt, Int.compare_eq_eq, Int.compare_eq_gt, decide_eq_true_iff] <;>
    omega

/-- Rounding keeps the order of two integers if it keeps them apart. -/
theorem onIntegers_rounded (orders : Orders op c) (apart : rounded a = rounded b → a = b) :
    c.onIntegers (rounded a) (rounded b) = c.onIntegers a b := by
  have up (le : a ≤ b) : rounded a ≤ rounded b := Decimal.rounded_mono le
  have down (le : b ≤ a) : rounded b ≤ rounded a := Decimal.rounded_mono le
  rw [Bool.eq_iff_iff]
  cases orders <;> simp only [onIntegers, decide_eq_true_iff] <;> omega

end Comparison

end Expr

namespace Operator

open PageHarvest.Expr (Comparison)

/-- The orders of conditions and of expressions are those of the numbers of two integers, which are
the nearest integers of 53 bits. An integer strictly equals itself. Two integers that are the same
or have different numbers, such as all up to `2 ^ 53` in size, are compared as integers. -/
theorem holds_integers {a b : Int} (ha : Number.Holds a) (hb : Number.Holds b) :
    let x := some (Json.int a)
    let y := some (Json.int b)
    Decimal.integer? (Json.toFloat x) = some (rounded a) ∧
    Decimal.integer? (Json.toFloat y) = some (rounded b) ∧
    (a ≤ b → rounded a ≤ rounded b) ∧
    (a.natAbs ≤ 2 ^ 53 → b.natAbs ≤ 2 ^ 53 → a = b ∨ rounded a ≠ rounded b) ∧
    (∀ op c, Orders op c →
      op.holds x y = c.onIntegers (rounded a) (rounded b) ∧
      c.holds x y = c.onIntegers (rounded a) (rounded b)) ∧
    (a = b → Json.strictEq x y = true) ∧
    (a = b ∨ rounded a ≠ rounded b →
      (Json.strictEq x y = true ↔ a = b) ∧
      ∀ op c, Orders op c →
        op.holds x y = c.onIntegers a b ∧ c.holds x y = c.onIntegers a b) := by
  intro x y
  have agree {op : Operator} {c : Comparison} (orders : Orders op c) : op.holds x y = c.holds x y :=
    holds_order orders (Expr.not_texts a y)
  have equality := Json.strictEq_int ha hb
  have order {op : Operator} {c : Comparison} (orders : Orders op c) :=
    Comparison.holds_int orders ha hb
  refine ⟨Json.integer?_int ha, Json.integer?_int hb, Decimal.rounded_mono, ?small, ?rounded,
    ?same, ?apart⟩
  case small =>
    intro sa sb
    rw [Decimal.rounded_of_small sa, Decimal.rounded_of_small sb]
    exact em (a = b)
  case rounded =>
    intro op c orders
    exact ⟨(agree orders).trans (order orders), order orders⟩
  case same =>
    rintro rfl
    exact equality.2 rfl
  case apart =>
    intro apart
    have injective (same : rounded a = rounded b) : a = b := apart.resolve_right fun h => h same
    refine ⟨equality.trans ⟨injective, congrArg rounded⟩, fun op c orders => ?_⟩
    have compared := (order orders).trans (Comparison.onIntegers_rounded orders injective)
    exact ⟨(agree orders).trans compared, compared⟩

/-- The least and the greatest of the integers. -/
theorem holds_integers_extreme :
    Number.Holds Number.minInt ∧ Number.Holds Number.maxInt ∧
      lessThan.holds (some (.int Number.minInt)) (some (.int Number.maxInt)) = true := by
  have least : Number.Holds Number.minInt := by decide
  have greatest : Number.Holds Number.maxInt := by decide
  obtain ⟨-, -, -, -, -, -, compared⟩ := holds_integers least greatest
  have orders := (compared (.inr (by decide +kernel))).2
  exact ⟨least, greatest, (orders lessThan .lt .lessThan).1.trans (by decide)⟩

/-- The first two integers that have the same number. -/
theorem holds_integers_of_54_bits :
    let x := some (Json.int (2 ^ 53 + 1))
    let y := some (Json.int (2 ^ 53))
    Number.Holds (2 ^ 53 + 1) ∧ Number.Holds (2 ^ 53) ∧
      Json.strictEq x y = true ∧
      greaterThan.holds x y = false ∧ Comparison.gt.holds x y = false ∧
      lessOrEqual.holds x y = true ∧ Comparison.le.holds x y = true := by
  decide +kernel

end Operator

/-! ## Negation -/

namespace Expr

open Decimal (units?)

variable {op : Comparison} {v w r : Option Json} {a : Int}

/-- The value of a negation. -/
def negated (v : Option Json) : Json := Json.ofFloat (-Json.toFloat v)

theorem units?_negated (size : units? (Json.toFloat v) = some a) :
    units? (Json.toFloat (some (negated v))) = some (-a) := by
  have negative : units? (-Json.toFloat v) = some (-a) := by
    rw [Decimal.units?_neg, size, Option.map_some]
  exact Json.units?_ofFloat negative

theorem negated_of_infinite (infinite : units? (Json.toFloat v) = none) : negated v = .null := by
  refine Json.ofFloat_of_infinite ?_
  rw [Decimal.units?_neg, infinite, Option.map_none]

theorem negated_null : negated (some .null) = .int 0 :=
  Json.ofFloat_of_integer? (by decide +kernel) (by decide)

theorem order?_number (v : Option Json) (k : Float) :
    order? v (some (Json.ofFloat k)) =
      Decimal.compare? (Json.toFloat v) (Json.toFloat (some (Json.ofFloat k))) := by
  refine order?_eq_compare? ?_
  rintro ⟨s, t, -, text⟩
  exact Json.ofFloat_ne_str k t (Option.some_inj.1 text)

theorem order?_negated_negated (size : units? (Json.toFloat v) = some a) (k : Float) :
    order? (some (negated (some (negated v)))) (some (Json.ofFloat k)) =
      order? v (some (Json.ofFloat k)) := by
  obtain ⟨b, bound⟩ := Json.exists_units?_ofFloat k
  have twice := units?_negated (units?_negated size)
  rw [Int.neg_neg] at twice
  rw [order?_number, order?_number, Decimal.compare?_of_units twice bound,
    Decimal.compare?_of_units size bound]

namespace Comparison

/-- The comparisons that order two values. -/
def orders : List Comparison := [lt, le, gt, ge]

theorem holds_congr (order : op ∈ orders) (same : order? v r = order? w r) :
    op.holds v r = op.holds w r := by
  simp only [orders, List.mem_cons, List.not_mem_nil, or_false] at order
  rcases order with rfl | rfl | rfl | rfl <;> simp only [Comparison.holds, same]

end Comparison

theorem eval_negate {context : Context} {e : Expr} (value : e.eval context = .ok v) :
    (negate e).eval context = .ok (some (negated v)) := by
  rw [eval, value]
  rfl

theorem eval_compare_literal {context : Context} {e : Expr} (value : e.eval context = .ok v)
    (op : Comparison) (r : Option Json) :
    (compare op e (literal r)).eval context = .ok (some (.bool (op.holds v r))) := by
  rw [eval, value]
  rfl

/-- A value with a finite number is ordered against a number as its negation's negation is. The
negation of any other value is null, and the negation of that is ordered as zero is. -/
theorem eval_compare_negate_negate (context : Context) {e : Expr} {v : Option Json}
    (value : e.eval context = .ok v) (op : Comparison) (order : op ∈ Comparison.orders)
    (k : Float) :
    let number := literal (some (Json.ofFloat k))
    (compare op e number).eval context =
      .ok (some (.bool (op.holds v (some (Json.ofFloat k))))) ∧
    ((Json.toFloat v).isFinite = true →
      (compare op (negate (negate e)) number).eval context = (compare op e number).eval context) ∧
    ((Json.toFloat v).isFinite = false →
      (negate e).eval context = .ok (some .null) ∧
      (compare op (negate (negate e)) number).eval context =
        (compare op (literal (some (.int 0))) number).eval context) := by
  intro number
  have twice := eval_negate (eval_negate value)
  refine ⟨eval_compare_literal value op _, fun finite => ?_, fun infinite => ?_⟩
  · obtain ⟨a, size⟩ := Decimal.isFinite_iff.1 finite
    rw [eval_compare_literal value, eval_compare_literal twice,
      Comparison.holds_congr order (order?_negated_negated size k)]
  · have size : units? (Json.toFloat v) = none := Decimal.isFinite_eq_false_iff.1 infinite
    have null : negated v = .null := negated_of_infinite size
    rw [eval_compare_literal twice, null, negated_null, eval_negate value, null]
    exact ⟨rfl, rfl⟩

/-- A text with blanks around a number, in an array. -/
theorem eval_compare_negate_negate_text :
    let context : Context := ⟨[("x", .arr [.str " 2.5 "])], []⟩
    let e := identifier "x"
    let number := literal (some (Json.ofFloat 2.0))
    e.eval context = .ok (some (.arr [.str " 2.5 "])) ∧
      (compare .gt (negate (negate e)) number).eval context =
        (compare .gt e number).eval context := by
  intro context e number
  have value : e.eval context = .ok (some (.arr [.str " 2.5 "])) := rfl
  obtain ⟨-, same, -⟩ := eval_compare_negate_negate context value .gt (by decide) 2.0
  exact ⟨value, same (by decide +kernel)⟩

/-- A missing value is not less than one and infinity is greater than five, but the negations of
their negations are zero. -/
theorem eval_compare_negate_negate_infinite :
    let context : Context := ⟨[("x", .str "Infinity")], []⟩
    let one := literal (some (Json.ofFloat 1.0))
    let five := literal (some (Json.ofFloat 5.0))
    (compare .lt (reference "y") one).eval context = .ok (some (.bool false)) ∧
      (compare .lt (negate (negate (reference "y"))) one).eval context =
        .ok (some (.bool true)) ∧
      (compare .gt (identifier "x") five).eval context = .ok (some (.bool true)) ∧
      (compare .gt (negate (negate (identifier "x"))) five).eval context =
        .ok (some (.bool false)) := by
  intro context one five
  have missing : (reference "y").eval context = .ok none := rfl
  have infinite : (identifier "x").eval context = .ok (some (.str "Infinity")) := rfl
  rw [eval_compare_literal missing, eval_compare_literal (eval_negate (eval_negate missing)),
    eval_compare_literal infinite, eval_compare_literal (eval_negate (eval_negate infinite))]
  have orders :
      Comparison.lt.holds none (some (Json.ofFloat 1.0)) = false ∧
      Comparison.lt.holds (some (negated (some (negated none)))) (some (Json.ofFloat 1.0)) = true ∧
      Comparison.gt.holds (some (.str "Infinity")) (some (Json.ofFloat 5.0)) = true ∧
      Comparison.gt.holds (some (negated (some (negated (some (.str "Infinity"))))))
        (some (Json.ofFloat 5.0)) = false := by
    decide +kernel
  obtain ⟨h₁, h₂, h₃, h₄⟩ := orders
  rw [h₁, h₂, h₃, h₄]
  exact ⟨rfl, rfl, rfl, rfl⟩

end Expr

end PageHarvest
