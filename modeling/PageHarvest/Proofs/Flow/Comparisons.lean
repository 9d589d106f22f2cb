import PageHarvest.Flow.Condition
import PageHarvest.Proofs.Decimal.Order

/-!
# Comparisons of references

A reference in a condition and one in an expression are read by different means, and so are the
comparisons of their values. They come to the same, whatever stands in the braces.

* `Reference.resolve_braced`: a reference as an operand of a condition;
* `Expr.holds_compare`, `Expr.holds_compare_null`: an expression that compares references;
* `Operator.holds_order`: the orders of conditions, by the order of expressions;
* `Condition.evaluate_references`: what follows for conditions on two references.
-/

namespace PageHarvest

open Text

variable {context : Context} {p q : String} {path rest : List Char}

/-! ## References -/

namespace Reference

/-- A path in braces. -/
def braced (path : String) : String := "$\x7b" ++ path ++ "\x7d"

/-- The value that a path in braces refers to. -/
def target (context : Context) (path : String) : Option Json := resolvePath context (trim path)

theorem toList_braced (path : String) :
    (braced path).toList = '$' :: '\x7b' :: (path.toList ++ ['\x7d']) := by
  simp [braced]

theorem readReference?_braced (closed : '\x7d' ∉ path) (rest : List Char) :
    readReference? ('$' :: '\x7b' :: (path ++ '\x7d' :: rest)) = some (path, rest) := by
  have inside : ∀ c ∈ path, (c != '\x7d') = true := fun c hc =>
    bne_iff_ne.2 fun e => closed (e ▸ hc)
  rw [readReference?, List.takeWhile_append_of_pos inside, List.dropWhile_append_of_pos inside]
  simp

theorem resolve_braced (closed : '\x7d' ∉ p.toList) :
    resolve context (braced p) = target context p := by
  have whole : wholePath? (braced p) = some (trim p) := by
    rw [wholePath?, toList_braced, readReference?_braced closed]
    rfl
  rw [resolve, whole, target]

end Reference

/-! ## Expressions -/

namespace Expr

open Reference

/-- The reference up to its brace, whatever else its path holds. -/
theorem readUntil?_brace (closed : '\x7d' ∉ path) (rest : List Char) :
    readUntil? ['\x7d'] (path ++ '\x7d' :: rest) = some (path, rest) := by
  induction path with
  | nil => rfl
  | cons c path ih =>
    obtain ⟨other, closed⟩ := not_or.1 fun h => closed (List.mem_cons.2 h)
    rw [List.cons_append, readUntil?, ih closed]
    simp [List.isPrefixOf, other]

theorem lexAll_blank (total fuel : Nat) (rest : List Char) :
    lexAll total (fuel + 1) (' ' :: rest) = lexAll total fuel rest := by
  rw [lexAll, if_pos (by decide)]

theorem lexAll_braced (closed : '\x7d' ∉ path) (total fuel : Nat) (rest : List Char) :
    lexAll total (fuel + 1) ('$' :: '\x7b' :: (path ++ '\x7d' :: rest)) =
      (lexAll total fuel rest).map (.reference (String.ofList (trimChars path)) :: ·) := by
  have token (position : Nat) : lexToken position '$' ('\x7b' :: (path ++ '\x7d' :: rest)) =
      .ok (.reference (String.ofList (trimChars path)), rest) := by
    rw [lexToken, if_pos ⟨rfl, rfl⟩, List.tail_cons, lexReference, readUntil?_brace closed]
  rw [lexAll, if_neg (by decide), token]

namespace Comparison

/-- The operator in expressions, with a blank on each side. -/
def mark : Comparison → String
  | eq => " == "
  | notEq => " != "
  | strictEq => " === "
  | strictNotEq => " !== "
  | lt => " < "
  | le => " <= "
  | gt => " > "
  | ge => " >= "

def token : Comparison → Token
  | eq => .eq
  | notEq => .notEq
  | strictEq => .strictEq
  | strictNotEq => .strictNotEq
  | lt => .lt
  | le => .le
  | gt => .gt
  | ge => .ge

theorem lexAll_mark (op : Comparison) (total fuel : Nat) (rest : List Char) :
    lexAll total (fuel + 3) (op.mark.toList ++ rest) =
      (lexAll total fuel rest).map (op.token :: ·) := by
  obtain ⟨cs, shape, read⟩ : ∃ cs, op.mark.toList ++ rest = ' ' :: cs ∧
      lexAll total (fuel + 2) cs = (lexAll total (fuel + 1) (' ' :: rest)).map (op.token :: ·) := by
    cases op <;> exact ⟨_, rfl, rfl⟩
  rw [shape, lexAll_blank, read, lexAll_blank]

/-- The comparison with a reference on the left, as it is written. -/
def source (op : Comparison) (path right : String) : String :=
  braced path ++ op.mark ++ right

/-- The tokens of a comparison, when one token makes up the right side. -/
theorem tokenize_source (closed : '\x7d' ∉ p.toList) (op : Comparison) {right : String} {t : Token}
    (one : ∀ total fuel, lexAll total (fuel + 1) right.toList = .ok [t]) :
    tokenize (op.source p right) = .ok [.reference (trim p), op.token, t] := by
  have text : (op.source p right).toList = '$' :: '\x7b' :: (p.toList ++
      '\x7d' :: (op.mark.toList ++ right.toList)) := by
    simp [source, toList_braced]
  -- a step for each of the three tokens and of the two blanks
  obtain ⟨spare, steps⟩ : ∃ spare, (op.source p right).toList.length = spare + 5 := by
    refine Nat.exists_eq_add_of_le' ?_
    have blanks : 2 ≤ op.mark.toList.length := by cases op <;> decide
    rw [text]
    simp only [List.length_cons, List.length_append]
    omega
  rw [tokenize, steps, text, lexAll_braced closed, lexAll_mark, one]
  rfl

end Comparison

theorem lexAll_reference (closed : '\x7d' ∉ q.toList) (total fuel : Nat) :
    lexAll total (fuel + 1) (braced q).toList = .ok [.reference (trim q)] := by
  rw [toList_braced, lexAll_braced closed]
  cases fuel <;> rfl

theorem lexAll_null (total fuel : Nat) :
    lexAll total (fuel + 1) "null".toList = .ok [.ident "null"] := by
  cases fuel <;> rfl

/-- An expression that compares two references. -/
theorem holds_compare (hp : '\x7d' ∉ p.toList) (hq : '\x7d' ∉ q.toList) (op : Comparison) :
    holds context (op.source p (braced q)) = op.holds (target context p) (target context q) := by
  have expression : read (op.source p (braced q)) =
      .ok (.compare op (.reference (trim p)) (.reference (trim q))) := by
    rw [read, op.tokenize_source hp (lexAll_reference hq)]
    cases op <;> rfl
  rw [holds, expression]
  rfl

/-- An expression that compares a reference with null. -/
theorem holds_compare_null (hp : '\x7d' ∉ p.toList) (op : Comparison) :
    holds context (op.source p "null") = op.holds (target context p) (some .null) := by
  have expression : read (op.source p "null") =
      .ok (.compare op (.reference (trim p)) (.literal (some .null))) := by
    rw [read, op.tokenize_source hp lexAll_null]
    cases op <;> rfl
  rw [holds, expression]
  rfl

/-- Values that are not both texts are ordered as their numbers. -/
theorem order?_eq_compare? {a b : Option Json}
    (notTexts : ¬ ∃ s t, a = some (.str s) ∧ b = some (.str t)) :
    order? a b = Decimal.compare? (Json.toFloat a) (Json.toFloat b) := by
  unfold order?
  split
  · exact absurd ⟨_, _, rfl, rfl⟩ notTexts
  · simp only [Decimal.lt_iff, Decimal.beq_iff]
    rw [Decimal.compare?_swap (Json.toFloat a)]
    rcases Decimal.compare? (Json.toFloat a) (Json.toFloat b) with _ | _ | _ | _ <;> rfl

end Expr

/-! ## Operators of conditions -/

namespace Operator

open Decimal
open PageHarvest.Expr (Comparison order?_eq_compare?)

/-- The operators that order two values, with the comparisons of expressions for them. -/
inductive Orders : Operator → Comparison → Prop
  | greaterThan : Orders greaterThan .gt
  | lessThan : Orders lessThan .lt
  | greaterOrEqual : Orders greaterOrEqual .ge
  | lessOrEqual : Orders lessOrEqual .le

/-- An operator orders values by their numbers, and so does its comparison unless both are texts. -/
theorem holds_order {op : Operator} {c : Comparison} (orders : Orders op c) {a b : Option Json}
    (notTexts : ¬ ∃ s t, a = some (.str s) ∧ b = some (.str t)) : op.holds a b = c.holds a b := by
  have order := order?_eq_compare? notTexts
  rw [Bool.eq_iff_iff]
  cases orders with
  | greaterThan => simp [holds, Comparison.holds, order, gt_iff (x := Json.toFloat a)]
  | lessThan => simp [holds, Comparison.holds, order, lt_iff]
  | greaterOrEqual => simp [holds, Comparison.holds, order, ge_iff (x := Json.toFloat a)]
  | lessOrEqual => simp [holds, Comparison.holds, order, le_iff]

/-- A value exists if it does not equal null by the loose equality. -/
theorem existsValue_eq (a : Option Json) : existsValue a = !Json.looseEq a (some .null) := by
  simp [existsValue, Json.looseEq, Json.isNullish]

end Operator

/-! ## Conditions on references -/

open Reference PageHarvest.Expr

/-- A condition on references agrees with the expression that compares them, for all texts in the
braces that do not close them: the equalities with the strict ones, existence with a test against
null, and the orders with those of expressions, unless both values are texts. -/
theorem Condition.evaluate_references (context : Context) {p q : String}
    (hp : '\x7d' ∉ p.toList) (hq : '\x7d' ∉ q.toList) :
    let left := "$\x7b" ++ p ++ "\x7d"
    let right := "$\x7b" ++ q ++ "\x7d"
    let condition (op : Operator) (other : Option Json) :=
      evaluate context (.simple (.str left) op other)
    condition .equals (some (.str right)) = Expr.holds context (left ++ " === " ++ right) ∧
    condition .notEquals (some (.str right)) = Expr.holds context (left ++ " !== " ++ right) ∧
    (∀ other, condition .exists other = Expr.holds context (left ++ " != null")) ∧
    (∀ other, condition .notExists other = Expr.holds context (left ++ " == null")) ∧
    ((¬ ∃ s t, Reference.resolve context left = some (.str s) ∧
        Reference.resolve context right = some (.str t)) →
      condition .greaterThan (some (.str right)) = Expr.holds context (left ++ " > " ++ right) ∧
      condition .lessThan (some (.str right)) = Expr.holds context (left ++ " < " ++ right) ∧
      condition .greaterOrEqual (some (.str right)) =
        Expr.holds context (left ++ " >= " ++ right) ∧
      condition .lessOrEqual (some (.str right)) =
        Expr.holds context (left ++ " <= " ++ right)) := by
  intro left right condition
  have resolvedLeft : Reference.resolve context left = target context p := resolve_braced hp
  have resolvedRight : Reference.resolve context right = target context q := resolve_braced hq
  have evaluated (op : Operator) (other : Option Json) : condition op other =
      op.holds (target context p) (other.bind (operand context)) := by
    rw [← resolvedLeft]
    rfl
  have evaluatedBoth (op : Operator) : condition op (some (.str right)) =
      op.holds (target context p) (target context q) := by
    rw [← resolvedRight]
    exact evaluated op _
  have compared (op : Comparison) : Expr.holds context (left ++ op.mark ++ right) =
      op.holds (target context p) (target context q) := holds_compare hp hq op
  have tested (op : Comparison) : Expr.holds context (left ++ (op.mark ++ "null")) =
      op.holds (target context p) (some .null) := by
    rw [← String.append_assoc]
    exact holds_compare_null hp op
  refine ⟨?_, ?_, fun other => ?_, fun other => ?_, fun notTexts => ?_⟩
  · exact (evaluatedBoth .equals).trans (compared .strictEq).symm
  · exact (evaluatedBoth .notEquals).trans (compared .strictNotEq).symm
  · rw [evaluated, Operator.holds, Operator.existsValue_eq]
    exact (tested .notEq).symm
  · rw [evaluated, Operator.holds, Operator.existsValue_eq, Bool.not_not]
    exact (tested .eq).symm
  · rw [resolvedLeft, resolvedRight] at notTexts
    have ordered {op : Operator} {c : Comparison} (orders : op.Orders c) :=
      (evaluatedBoth op).trans (Operator.holds_order orders notTexts)
    refine ⟨?_, ?_, ?_, ?_⟩
    · exact (ordered .greaterThan).trans (compared .gt).symm
    · exact (ordered .lessThan).trans (compared .lt).symm
    · exact (ordered .greaterOrEqual).trans (compared .ge).symm
    · exact (ordered .lessOrEqual).trans (compared .le).symm

/-- A path with blanks, a quote and an opening brace, to a truth value, against one to nothing. -/
theorem Condition.evaluate_references_quoted :
    let context : Context := ⟨[("it's \x7b", .bool true)], []⟩
    let left := "$\x7b" ++ " it's \x7b " ++ "\x7d"
    let right := "$\x7b" ++ "" ++ "\x7d"
    Reference.resolve context left = some (.bool true) ∧
      evaluate context (.simple (.str left) .notEquals (some (.str right))) =
        Expr.holds context (left ++ " !== " ++ right) ∧
      evaluate context (.simple (.str left) .exists none) =
        Expr.holds context (left ++ " != null") ∧
      evaluate context (.simple (.str left) .lessThan (some (.str right))) =
        Expr.holds context (left ++ " < " ++ right) := by
  intro context left right
  have value : Reference.resolve context left = some (.bool true) :=
    (resolve_braced (by decide)).trans rfl
  have agree := evaluate_references context (p := " it's \x7b ") (q := "") (by decide) (by decide)
  have noText : ¬ ∃ s t, Reference.resolve context left = some (.str s) ∧
      Reference.resolve context right = some (.str t) := by
    rintro ⟨s, _, text, _⟩
    cases value.symm.trans text
  exact ⟨value, agree.2.1, agree.2.2.1 none, (agree.2.2.2.2 noText).2.1⟩

end PageHarvest
