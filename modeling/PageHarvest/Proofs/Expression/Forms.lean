import PageHarvest.Expression.Eval
import PageHarvest.Proofs.Fallible
import PageHarvest.Proofs.Json.Narrowing

/-!
# Expressions and the forms of integers

Contexts are alike if their values differ in the forms of integers alone. An expression comes to the
same in such contexts, unless it shows the form of an integer: by the name that a number in brackets
stands for, or where two arrays or objects are equal part by part.

* `Insensitive`: an expression that shows no form in a context;
* `Formless`: an expression that shows no form in any context, by its syntax;
* `SameOutcome`: what one step keeps, and `eval_sameOutcome`: what evaluation keeps;
* `evalBool_alike`: the result for contexts that are alike, and where it can differ.
-/

namespace PageHarvest

/-- Contexts in which a name stands for values that are alike, or for nothing in both. -/
structure Context.Alike (x y : Context) : Prop where
  vars : ∀ name, Option.Rel Json.Alike (x.vars.get? name) (y.vars.get? name)
  results : ∀ name, Option.Rel Json.Alike (x.results.get? name) (y.results.get? name)

theorem Context.alike_of_entries {x y : Context} (vars : Json.EntriesAlike x.vars y.vars)
    (results : Json.EntriesAlike x.results y.results) : x.Alike y :=
  ⟨vars.get?, results.get?⟩

theorem Json.narrow_eq_of_rel {a b : Option Json} (alike : Option.Rel Json.Alike a b) :
    a.map narrow = b.map narrow := by
  cases alike with
  | some alike => exact congrArg some alike.narrow_eq
  | none => rfl

theorem Context.Alike.lookup {x y : Context} (alike : x.Alike y) (name : String) :
    (x.lookup name).map Json.narrow = (y.lookup name).map Json.narrow := by
  have vars := Json.narrow_eq_of_rel (alike.vars name)
  have results := Json.narrow_eq_of_rel (alike.results name)
  unfold Context.lookup
  rcases Json.none_or_some_of_narrow results with ⟨hx, hy⟩ | ⟨v, w, hx, hy, same⟩
  · rw [hx, hy]
    exact vars
  · rw [hx, hy]
    exact congrArg some same

namespace Expr

/-! ## Operators -/

/-- The comparisons that go into the parts of arrays and objects. -/
def Comparison.isEquality : Comparison → Bool
  | .eq | .notEq | .strictEq | .strictNotEq => true
  | .lt | .le | .gt | .ge => false

theorem order?_narrow (a b : Option Json) :
    order? (a.map Json.narrow) (b.map Json.narrow) = order? a b := by
  unfold order?
  simp only [Json.toFloat_narrow]
  rcases a with _ | (_ | _ | _ | _ | _ | _) <;> rcases b with _ | (_ | _ | _ | _ | _ | _) <;> rfl

theorem Comparison.holds_narrow (op : Comparison) {a b : Option Json}
    (settled : op.isEquality = true → Json.hasParts a = true → Json.hasParts b = true →
      Json.strictEq (a.map Json.narrow) (b.map Json.narrow) = Json.strictEq a b) :
    op.holds (a.map Json.narrow) (b.map Json.narrow) = op.holds a b := by
  have strict (equality : op.isEquality = true) :
      Json.strictEq (a.map Json.narrow) (b.map Json.narrow) = Json.strictEq a b := by
    cases left : Json.hasParts a with
    | false => exact Json.strictEq_narrow (.inl left)
    | true =>
      cases right : Json.hasParts b with
      | false => exact Json.strictEq_narrow (.inr right)
      | true => exact settled equality left right
  cases op with
  | eq | notEq => simp only [holds, Json.looseEq_narrow (strict rfl)]
  | strictEq | strictNotEq => simp only [holds, strict rfl]
  | lt | le | gt | ge => simp only [holds, order?_narrow]

/-! ## Outcomes -/

/-- The same failure, or two values that are narrowed to the same one. -/
inductive SameOutcome : Except Problem (Option Json) → Except Problem (Option Json) → Prop
  | fails (p : Problem) : SameOutcome (.error p) (.error p)
  | gives {v w : Option Json} : v.map Json.narrow = w.map Json.narrow →
      SameOutcome (.ok v) (.ok w)

namespace SameOutcome

variable {r s : Except Problem (Option Json)}

theorem refl (r : Except Problem (Option Json)) : SameOutcome r r := by
  cases r with
  | error p => exact .fails p
  | ok v => exact .gives rfl

theorem bind {f g : Option Json → Except Problem (Option Json)} (same : SameOutcome r s)
    (next : ∀ v w, r = .ok v → s = .ok w → v.map Json.narrow = w.map Json.narrow →
      SameOutcome (f v) (g w)) : SameOutcome (r >>= f) (s >>= g) := by
  cases same with
  | fails p => exact .fails p
  | gives narrowed => exact next _ _ rfl rfl narrowed

theorem map_isTruthy (same : SameOutcome r s) : r.map Json.isTruthy = s.map Json.isTruthy := by
  cases same with
  | fails p => rfl
  | gives narrowed => exact congrArg Except.ok (Json.isTruthy_eq_of_narrow narrowed)

end SameOutcome

theorem property_of_ne_null {v : Json} (ne : v ≠ .null) (name : String) :
    property (some v) name = .ok (Reference.descend v name) := by
  cases v with
  | null => exact absurd rfl ne
  | bool | num | str | arr | obj => rfl

theorem property_sameOutcome {v w : Option Json} (same : v.map Json.narrow = w.map Json.narrow)
    (name : String) : SameOutcome (property v name) (property w name) := by
  rcases Json.none_or_some_of_narrow same with ⟨rfl, rfl⟩ | ⟨v, w, rfl, rfl, narrowed⟩
  · exact .fails _
  by_cases null : v = .null
  · subst v
    obtain rfl := Json.eq_null_of_narrow narrowed.symm
    exact .fails _
  · have ne : w ≠ .null := by
      rintro rfl
      exact null (Json.eq_null_of_narrow narrowed)
    rw [property_of_ne_null null, property_of_ne_null ne]
    refine .gives ?_
    rw [← Reference.descend_narrow, narrowed, Reference.descend_narrow]

/-! ## Expressions -/

/-- An expression shows no form of an integer in a context, in any part that is evaluated: the name
of a key and the equality of two arrays or objects are the same for the narrowed values. -/
def Insensitive (c : Context) : Expr → Prop
  | .literal _ | .identifier _ | .reference _ => True
  | .member target _ => target.Insensitive c
  | .index target key => target.Insensitive c ∧ ∀ t, target.eval c = .ok t → key.Insensitive c ∧
      ∀ k, key.eval c = .ok k → keyText (k.map Json.narrow) = keyText k
  | .not operand | .negate operand => operand.Insensitive c
  | .and left right => left.Insensitive c ∧
      ∀ v, left.eval c = .ok v → Json.isTruthy v = true → right.Insensitive c
  | .or left right => left.Insensitive c ∧
      ∀ v, left.eval c = .ok v → Json.isTruthy v = false → right.Insensitive c
  | .compare op left right => left.Insensitive c ∧
      ∀ a, left.eval c = .ok a → right.Insensitive c ∧
        ∀ b, right.eval c = .ok b →
          op.isEquality = true → Json.hasParts a = true → Json.hasParts b = true →
            Json.strictEq (a.map Json.narrow) (b.map Json.narrow) = Json.strictEq a b

variable {x y : Context}

theorem eval_sameOutcome (alike : x.Alike y) {e : Expr} (inX : e.Insensitive x)
    (inY : e.Insensitive y) : SameOutcome (e.eval x) (e.eval y) := by
  induction e with
  | literal value => exact .refl _
  | identifier name =>
    unfold eval
    rcases Json.none_or_some_of_narrow (alike.lookup name) with ⟨hx, hy⟩ | ⟨v, w, hx, hy, same⟩
    · rw [hx, hy]
      exact .fails _
    · rw [hx, hy]
      exact .gives (congrArg some same)
  | reference path => exact .gives (Reference.resolvePath_narrow alike.lookup path)
  | member target name ih =>
    exact (ih inX inY).bind fun v w _ _ same => property_sameOutcome same name
  | index target key iht ihk =>
    obtain ⟨targetX, keyX⟩ := inX
    obtain ⟨targetY, keyY⟩ := inY
    refine (iht targetX targetY).bind fun t u ht hu same => ?_
    obtain ⟨insideX, textX⟩ := keyX t ht
    obtain ⟨insideY, textY⟩ := keyY u hu
    refine (ihk insideX insideY).bind fun k l hk hl sameKey => ?_
    have text : keyText k = keyText l := by rw [← textX k hk, sameKey, textY l hl]
    rw [text]
    exact property_sameOutcome same (keyText l)
  | not operand ih =>
    refine (ih inX inY).bind fun v w _ _ same => ?_
    rw [Json.isTruthy_eq_of_narrow same]
    exact .refl _
  | negate operand ih =>
    refine (ih inX inY).bind fun v w _ _ same => ?_
    rw [← Json.toFloat_narrow v, same, Json.toFloat_narrow w]
    exact .refl _
  | and left right ihl ihr =>
    obtain ⟨leftX, rightX⟩ := inX
    obtain ⟨leftY, rightY⟩ := inY
    refine (ihl leftX leftY).bind fun v w hv hw same => ?_
    -- the operand on the right is evaluated in both contexts or in neither
    have decides := Json.isTruthy_eq_of_narrow same
    cases held : Json.isTruthy w with
    | true =>
      rw [held] at decides
      rw [if_pos decides]
      exact ihr (rightX v hv decides) (rightY w hw held)
    | false =>
      rw [held] at decides
      rw [if_neg (by simp [decides])]
      exact .gives same
  | or left right ihl ihr =>
    obtain ⟨leftX, rightX⟩ := inX
    obtain ⟨leftY, rightY⟩ := inY
    refine (ihl leftX leftY).bind fun v w hv hw same => ?_
    have decides := Json.isTruthy_eq_of_narrow same
    cases held : Json.isTruthy w with
    | true =>
      rw [held] at decides
      rw [if_pos decides]
      exact .gives same
    | false =>
      rw [held] at decides
      rw [if_neg (by simp [decides])]
      exact ihr (rightX v hv decides) (rightY w hw held)
  | compare op left right ihl ihr =>
    obtain ⟨leftX, rightX⟩ := inX
    obtain ⟨leftY, rightY⟩ := inY
    refine (ihl leftX leftY).bind fun a c ha hc sameLeft => ?_
    obtain ⟨insideX, settledX⟩ := rightX a ha
    obtain ⟨insideY, settledY⟩ := rightY c hc
    refine (ihr insideX insideY).bind fun b d hb hd sameRight => ?_
    have holds : op.holds a b = op.holds c d := by
      rw [← op.holds_narrow (settledX b hb), sameLeft, sameRight, op.holds_narrow (settledY d hd)]
    rw [holds]
    exact .refl _

theorem evalBool_eq (alike : x.Alike y) {e : Expr} (inX : e.Insensitive x)
    (inY : e.Insensitive y) : evalBool x e = evalBool y e :=
  (eval_sameOutcome alike inX inY).map_isTruthy

/-! ## Syntax -/

/-- No array and no object, and no integer in its other form. -/
def HasOneForm (v : Option Json) : Prop :=
  v.map Json.narrow = v ∧ Json.hasParts v = false

/-- An expression whose value has one form in any context, by its syntax. -/
def GivesOneForm : Expr → Prop
  | .literal v => HasOneForm v
  | .not _ | .negate _ | .compare .. => True
  | .and left right | .or left right => left.GivesOneForm ∧ right.GivesOneForm
  | .identifier _ | .reference _ | .member .. | .index .. => False

/-- An expression whose keys in brackets are settled and whose equalities have a settled side. -/
def Formless : Expr → Prop
  | .literal _ | .identifier _ | .reference _ => True
  | .member target _ => target.Formless
  | .index target key => target.Formless ∧ key.Formless ∧ key.GivesOneForm
  | .not operand | .negate operand => operand.Formless
  | .and left right | .or left right => left.Formless ∧ right.Formless
  | .compare op left right => left.Formless ∧ right.Formless ∧
      (op.isEquality = true → left.GivesOneForm ∨ right.GivesOneForm)

theorem GivesOneForm.hasOneForm {c : Context} {e : Expr} (settled : e.GivesOneForm)
    {v : Option Json} (value : e.eval c = .ok v) : HasOneForm v := by
  induction e generalizing v with
  | literal w =>
    cases value
    exact settled
  | not operand _ =>
    obtain ⟨w, _, given⟩ := bind_eq_ok.1 value
    cases given
    exact ⟨rfl, rfl⟩
  | negate operand _ =>
    obtain ⟨w, _, given⟩ := bind_eq_ok.1 value
    cases given
    exact ⟨congrArg some (Json.narrow_ofFloat _), Json.hasParts_ofFloat _⟩
  | compare op left right _ _ =>
    obtain ⟨a, _, given⟩ := bind_eq_ok.1 value
    obtain ⟨b, _, given⟩ := bind_eq_ok.1 given
    cases given
    exact ⟨rfl, rfl⟩
  | and left right ihl ihr =>
    obtain ⟨a, first, given⟩ := bind_eq_ok.1 value
    split at given
    · exact ihr settled.2 given
    · cases given
      exact ihl settled.1 first
  | or left right ihl ihr =>
    obtain ⟨a, first, given⟩ := bind_eq_ok.1 value
    split at given
    · cases given
      exact ihl settled.1 first
    · exact ihr settled.2 given
  | identifier | reference | member | index => exact settled.elim

theorem Formless.insensitive {e : Expr} (formless : e.Formless) (c : Context) :
    e.Insensitive c := by
  induction e with
  | literal | identifier | reference => trivial
  | member target name ih => exact ih formless
  | not operand ih | negate operand ih => exact ih formless
  | index target key iht ihk =>
    obtain ⟨inTarget, inKey, settled⟩ := formless
    refine ⟨iht inTarget, fun _ _ => ⟨ihk inKey, fun k value => ?_⟩⟩
    rw [(settled.hasOneForm value).1]
  | and left right ihl ihr => exact ⟨ihl formless.1, fun _ _ _ => ihr formless.2⟩
  | or left right ihl ihr => exact ⟨ihl formless.1, fun _ _ _ => ihr formless.2⟩
  | compare op left right ihl ihr =>
    obtain ⟨inLeft, inRight, side⟩ := formless
    refine ⟨ihl inLeft, fun a first => ⟨ihr inRight, fun b second equality partsA partsB => ?_⟩⟩
    rcases side equality with settled | settled
    · rw [(settled.hasOneForm first).2] at partsA
      cases partsA
    · rw [(settled.hasOneForm second).2] at partsB
      cases partsB

/-! ## Where the forms show -/

section forms

variable {n : Int} (small : n.natAbs < Json.exactLimit)

include small

/-- An entry that is named like an integer is not found by the integer in its other form. -/
theorem exists_key_shows_form :
    let e : Expr := .index (.identifier "table") (.identifier "key")
    ∃ x y : Context, x.Alike y ∧ evalBool x e ≠ evalBool y e := by
  intro e
  let text := String.ofList (Json.numberChars (.int n))
  let table : Json := .obj [(text, .bool true)]
  let inForm (form : Number) : Context := ⟨[("table", table), ("key", .num form)], []⟩
  have found (form : Number) :
      evalBool (inForm form) e = .ok (decide (text = String.ofList (Json.numberChars form))) := by
    have evaluated : e.eval (inForm form) =
        .ok (Entries.get? (String.ofList (Json.numberChars form)) [(text, .bool true)]) := rfl
    rw [evalBool, evaluated, Entries.get?]
    split
    · rename_i same
      rw [decide_eq_true same]
      rfl
    · rename_i other
      rw [decide_eq_false other]
      rfl
  refine ⟨inForm (.int n), inForm (.float (Float.ofInt n)), ?_, ?_⟩
  · exact Context.alike_of_entries
      ⟨rfl, ⟨rfl, rfl, trivial⟩, rfl, .widened small, trivial⟩ trivial
  · have other : text ≠ String.ofList (Json.numberChars (.float (Float.ofInt n))) :=
      fun same => Json.numberChars_int_ne_float n _ (String.ofList_injective same)
    rw [found, found, decide_eq_true rfl, decide_eq_false other]
    intro same
    cases same

/-- Two arrays of one integer are equal only if they have it in the same form. -/
theorem exists_equality_shows_form {op : Comparison} (equality : op.isEquality = true) :
    let e : Expr := .compare op (.identifier "left") (.identifier "right")
    ∃ x y : Context, x.Alike y ∧ evalBool x e ≠ evalBool y e := by
  intro e
  let items (form : Number) : Json := .arr [.num form]
  let inForm (form : Number) : Context := ⟨[("left", items (.int n)), ("right", items form)], []⟩
  have compared (form : Number) :
      evalBool (inForm form) e = .ok (op.holds (some (items (.int n))) (some (items form))) := rfl
  have same : Json.strictEq (some (items (.int n))) (some (items (.int n))) = true := by
    show (n == n && true) = true
    rw [beq_self_eq_true, Bool.and_true]
  have other : Json.strictEq (some (items (.int n))) (some (items (.float (Float.ofInt n)))) =
      false := rfl
  refine ⟨inForm (.int n), inForm (.float (Float.ofInt n)), ?_, ?_⟩
  · exact Context.alike_of_entries
      ⟨rfl, ⟨.same _, trivial⟩, rfl, ⟨.widened small, trivial⟩, trivial⟩ trivial
  · rw [compared, compared]
    -- two arrays are neither missing nor compared as numbers
    have loose (form : Number) : Json.looseEq (some (items (.int n))) (some (items form)) =
        Json.strictEq (some (items (.int n))) (some (items form)) := rfl
    cases op with
    | eq | notEq =>
      simp only [Comparison.holds, loose, same, other]
      intro alike
      cases alike
    | strictEq | strictNotEq =>
      simp only [Comparison.holds, same, other]
      intro alike
      cases alike
    | lt | le | gt | ge => cases equality

end forms

/-! ## Contexts that are alike -/

/-- In contexts that are alike, an expression fails in the same way or has the same truth value,
unless it shows the form of an integer. An expression shows none in any context if its keys in
brackets and one side of its equalities have values of one form by their syntax. The form of any
integer of moderate size is shown by a key in brackets, and by each of the equalities. -/
theorem evalBool_alike {x y : Context} (alike : x.Alike y) (e : Expr) :
    (e.Insensitive x → e.Insensitive y → evalBool x e = evalBool y e) ∧
    (e.Formless → evalBool x e = evalBool y e) ∧
    ∀ n : Int, n.natAbs < Json.exactLimit →
      (let e : Expr := .index (.identifier "table") (.identifier "key")
        ∃ x y : Context, x.Alike y ∧ evalBool x e ≠ evalBool y e) ∧
      ∀ op : Comparison, op.isEquality = true →
        let e : Expr := .compare op (.identifier "left") (.identifier "right")
        ∃ x y : Context, x.Alike y ∧ evalBool x e ≠ evalBool y e := by
  refine ⟨?insensitive, ?formless, ?shown⟩
  case insensitive => exact fun inX inY => evalBool_eq alike inX inY
  case formless =>
    intro formless
    exact evalBool_eq alike (formless.insensitive x) (formless.insensitive y)
  case shown =>
    intro n small
    exact ⟨exists_key_shows_form small, fun op => exists_equality_shows_form small⟩

/-- Rows that name their entries by texts and count them, with the counts in either form, and two
lists of which only the first item is compared. -/
theorem evalBool_alike_rows :
    let form (n : Int) : Bool → Json
      | true => .num (.int n)
      | false => .num (.float (Float.ofInt n))
    let c (b : Bool) : Context :=
      ⟨[("rows", .arr [.obj [("count", form 3 b)]]), ("row", .str "0"), ("limit", form 3 !b)],
        [("old", .arr [.str "u", form 1 b]), ("new", .arr [.str "v", form 1 !b])]⟩
    let e : Expr := .and
      (.compare .strictEq (.member (.index (.identifier "rows") (.identifier "row")) "count")
        (.identifier "limit"))
      (.compare .notEq (.identifier "old") (.identifier "new"))
    let plain : Expr := .compare .eq
      (.member (.index (.identifier "rows") (.literal (some (.int 0)))) "count")
      (.literal (some (.int 3)))
    (c true).Alike (c false) ∧ e.Insensitive (c true) ∧ e.Insensitive (c false) ∧
      evalBool (c true) e = .ok true ∧ evalBool (c false) e = .ok true ∧
      plain.Formless ∧ evalBool (c true) plain = evalBool (c false) plain ∧
      ∃ x y : Context, x.Alike y ∧
        evalBool x (.compare .strictNotEq (.identifier "left") (.identifier "right")) ≠
          evalBool y (.compare .strictNotEq (.identifier "left") (.identifier "right")) := by
  intro form c e plain
  have alike : (c true).Alike (c false) := by
    apply Context.alike_of_entries
    · exact ⟨rfl, ⟨⟨rfl, .widened (by decide), trivial⟩, trivial⟩, rfl, rfl, rfl,
        .narrowed (by decide), trivial⟩
    · exact ⟨rfl, ⟨rfl, .widened (by decide), trivial⟩, rfl,
        ⟨rfl, .narrowed (by decide), trivial⟩, trivial⟩
  have insensitive (b : Bool) : e.Insensitive (c b) := by
    refine ⟨⟨⟨trivial, fun _ _ => ⟨trivial, ?key⟩⟩, fun a ha => ⟨trivial, ?numbers⟩⟩,
      fun _ _ _ => ⟨trivial, fun a ha => ⟨trivial, ?lists⟩⟩⟩
    case key =>
      intro k value
      cases value
      rfl
    case numbers =>
      intro d _ _ parts
      cases ha
      cases b <;> cases parts
    case lists =>
      intro d hd _ _ _
      cases ha
      cases hd
      cases b <;> rfl
  have formless : plain.Formless :=
    ⟨⟨trivial, trivial, rfl, rfl⟩, trivial, fun _ => .inr ⟨rfl, rfl⟩⟩
  have holds : evalBool (c true) e = .ok true := by
    have counts : (Float.ofInt 3 == Float.ofInt 3) = true := by decide +kernel
    show Except.map Json.isTruthy
      (if (Float.ofInt 3 == Float.ofInt 3) = true then .ok (some (.bool true))
        else .ok (some (.bool (Float.ofInt 3 == Float.ofInt 3)))) = .ok true
    rw [if_pos counts]
    rfl
  obtain ⟨keeps, _, shown⟩ := evalBool_alike alike e
  obtain ⟨_, keepsPlain, _⟩ := evalBool_alike alike plain
  have kept := keeps (insensitive true) (insensitive false)
  exact ⟨alike, insensitive true, insensitive false, holds, kept ▸ holds, formless,
    keepsPlain formless, (shown 5 (by decide)).2 .strictNotEq rfl⟩

end Expr

end PageHarvest
