import Mathlib.Data.Option.Basic
import PageHarvest.Flow.Reference
import PageHarvest.Json.Printer
import PageHarvest.Proofs.Data.Entries
import PageHarvest.Proofs.Decimal.Characters
import PageHarvest.Proofs.Decimal.Integers

/-!
# One integer in two forms

An integer of moderate size is a number in two forms, as itself and as a floating point number. Two
values are alike if they differ in nothing but these forms. Narrowing a value takes the integer
wherever there is one, so values that are alike are narrowed to the same value.

Whatever is read from a single value goes over to the narrowed value, and so does every comparison
apart from that of two arrays or two objects, whose parts are compared form by form.

* `Json.Alike`, `Json.Alike.narrow_eq`: values alike, and what they have in common;
* `Json.toFloat_narrow`, `Json.isTruthy_narrow`, `Reference.descend_narrow`: readings;
* `Json.strictEq_narrow`, `Json.looseEq_narrow`: comparisons of values that have no parts;
* `Json.numberChars_int_ne_float`: the JSON texts of the two forms, which are never the same.
-/

namespace PageHarvest

/-! ## Numbers -/

namespace Number

/-- A floating point number, as an integer if it is one of moderate size. -/
def narrowFloat (f : Float) : Number :=
  match Decimal.integer? f with
  | some n => if n.natAbs < Json.exactLimit ∧ Float.ofInt n = f then .int n else .float f
  | none => .float f

/-- The number, as an integer if it is one of moderate size. -/
def narrow : Number → Number
  | .int n => .int n
  | .float f => narrowFloat f

/-- The same number, or one integer of moderate size in its two forms. -/
inductive Alike : Number → Number → Prop
  | same (n : Number) : Alike n n
  | widened {n : Int} : n.natAbs < Json.exactLimit → Alike (.int n) (.float (Float.ofInt n))
  | narrowed {n : Int} : n.natAbs < Json.exactLimit → Alike (.float (Float.ofInt n)) (.int n)

theorem toFloat_narrow (n : Number) : n.narrow.toFloat = n.toFloat := by
  cases n with
  | int n => rfl
  | float f =>
    show (narrowFloat f).toFloat = f
    unfold narrowFloat
    split
    · split
      · rename_i integral
        exact integral.2
      · rfl
    · rfl

theorem narrow_ofInt {n : Int} (small : n.natAbs < Json.exactLimit) :
    (float (Float.ofInt n)).narrow = .int n := by
  show narrowFloat (Float.ofInt n) = .int n
  unfold narrowFloat
  rw [Decimal.integer?_ofInt small]
  exact if_pos ⟨small, rfl⟩

theorem Alike.narrow_eq {a b : Number} (alike : a.Alike b) : a.narrow = b.narrow := by
  cases alike with
  | same => rfl
  | widened small => rw [narrow_ofInt small]; rfl
  | narrowed small => rw [narrow_ofInt small]; rfl

end Number

namespace Json

/-! ## Values -/

mutual

/-- The value with every integer of moderate size as an integer. -/
def narrow : Json → Json
  | .num n => .num n.narrow
  | .arr items => .arr (narrowItems items)
  | .obj entries => .obj (narrowEntries entries)
  | other => other

def narrowItems : List Json → List Json
  | [] => []
  | a :: rest => a.narrow :: narrowItems rest

def narrowEntries : List (String × Json) → List (String × Json)
  | [] => []
  | (k, a) :: rest => (k, a.narrow) :: narrowEntries rest

end

mutual

/-- Whether two values differ in the forms of integers alone. -/
def Alike : Json → Json → Prop
  | .null, .null => True
  | .bool a, .bool b => a = b
  | .num a, .num b => a.Alike b
  | .str a, .str b => a = b
  | .arr as, .arr bs => ItemsAlike as bs
  | .obj as, .obj bs => EntriesAlike as bs
  | _, _ => False

def ItemsAlike : List Json → List Json → Prop
  | [], [] => True
  | a :: as, b :: bs => a.Alike b ∧ ItemsAlike as bs
  | _, _ => False

def EntriesAlike : List (String × Json) → List (String × Json) → Prop
  | [], [] => True
  | (k, a) :: as, (l, b) :: bs => k = l ∧ a.Alike b ∧ EntriesAlike as bs
  | _, _ => False

end

theorem narrowItems_eq (items : List Json) : narrowItems items = items.map narrow := by
  induction items with
  | nil => rfl
  | cons a rest ih => rw [narrowItems, ih, List.map_cons]

theorem narrowEntries_eq (entries : Entries Json) :
    narrowEntries entries = entries.map fun e => (e.1, e.2.narrow) := by
  induction entries with
  | nil => rfl
  | cons e rest ih => rw [narrowEntries, ih, List.map_cons]

mutual

theorem Alike.narrow_eq {a b : Json} (alike : a.Alike b) : a.narrow = b.narrow := by
  cases a with
  | null =>
    cases b with
    | null => rfl
    | _ => exact alike.elim
  | bool a =>
    cases b with
    | bool b => exact congrArg Json.bool alike
    | _ => exact alike.elim
  | str a =>
    cases b with
    | str b => exact congrArg Json.str alike
    | _ => exact alike.elim
  | num a =>
    cases b with
    | num b => rw [narrow, narrow, Number.Alike.narrow_eq alike]
    | _ => exact alike.elim
  | arr as =>
    cases b with
    | arr bs => rw [narrow, narrow, ItemsAlike.narrow_eq alike]
    | _ => exact alike.elim
  | obj as =>
    cases b with
    | obj bs => rw [narrow, narrow, EntriesAlike.narrow_eq alike]
    | _ => exact alike.elim

theorem ItemsAlike.narrow_eq {as bs : List Json} (alike : ItemsAlike as bs) :
    narrowItems as = narrowItems bs := by
  cases as with
  | nil =>
    cases bs with
    | nil => rfl
    | cons => exact alike.elim
  | cons a as =>
    cases bs with
    | nil => exact alike.elim
    | cons b bs =>
      rw [narrowItems, narrowItems, Alike.narrow_eq alike.1, ItemsAlike.narrow_eq alike.2]

theorem EntriesAlike.narrow_eq {as bs : List (String × Json)} (alike : EntriesAlike as bs) :
    narrowEntries as = narrowEntries bs := by
  cases as with
  | nil =>
    cases bs with
    | nil => rfl
    | cons => exact alike.elim
  | cons e as =>
    cases bs with
    | nil => exact alike.elim
    | cons f bs =>
      obtain ⟨same, value, others⟩ := alike
      rw [narrowEntries, narrowEntries, same, Alike.narrow_eq value,
        EntriesAlike.narrow_eq others]

end

theorem EntriesAlike.get? {as bs : Entries Json} (alike : EntriesAlike as bs) (name : String) :
    Option.Rel Alike (as.get? name) (bs.get? name) := by
  induction as generalizing bs with
  | nil =>
    cases bs with
    | nil => exact .none
    | cons => exact alike.elim
  | cons e as ih =>
    cases bs with
    | nil => exact alike.elim
    | cons f bs =>
      obtain ⟨same, value, others⟩ := alike
      obtain ⟨k, a⟩ := e
      obtain ⟨l, b⟩ := f
      cases same
      rw [Entries.get?, Entries.get?]
      split
      · exact .some value
      · exact ih others

theorem none_or_some_of_narrow {a b : Option Json} (same : a.map narrow = b.map narrow) :
    (a = none ∧ b = none) ∨ ∃ v w, a = some v ∧ b = some w ∧ v.narrow = w.narrow := by
  cases a with
  | none => exact .inl ⟨rfl, Option.map_eq_none_iff.1 same.symm⟩
  | some v =>
    obtain ⟨w, rfl, narrowed⟩ := Option.map_eq_some_iff.1 same.symm
    exact .inr ⟨v, w, rfl, rfl, narrowed.symm⟩

theorem eq_null_of_narrow {j : Json} (null : j.narrow = .null) : j = .null := by
  cases j with
  | null => rfl
  | bool | num | str | arr | obj => cases null

/-! ## Readings -/

theorem floatOf_narrow (j : Json) : floatOf j.narrow = floatOf j := by
  match j with
  | .null | .bool _ | .str _ | .obj _ | .arr [] | .arr (_ :: _ :: _) => rfl
  | .num n => exact n.toFloat_narrow
  | .arr [a] => exact floatOf_narrow a

section readings

variable (a b : Option Json)

theorem toFloat_narrow : toFloat (a.map narrow) = toFloat a := by
  cases a with
  | none => rfl
  | some a => exact floatOf_narrow a

theorem isTruthy_narrow : isTruthy (a.map narrow) = isTruthy a := by
  match a with
  | none | some .null | some (.bool _) | some (.str _) | some (.arr _) | some (.obj _) => rfl
  | some (.num n) => simp only [Option.map_some, narrow, isTruthy, Number.toFloat_narrow]

theorem isNullish_narrow : isNullish (a.map narrow) = isNullish a := by
  match a with
  | none | some .null | some (.bool _) | some (.num _) | some (.str _) | some (.arr _)
  | some (.obj _) => rfl

theorem comparesAsNumbers_narrow :
    comparesAsNumbers (a.map narrow) (b.map narrow) = comparesAsNumbers a b := by
  rcases a with _ | (_ | _ | _ | _ | _ | _) <;> rcases b with _ | (_ | _ | _ | _ | _ | _) <;> rfl

end readings

theorem isTruthy_eq_of_narrow {a b : Option Json} (same : a.map narrow = b.map narrow) :
    isTruthy a = isTruthy b := by
  rw [← isTruthy_narrow, same, isTruthy_narrow]

/-- The value of a floating point number is an integer wherever it can be. -/
theorem narrow_ofFloat (f : Float) : (ofFloat f).narrow = ofFloat f := by
  have kept (h : ∀ n, Decimal.integer? f = some n → ¬ n.natAbs < exactLimit) :
      (Json.num (.float f)).narrow = .num (.float f) := by
    show Json.num (Number.narrowFloat f) = .num (.float f)
    unfold Number.narrowFloat
    split
    · rename_i n integral
      rw [if_neg fun small => h n integral small.1]
    · rfl
  unfold ofFloat
  split
  · rfl
  · rfl
  · split
    · rename_i n integral
      split
      · rfl
      · rename_i large
        refine kept fun k again small => large ?_
        cases again.symm.trans integral
        exact small
    · rename_i fraction
      refine kept fun k integral _ => ?_
      cases integral.symm.trans fraction

/-! ## Comparisons -/

/-- Whether the value is an array or an object, which are compared by their parts. -/
def hasParts : Option Json → Bool
  | some (.arr _) | some (.obj _) => true
  | _ => false

theorem hasParts_ofFloat (f : Float) : hasParts (some (ofFloat f)) = false := by
  unfold ofFloat
  split
  · rfl
  · rfl
  · split
    · split <;> rfl
    · rfl

theorem strictEq_narrow {a b : Option Json} (whole : hasParts a = false ∨ hasParts b = false) :
    strictEq (a.map narrow) (b.map narrow) = strictEq a b := by
  by_cases numbers : ∃ m n, a = some (.num m) ∧ b = some (.num n)
  · obtain ⟨m, n, rfl, rfl⟩ := numbers
    show (m.narrow.toFloat == n.narrow.toFloat) = _
    rw [m.toFloat_narrow, n.toFloat_narrow]
    rfl
  · rcases a with _ | (_ | _ | _ | _ | _ | _) <;> rcases b with _ | (_ | _ | _ | _ | _ | _) <;>
      first
      | rfl
      | exact absurd ⟨_, _, rfl, rfl⟩ numbers
      | rcases whole with whole | whole <;> cases whole

theorem looseEq_narrow {a b : Option Json}
    (strict : strictEq (a.map narrow) (b.map narrow) = strictEq a b) :
    looseEq (a.map narrow) (b.map narrow) = looseEq a b := by
  simp only [looseEq, isNullish_narrow, comparesAsNumbers_narrow, toFloat_narrow, strict]

/-! ## Texts -/

/-- A floating point number is written with a point, an exponent or a word, an integer never is. -/
theorem numberChars_int_ne_float (n : Int) (f : Float) :
    numberChars (.int n) ≠ numberChars (.float f) := by
  have digits : ∀ c ∈ numberChars (.int n), Text.isAsciiDigit c = true ∨ c = '-' := by
    show ∀ c ∈ integerChars n, _
    have all : ∀ c ∈ Decimal.digits n.natAbs, Text.isAsciiDigit c = true ∨ c = '-' :=
      fun _ h => .inl (Text.isAsciiDigit_of_mem_toDigits h)
    unfold integerChars
    split
    · exact List.forall_mem_cons.2 ⟨.inr rfl, all⟩
    · exact all
  have mark : ∃ c ∈ ['.', 'e', 'n'], c ∈ numberChars (.float f) := by
    show ∃ c ∈ _, c ∈ (Decimal.render? Decimal.Scaled.pointed f).getD _
    cases written : Decimal.render? Decimal.Scaled.pointed f with
    | none => exact ⟨'n', by decide, List.mem_cons_self⟩
    | some cs =>
      rcases Decimal.mark_mem_of_render? written with point | exponent
      · exact ⟨'.', by decide, point⟩
      · exact ⟨'e', by decide, exponent⟩
  intro same
  obtain ⟨c, isMark, written⟩ := mark
  have other : Text.isAsciiDigit c = false ∧ c ≠ '-' := by
    simp only [List.mem_cons, List.not_mem_nil, or_false] at isMark
    rcases isMark with rfl | rfl | rfl <;> exact ⟨rfl, by decide⟩
  rcases digits c (same ▸ written) with digit | sign
  · exact absurd digit (by simp [other.1])
  · exact other.2 sign

end Json

namespace Reference

variable {x y : Context}

theorem descend_narrow (v : Json) (segment : String) :
    descend v.narrow segment = (descend v segment).map Json.narrow := by
  cases v with
  | null | bool | num => rfl
  | str s =>
    show (if segment = "length" then some (Json.ofNat s.toList.length) else none) = _
    unfold descend
    split
    · exact congrArg some (Json.narrow_ofFloat _).symm
    · rfl
  | arr items =>
    show (if segment = "length" then some (Json.ofNat (Json.narrowItems items).length)
      else (index? segment).bind fun i => (Json.narrowItems items)[i]?) = _
    rw [Json.narrowItems_eq, List.length_map]
    unfold descend
    split
    · exact congrArg some (Json.narrow_ofFloat _).symm
    · rw [Option.map_bind]
      simp only [List.getElem?_map, Function.comp_def]
  | obj entries =>
    show Entries.get? segment (Json.narrowEntries entries) = _
    rw [Json.narrowEntries_eq, Entries.get?_map]
    rfl

theorem descendAll_narrow (v : Json) (path : List String) :
    descendAll v.narrow path = (descendAll v path).map Json.narrow := by
  induction path generalizing v with
  | nil => rfl
  | cons segment rest ih =>
    rw [descendAll, descendAll, descend_narrow, Option.map_bind, Option.bind_map]
    exact congrArg _ (funext ih)

theorem resolvePath_narrow
    (alike : ∀ name, (x.lookup name).map Json.narrow = (y.lookup name).map Json.narrow)
    (path : String) :
    (resolvePath x path).map Json.narrow = (resolvePath y path).map Json.narrow := by
  unfold resolvePath
  split
  · rename_i root rest _
    split
    · rfl
    · have narrowed (c : Context) :
          ((c.lookup root).bind fun v => descendAll v rest).map Json.narrow =
            ((c.lookup root).map Json.narrow).bind fun v => descendAll v rest := by
        rw [Option.map_bind, Option.bind_map]
        exact congrArg _ (funext fun v => (descendAll_narrow v rest).symm)
      rw [narrowed x, narrowed y, alike root]
  · rfl

end Reference

end PageHarvest
