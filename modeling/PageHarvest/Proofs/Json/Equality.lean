import PageHarvest.Json.Coercion
import PageHarvest.Proofs.Decimal.Order
import PageHarvest.Proofs.Json.Spelling
import PageHarvest.Proofs.Json.WellFormed

/-!
# Equality of values

Two numbers on top are equal if they have the same size, so `5` and `5.0` are. Inside of arrays and
objects they are not, for there integers and floating point numbers stay apart. Both rules go
together: what is the same is also of the same size, and so strict equality is an equivalence. This
takes objects that have their keys once, and numbers that are numbers (`Proper`).

Loose equality is no equivalence: `0` equals the empty text and the text `0`, which are not equal.

* `arr_same_iff`, `obj_same_iff` and others: what is the same as a value, by its constructor;
* `same_refl`, `same_symm`, `same_trans`: the laws of sameness;
* `strictEq_iff`: strict equality is sameness, or the same size of two numbers on top;
* `Reordered.same`: the order of keys does not count, at any depth;
* `equality_laws`: the laws of both equalities, missing values included.
-/

namespace PageHarvest

variable {m n k : Number}

/-! ## Numbers -/

namespace Number

theorem same_refl (number : n.toFloat.isNaN = false) : n.same n = true := by
  cases n with
  | int i => exact beq_self_eq_true i
  | float f => exact Decimal.beq_self_iff.2 number

theorem same_symm (h : m.same n = true) : n.same m = true := by
  cases m <;> cases n <;> simp only [same, Bool.false_eq_true] at h ⊢
  · rwa [BEq.comm]
  · rwa [Decimal.beq_comm]

theorem same_trans (first : m.same n = true) (second : n.same k = true) : m.same k = true := by
  cases m <;> cases n <;> cases k <;> simp only [same, Bool.false_eq_true] at first second ⊢
  · simp_all
  · exact Decimal.beq_trans first second

theorem beq_of_same (number : m.toFloat.isNaN = false) (h : m.same n = true) :
    (m.toFloat == n.toFloat) = true := by
  cases m <;> cases n <;> simp only [same, Bool.false_eq_true] at h
  · rw [eq_of_beq h] at number ⊢
    exact Decimal.beq_self_iff.2 number
  · exact h

end Number

namespace Json

variable {a b c j : Json}

/-! ## Parts of a value -/

/-- The values directly inside of a value. -/
inductive Part : Json → Json → Prop
  | item {a : Json} {items : List Json} : a ∈ items → Part a (.arr items)
  | entry {e : String × Json} {entries : List (String × Json)} : e ∈ entries →
      Part e.2 (.obj entries)

theorem Part.sizeOf_lt (part : Part a j) : sizeOf a < sizeOf j := by
  cases part with
  | item ha =>
    have := List.sizeOf_lt_of_mem ha
    simp
    omega
  | @entry e entries he =>
    have := List.sizeOf_lt_of_mem he
    obtain ⟨key, a⟩ := e
    simp at this ⊢
    omega

/-- What holds of a value if it holds of its parts holds of every value. -/
@[elab_as_elim]
theorem induction_on_parts {motive : Json → Prop} (j : Json)
    (step : ∀ j, (∀ a, Part a j → motive a) → motive j) : motive j :=
  step j fun a _ => induction_on_parts a step
termination_by sizeOf j
decreasing_by exact Part.sizeOf_lt ‹_›

/-- A value that can be read: keys stand once in their object, and numbers are numbers. -/
structure Proper (j : Json) : Prop where
  wellFormed : j.WellFormed
  numbers : ∀ n ∈ j.numbers, n.toFloat.isNaN = false

@[simp]
theorem proper_null : Json.null.Proper := ⟨trivial, by simp [numbers]⟩

@[simp]
theorem proper_str (s : String) : (Json.str s).Proper := ⟨trivial, by simp [numbers]⟩

theorem proper_num : (Json.num n).Proper ↔ n.toFloat.isNaN = false :=
  ⟨fun proper => proper.numbers n (by simp [numbers]),
    fun number => ⟨trivial, by simpa [numbers] using number⟩⟩

theorem proper_arr {items : List Json} : (Json.arr items).Proper ↔ ∀ a ∈ items, a.Proper := by
  constructor
  · rintro ⟨wf, numbers⟩ a ha
    refine ⟨wellFormed_arr.1 wf a ha, fun n hn => numbers n ?_⟩
    rw [Json.numbers, numbersOfItems_eq]
    exact List.mem_flatMap.2 ⟨a, ha, hn⟩
  · intro proper
    refine ⟨wellFormed_arr.2 fun a ha => (proper a ha).wellFormed, fun n hn => ?_⟩
    rw [Json.numbers, numbersOfItems_eq] at hn
    obtain ⟨a, ha, hn⟩ := List.mem_flatMap.1 hn
    exact (proper a ha).numbers n hn

theorem proper_obj {entries : Entries Json} :
    (Json.obj entries).Proper ↔ entries.keys.Nodup ∧ ∀ e ∈ entries, e.2.Proper := by
  constructor
  · rintro ⟨wf, numbers⟩
    obtain ⟨distinct, values⟩ := wellFormed_obj.1 wf
    refine ⟨distinct, fun e he => ⟨values e he, fun n hn => numbers n ?_⟩⟩
    rw [Json.numbers, numbersOfEntries_eq]
    exact List.mem_flatMap.2 ⟨e, he, hn⟩
  · rintro ⟨distinct, proper⟩
    refine ⟨wellFormed_obj.2 ⟨distinct, fun e he => (proper e he).wellFormed⟩, fun n hn => ?_⟩
    rw [Json.numbers, numbersOfEntries_eq] at hn
    obtain ⟨e, he, hn⟩ := List.mem_flatMap.1 hn
    exact (proper e he).numbers n hn

theorem Proper.part (proper : j.Proper) (part : Part a j) : a.Proper := by
  cases part with
  | item ha => exact proper_arr.1 proper _ ha
  | entry he => exact (proper_obj.1 proper).2 _ he

/-! ## Sameness -/

theorem sameItems_iff {as bs : List Json} :
    sameItems as bs = true ↔ List.Forall₂ (fun a b => a.same b = true) as bs := by
  induction as generalizing bs with
  | nil => cases bs <;> simp [sameItems]
  | cons a as ih => cases bs <;> simp [sameItems, ih]

theorem sameEntries_iff {as bs : Entries Json} :
    sameEntries as bs = true ↔ ∀ e ∈ as, ∃ b, bs.get? e.1 = some b ∧ e.2.same b = true := by
  induction as with
  | nil => simp [sameEntries]
  | cons e as ih =>
    obtain ⟨key, a⟩ := e
    rw [sameEntries, Bool.and_eq_true, ih, List.forall_mem_cons]
    cases Entries.get? key bs <;> simp

@[simp]
theorem null_same_iff : Json.null.same b = true ↔ b = .null := by
  cases b <;> simp [same]

@[simp]
theorem bool_same_iff {v : Bool} : (Json.bool v).same b = true ↔ b = .bool v := by
  cases b <;> simp [same, eq_comm (a := v)]

@[simp]
theorem str_same_iff {s : String} : (Json.str s).same b = true ↔ b = .str s := by
  cases b <;> simp [same, eq_comm (a := s)]

theorem num_same_iff : (Json.num n).same b = true ↔ ∃ m, b = .num m ∧ n.same m = true := by
  cases b <;> simp [same]

theorem arr_same_iff {items : List Json} : (Json.arr items).same b = true ↔
    ∃ others, b = .arr others ∧ List.Forall₂ (fun a b => a.same b = true) items others := by
  cases b <;> simp [same, sameItems_iff]

theorem obj_same_iff {entries : Entries Json} : (Json.obj entries).same b = true ↔
    ∃ others : Entries Json, b = .obj others ∧ entries.length = others.length ∧
      ∀ e ∈ entries, ∃ v, others.get? e.1 = some v ∧ e.2.same v = true := by
  cases b <;> simp [same, sameEntries_iff]

theorem same_refl (proper : j.Proper) : j.same j = true := by
  induction j using induction_on_parts with
  | step j ih =>
  have parts {a : Json} (part : Part a j) : a.same a = true := ih a part (proper.part part)
  cases j with
  | null | bool | str => simp
  | num n => exact num_same_iff.2 ⟨n, rfl, Number.same_refl (proper_num.1 proper)⟩
  | arr items => exact arr_same_iff.2 ⟨items, rfl, List.forall₂_same.2 fun a ha => parts (.item ha)⟩
  | obj entries =>
    have distinct := (proper_obj.1 proper).1
    exact obj_same_iff.2 ⟨entries, rfl, rfl, fun e he =>
      ⟨e.2, Entries.get?_of_mem distinct he, parts (.entry he)⟩⟩

/-- Of two objects with as many keys, the second has no key that the first lacks. -/
theorem mem_keys_of_same {as bs : Entries Json} (distinct : as.keys.Nodup)
    (length : as.length = bs.length)
    (found : ∀ e ∈ as, ∃ b, bs.get? e.1 = some b ∧ e.2.same b = true) {e : String × Json}
    (he : e ∈ bs) : ∃ a, (e.1, a) ∈ as := by
  have subset : as.keys ⊆ bs.keys := by
    intro key hk
    obtain ⟨e', he', rfl⟩ := List.mem_map.1 hk
    obtain ⟨b, here, _⟩ := found e' he'
    exact List.mem_map.2 ⟨(e'.1, b), Entries.mem_of_get? here, rfl⟩
  have perm : as.keys.Perm bs.keys :=
    (List.subperm_of_subset distinct subset).perm_of_length_le (by simp [Entries.keys, length])
  obtain ⟨⟨key, a⟩, ha, rfl⟩ := List.mem_map.1 (perm.mem_iff.2 (List.mem_map_of_mem he))
  exact ⟨a, ha⟩

theorem same_symm (ha : a.Proper) (hb : b.Proper) (h : a.same b = true) : b.same a = true := by
  induction a using induction_on_parts generalizing b with
  | step a ih =>
  cases a with
  | null => rw [null_same_iff.1 h]; rfl
  | bool v => rw [bool_same_iff.1 h]; simp
  | str s => rw [str_same_iff.1 h]; simp
  | num n =>
    obtain ⟨m, rfl, equal⟩ := num_same_iff.1 h
    exact num_same_iff.2 ⟨n, rfl, Number.same_symm equal⟩
  | arr items =>
    obtain ⟨others, rfl, each⟩ := arr_same_iff.1 h
    obtain ⟨length, each⟩ := List.forall₂_iff_get.1 each
    refine arr_same_iff.2 ⟨items, rfl, List.forall₂_iff_get.2 ⟨length.symm, fun i hi hi' => ?_⟩⟩
    have left : Part (items.get ⟨i, hi'⟩) (.arr items) := .item (List.get_mem _ _)
    have right : Part (others.get ⟨i, hi⟩) (.arr others) := .item (List.get_mem _ _)
    exact ih _ left (ha.part left) (hb.part right) (each i hi' hi)
  | obj entries =>
    obtain ⟨others, rfl, length, each⟩ := obj_same_iff.1 h
    obtain ⟨distinct, _⟩ := proper_obj.1 ha
    obtain ⟨distinct', _⟩ := proper_obj.1 hb
    refine obj_same_iff.2 ⟨entries, rfl, length.symm, fun e he => ?_⟩
    obtain ⟨v, hv⟩ := mem_keys_of_same distinct length each he
    obtain ⟨w, found, equal⟩ := each _ hv
    have : w = e.2 := Option.some.inj (found.symm.trans (Entries.get?_of_mem distinct' he))
    subst this
    exact ⟨v, Entries.get?_of_mem distinct hv, ih v (.entry hv) (ha.part (.entry hv))
      (hb.part (.entry he)) equal⟩

theorem same_trans (first : a.same b = true) (second : b.same c = true) : a.same c = true := by
  induction a using induction_on_parts generalizing b c with
  | step a ih =>
  cases a with
  | null => rwa [null_same_iff.1 first] at second
  | bool v => rwa [bool_same_iff.1 first] at second
  | str s => rwa [str_same_iff.1 first] at second
  | num n =>
    obtain ⟨m, rfl, left⟩ := num_same_iff.1 first
    obtain ⟨k, rfl, right⟩ := num_same_iff.1 second
    exact num_same_iff.2 ⟨k, rfl, Number.same_trans left right⟩
  | arr items =>
    obtain ⟨others, rfl, left⟩ := arr_same_iff.1 first
    obtain ⟨thirds, rfl, right⟩ := arr_same_iff.1 second
    obtain ⟨length, left⟩ := List.forall₂_iff_get.1 left
    obtain ⟨length', right⟩ := List.forall₂_iff_get.1 right
    refine arr_same_iff.2 ⟨thirds, rfl, List.forall₂_iff_get.2
      ⟨length.trans length', fun i hi hi' => ?_⟩⟩
    have middle : i < others.length := by omega
    exact ih _ (.item (List.get_mem _ _)) (left i hi middle) (right i middle hi')
  | obj entries =>
    obtain ⟨others, rfl, length, left⟩ := obj_same_iff.1 first
    obtain ⟨thirds, rfl, length', right⟩ := obj_same_iff.1 second
    refine obj_same_iff.2 ⟨thirds, rfl, length.trans length', fun e he => ?_⟩
    obtain ⟨v, found, equal⟩ := left e he
    obtain ⟨w, found', equal'⟩ := right _ (Entries.mem_of_get? found)
    exact ⟨w, found', ih e.2 (.entry he) equal equal'⟩

/-! ## The order of keys -/

/-- One object somewhere in a value with its keys in another order. -/
inductive Reordered : Json → Json → Prop
  | keys {es fs : Entries Json} (order : es.Perm fs) : Reordered (.obj es) (.obj fs)
  | item {a b : Json} {front back : List Json} (inside : Reordered a b) :
      Reordered (.arr (front ++ a :: back)) (.arr (front ++ b :: back))
  | entry {key : String} {a b : Json} {front back : Entries Json} (inside : Reordered a b) :
      Reordered (.obj (front ++ (key, a) :: back)) (.obj (front ++ (key, b) :: back))

theorem Reordered.proper (h : Reordered a b) (ha : a.Proper) : b.Proper := by
  induction h with
  | keys order =>
    obtain ⟨distinct, values⟩ := proper_obj.1 ha
    exact proper_obj.2 ⟨(order.map Prod.fst).nodup_iff.1 distinct,
      fun e he => values e (order.mem_iff.2 he)⟩
  | item _ ih =>
    simp only [proper_arr, List.forall_mem_append, List.forall_mem_cons] at ha ⊢
    exact ⟨ha.1, ih ha.2.1, ha.2.2⟩
  | entry _ ih =>
    simp only [proper_obj, Entries.keys, List.map_append, List.map_cons, List.forall_mem_append,
      List.forall_mem_cons] at ha ⊢
    exact ⟨ha.1, ha.2.1, ih ha.2.2.1, ha.2.2.2⟩

theorem Reordered.same (h : Reordered a b) (ha : a.Proper) : a.same b = true := by
  have hb := h.proper ha
  induction h with
  | @keys es fs order =>
    refine obj_same_iff.2 ⟨fs, rfl, order.length_eq, fun e he => ⟨e.2, ?_, ?_⟩⟩
    · exact Entries.get?_of_mem (proper_obj.1 hb).1 (order.mem_iff.1 he)
    · exact same_refl (ha.part (.entry he))
  | @item a b front back inside ih =>
    have middle : a.same b = true :=
      ih (ha.part (.item (by simp))) (hb.part (.item (by simp)))
    have refl {as : List Json} (sub : as ⊆ front ++ a :: back) :
        List.Forall₂ (fun a b => a.same b = true) as as :=
      List.forall₂_same.2 fun a h => same_refl (ha.part (.item (sub h)))
    exact arr_same_iff.2 ⟨_, rfl, List.rel_append (refl (by simp)) (.cons middle (refl (by simp)))⟩
  | @entry key a b front back inside ih =>
    have middle : a.same b = true :=
      ih (ha.part (.entry (e := (key, a)) (by simp))) (hb.part (.entry (e := (key, b)) (by simp)))
    refine obj_same_iff.2 ⟨_, rfl, by simp, fun e he => ?_⟩
    have here {v : Json} (hv : (e.1, v) ∈ front ++ (key, b) :: back) :
        Entries.get? e.1 (front ++ (key, b) :: back) = some v :=
      Entries.get?_of_mem (proper_obj.1 hb).1 hv
    have self := same_refl (ha.part (.entry he))
    rcases List.mem_append.1 he with he | he
    · exact ⟨e.2, here (List.mem_append_left _ he), self⟩
    · rcases List.mem_cons.1 he with rfl | he
      · exact ⟨b, here (by simp), middle⟩
      · exact ⟨e.2, here (by simp [he]), self⟩

/-! ## Strict equality -/

theorem strictEq_iff (ha : a.Proper) : strictEq (some a) (some b) = true ↔ a.same b = true ∨
    ∃ m n, a = .num m ∧ b = .num n ∧ (m.toFloat == n.toFloat) = true := by
  cases a with
  | num m =>
    cases b with
    | num n =>
      have size : m.same n = true → (m.toFloat == n.toFloat) = true :=
        Number.beq_of_same (proper_num.1 ha)
      simpa [strictEq, num_same_iff] using size
    | _ => simp [strictEq]
  | _ => simp [strictEq]

/-- What can be compared: nothing, or a value that can be read. -/
def Comparable (v : Option Json) : Prop := ∀ j ∈ v, j.Proper

theorem Comparable.some (ha : a.Proper) : Comparable (some a) := by
  rintro _ ⟨⟩
  exact ha

variable {x y z : Option Json}

theorem strictEq_none_left : strictEq none x = true ↔ x = none := by
  cases x <;> simp [strictEq]

theorem strictEq_none_right : strictEq x none = true ↔ x = none := by
  cases x <;> simp [strictEq]

theorem strictEq_refl (hx : Comparable x) : strictEq x x = true := by
  cases x with
  | none => rfl
  | some a => exact (strictEq_iff (hx a rfl)).2 (.inl (same_refl (hx a rfl)))

theorem strictEq_symm (hx : Comparable x) (hy : Comparable y) (h : strictEq x y = true) :
    strictEq y x = true := by
  cases x with
  | none => rw [strictEq_none_left.1 h]; rfl
  | some a =>
    cases y with
    | none => simp [strictEq] at h
    | some b =>
      rcases (strictEq_iff (hx a rfl)).1 h with same | ⟨m, n, rfl, rfl, size⟩
      · exact (strictEq_iff (hy b rfl)).2 (.inl (same_symm (hx a rfl) (hy b rfl) same))
      · exact (Decimal.beq_comm _ _).trans size

theorem strictEq_comm (hx : Comparable x) (hy : Comparable y) : strictEq x y = strictEq y x :=
  Bool.eq_iff_iff.2 ⟨strictEq_symm hx hy, strictEq_symm hy hx⟩

theorem strictEq_trans (hx : Comparable x) (hy : Comparable y) (first : strictEq x y = true)
    (second : strictEq y z = true) : strictEq x z = true := by
  match x, y, z with
  | none, _, _ => rwa [strictEq_none_left.1 first] at second
  | some a, none, _ => simp [strictEq] at first
  | some a, some b, none => simp [strictEq] at second
  | some a, some b, some c =>
    have ha := hx a rfl
    have hb := hy b rfl
    refine (strictEq_iff ha).2 ?_
    rcases (strictEq_iff ha).1 first with same | ⟨m, n, rfl, rfl, size⟩ <;>
      rcases (strictEq_iff hb).1 second with same' | ⟨n', k, eq, rfl, size'⟩
    · exact .inl (same_trans same same')
    · -- a number that is the same as one of the size of a third
      subst eq
      obtain ⟨m, rfl, equal⟩ := num_same_iff.1 (same_symm ha hb same)
      have size := Number.beq_of_same (proper_num.1 ha) (Number.same_symm equal)
      exact .inr ⟨m, k, rfl, rfl, Decimal.beq_trans size size'⟩
    · obtain ⟨k, rfl, equal⟩ := num_same_iff.1 same'
      have size' := Number.beq_of_same (proper_num.1 hb) equal
      exact .inr ⟨m, k, rfl, rfl, Decimal.beq_trans size size'⟩
    · cases eq
      exact .inr ⟨m, k, rfl, rfl, Decimal.beq_trans size size'⟩

theorem strictEq_of_reordered (ha : a.Proper) (h : Relation.ReflTransGen Reordered a b) :
    b.Proper ∧ strictEq (some a) (some b) = true := by
  induction h with
  | refl => exact ⟨ha, strictEq_refl (.some ha)⟩
  | tail _ step ih =>
    obtain ⟨hb, equal⟩ := ih
    have next := (strictEq_iff hb).2 (.inl (step.same hb))
    exact ⟨step.proper hb, strictEq_trans (.some ha) (.some hb) equal next⟩

/-! ## Loose equality -/

theorem isNullish_iff : isNullish x = true ↔ x = none ∨ x = some .null := by
  match x with
  | none | some .null => simp [isNullish]
  | some (.bool _) | some (.num _) | some (.str _) | some (.arr _) | some (.obj _) =>
    simp [isNullish]

theorem comparesAsNumbers_comm (x y : Option Json) :
    comparesAsNumbers x y = comparesAsNumbers y x := by
  rcases x with _ | (_ | _ | _ | _ | _ | _) <;> rcases y with _ | (_ | _ | _ | _ | _ | _) <;> rfl

theorem looseEq_comm (hx : Comparable x) (hy : Comparable y) : looseEq x y = looseEq y x := by
  rw [looseEq, looseEq, Bool.or_comm, Bool.and_comm, comparesAsNumbers_comm, Decimal.beq_comm,
    strictEq_comm hx hy]

theorem looseEq_none_left : looseEq none x = true ↔ x = none ∨ x = some .null := by
  rw [← isNullish_iff]
  simp [looseEq, isNullish]

/-- What is equal without readings is read as numbers only if it is a boolean. -/
theorem eq_of_strictEq_of_comparesAsNumbers (equal : strictEq x y = true)
    (numeric : comparesAsNumbers x y = true) : ∃ v, x = some (.bool v) ∧ y = some (.bool v) := by
  rcases x with _ | (_ | _ | _ | _ | _ | _) <;> rcases y with _ | (_ | _ | _ | _ | _ | _) <;>
    simp_all [strictEq, comparesAsNumbers, same]

theorem looseEq_of_strictEq (equal : strictEq x y = true) : looseEq x y = true := by
  have nullish : isNullish x = isNullish y := by
    rcases x with _ | (_ | _ | _ | _ | _ | _) <;> rcases y with _ | (_ | _ | _ | _ | _ | _) <;>
      simp_all [strictEq, isNullish, same]
  rw [looseEq, nullish]
  split
  · simp_all
  · split
    · rename_i numeric
      obtain ⟨v, rfl, rfl⟩ := eq_of_strictEq_of_comparesAsNumbers equal numeric
      cases v <;> decide +kernel
    · exact equal

theorem looseEq_refl (hx : Comparable x) : looseEq x x = true :=
  looseEq_of_strictEq (strictEq_refl hx)

/-! ## Laws -/

/-- Strict equality is an equivalence that does not see the order of keys. Loose equality goes both
ways and holds wherever strict equality does. Nothing is strictly equal to nothing alone, and
loosely to nothing and to null. -/
theorem equality_laws (hx : Comparable x) (hy : Comparable y) :
    (strictEq x x = true ∧ strictEq x y = strictEq y x ∧
      ∀ z, strictEq x y = true → strictEq y z = true → strictEq x z = true) ∧
    (∀ a b, x = some a → Relation.ReflTransGen Reordered a b →
      strictEq (some b) y = strictEq x y) ∧
    (looseEq x x = true ∧ looseEq x y = looseEq y x) ∧
    (strictEq x y = true → looseEq x y = true) ∧
    (strictEq none x = true ↔ x = none) ∧ (strictEq x none = true ↔ x = none) ∧
    (looseEq none x = true ↔ x = none ∨ x = some .null) ∧
    (looseEq x none = true ↔ x = none ∨ x = some .null) := by
  refine ⟨⟨strictEq_refl hx, strictEq_comm hx hy, fun z => strictEq_trans hx hy⟩, ?_,
    ⟨looseEq_refl hx, looseEq_comm hx hy⟩, looseEq_of_strictEq, strictEq_none_left,
    strictEq_none_right, looseEq_none_left, ?_⟩
  · rintro a b rfl reordered
    obtain ⟨hb, equal⟩ := strictEq_of_reordered (hx a rfl) reordered
    have back := strictEq_symm hx (.some hb) equal
    exact Bool.eq_iff_iff.2 ⟨strictEq_trans hx (.some hb) equal, strictEq_trans (.some hb) hx back⟩
  · rw [looseEq_comm hx (by simp [Comparable])]
    exact looseEq_none_left

/-- An object in an array in an object, each with its keys in another order. -/
theorem equality_laws_nested :
    let inner (entries : Entries Json) : Json := .arr [.str "x", .obj entries]
    let a : Json := .obj [("price", .num (.float 4.5)),
      ("tags", inner [("n", .int 1), ("m", .null)])]
    let b : Json := .obj [("tags", inner [("m", .null), ("n", .int 1)]),
      ("price", .num (.float 4.5))]
    a.Proper ∧ Relation.ReflTransGen Reordered a b ∧ strictEq (some b) (some a) = true ∧
      strictEq (some (.arr [b])) (some (.arr [a])) = true ∧ looseEq (some a) none = false := by
  intro inner a b
  have proper : a.Proper := by
    have price : (Json.num (.float 4.5)).Proper := proper_num.2 (by decide +kernel)
    have count : (Json.int 1).Proper := proper_num.2 (by decide +kernel)
    simp [a, inner, proper_obj, proper_arr, price, count, Entries.keys]
  have reordered : Relation.ReflTransGen Reordered a b := by
    have tags : Reordered (inner [("n", .int 1), ("m", .null)])
        (inner [("m", .null), ("n", .int 1)]) :=
      @Reordered.item _ _ [.str "x"] [] (.keys (List.Perm.swap _ _ []))
    exact (Relation.ReflTransGen.single
      (@Reordered.entry "tags" _ _ [("price", .num (.float 4.5))] [] tags)).tail
      (.keys (List.Perm.swap _ _ []))
  have inArray : Relation.ReflTransGen Reordered (.arr [a]) (.arr [b]) :=
    Relation.ReflTransGen.lift (fun j => Json.arr [j]) (fun c d h => @Reordered.item c d [] [] h)
      _ _ reordered
  have comparable : Comparable (some (.arr [a])) := .some (proper_arr.2 (by simpa using proper))
  obtain ⟨⟨self, _⟩, order, _, _, _, _, _, missing⟩ := equality_laws (.some proper) (.some proper)
  obtain ⟨⟨self', _⟩, order', _⟩ := equality_laws comparable comparable
  refine ⟨proper, reordered, (order a b rfl reordered).trans self,
    (order' _ _ rfl inArray).trans self', ?_⟩
  rw [Bool.eq_false_iff, Ne, missing]
  simp [a]

/-- Loose equality is not transitive. -/
example : looseEq (some (.str "")) (some (.int 0)) = true ∧
    looseEq (some (.int 0)) (some (.str "0")) = true ∧
    looseEq (some (.str "")) (some (.str "0")) = false := by
  decide +kernel

/-- Numbers of the same size are equal on top and nowhere else. -/
example : strictEq (some (.int 5)) (some (.num (.float 5))) = true ∧
    strictEq (some (.arr [.int 5])) (some (.arr [.num (.float 5)])) = false := by
  decide +kernel

end Json

end PageHarvest
