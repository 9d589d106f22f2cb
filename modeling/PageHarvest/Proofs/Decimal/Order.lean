import PageHarvest.Proofs.Decimal.Forms

/-!
# The order and the sizes of floating point numbers

Two floating point numbers are less, equal or greater, or else one of them is not a number and they
have no order (`compare?`). Every finite number is a multiple of the least positive one, and
counting these gives its size as an integer (`units?`). What the operations do to numbers is what
they do to these integers.

* `lt_iff`, `le_iff`, `beq_iff`, `gt_iff`, `ge_iff`: the comparisons of two numbers, by their order;
* `compare?_of_units`: the order of two numbers is that of their sizes;
* `beq_self_iff`, `beq_comm`, `beq_trans`: equality, which only what is not a number lacks;
* `integer?_eq_some_iff`, `compare?_of_integers`: the integers are the multiples of the size of
  one, and have the order of integers;
* `units?_neg`, `units?_add`: negation, and the sums that are the size of a number.
-/

namespace PageHarvest.Decimal

variable {x y : Float}

/-! ## Order -/

section Order

open Float.Model (UnpackedFloat)

/-- The order of two numbers, if they have one. -/
def compare? (x y : Float) : Option Ordering := x.toModel.unpack.compare y.toModel.unpack

theorem compare_sign_swap (s t : UnpackedFloat.Sign) : compare t s = (compare s t).swap := by
  cases s <;> cases t <;> rfl

/-- The size of a finite number is that of its exponent, and among equal exponents that of its
significand. -/
theorem compare_parts_swap (e₁ e₂ : Int) (m₁ m₂ : Nat) :
    (compare e₂ e₁).then (compare m₂ m₁) = ((compare e₁ e₂).then (compare m₁ m₂)).swap := by
  rw [Ordering.swap_then, Int.compare_swap, Nat.compare_swap]

theorem compare_unpacked_swap (a b : UnpackedFloat) :
    b.compare a = (a.compare b).map Ordering.swap := by
  cases a with
  | notANumber => cases b <;> rfl
  | infinity s =>
    cases b with
    | infinity t => exact congrArg some (compare_sign_swap s t)
    | _ => cases s <;> rfl
  | zero s =>
    cases b with
    | infinity t => cases t <;> rfl
    | finite t => cases t <;> rfl
    | _ => rfl
  | finite s m₁ e₁ _ =>
    cases b with
    | infinity t => cases s <;> cases t <;> rfl
    | zero t => cases s <;> rfl
    | notANumber => cases s <;> rfl
    | finite t m₂ e₂ _ =>
      cases s <;> cases t
      · exact congrArg some (congrArg Ordering.swap (compare_parts_swap e₁ e₂ m₁ m₂))
      · rfl
      · rfl
      · exact congrArg some (compare_parts_swap e₁ e₂ m₁ m₂)

theorem compare?_swap (x y : Float) : compare? y x = (compare? x y).map Ordering.swap :=
  compare_unpacked_swap _ _

theorem lt_iff : x < y ↔ compare? x y = some .lt := by
  change (decide (compare? x y == some .lt)) = true ↔ _
  rw [decide_eq_true_eq, beq_iff_eq]

theorem beq_iff : (x == y) = true ↔ compare? x y = some .eq := by
  change (compare? x y == some .eq) = true ↔ _
  rw [beq_iff_eq]

theorem le_iff : x ≤ y ↔ compare? x y = some .lt ∨ compare? x y = some .eq := by
  change (decide ((compare? x y).any (·.isLE) = true)) = true ↔ _
  rw [decide_eq_true_eq]
  rcases compare? x y with _ | _ | _ | _ <;> decide

theorem gt_iff : y < x ↔ compare? x y = some .gt := by
  rw [lt_iff, compare?_swap x y]
  rcases compare? x y with _ | _ | _ | _ <;> decide

theorem ge_iff : y ≤ x ↔ compare? x y = some .gt ∨ compare? x y = some .eq := by
  rw [le_iff, compare?_swap x y]
  rcases compare? x y with _ | _ | _ | _ <;> decide

end Order

open Float.Model Float.Model.UnpackedFloat

/-! ## Sizes -/

/-- How many of the least positive number the number `2 ^ e` is. -/
@[irreducible]
def scale (e : Int) : Nat := 2 ^ (e + 1074).toNat

theorem scale_pos (e : Int) : 0 < scale e := by
  rw [scale]
  exact Nat.two_pow_pos _

theorem scale_add {e : Int} (low : -1074 ≤ e) (k : Nat) : scale (e + k) = 2 ^ k * scale e := by
  rw [scale, scale, ← Nat.pow_add]
  congr 1
  omega

/-- The size of what bits unpack to, if it is finite. -/
def unitsOf : UnpackedFloat → Option Int
  | .zero _ => some 0
  | .finite s m e _ => some (s.apply (m * scale e : Nat))
  | .infinity _ | .notANumber => none

/-- The size of a finite number, in terms of the least positive number. -/
def units? (x : Float) : Option Int := unitsOf x.toModel.unpack

variable {a b : Int}

theorem isCanonical_toModel (x : Float) : IsCanonical x.toModel.unpack := isCanonical_unpack _

/-! ## Finite numbers -/

theorem isSome_units? : (units? x).isSome = x.isFinite := by
  change (unitsOf x.toModel.unpack).isSome = x.toModel.unpack.isFinite
  cases x.toModel.unpack <;> rfl

theorem isFinite_iff : x.isFinite = true ↔ ∃ a, units? x = some a := by
  rw [← isSome_units?, Option.isSome_iff_exists]

theorem isFinite_eq_false_iff : x.isFinite = false ↔ units? x = none := by
  rw [← isSome_units?, Option.isSome_eq_false_iff, Option.isNone_iff_eq_none]

theorem isNaN_of_units? (size : units? x = some a) : x.isNaN = false := by
  rw [units?] at size
  change x.toModel.unpack.isNaN = false
  cases form : x.toModel.unpack with
  | infinity | zero | finite => rfl
  | notANumber =>
    rw [form] at size
    cases size

theorem parts_of_units? (size : units? x = some a) :
    ∃ negative m e, parts x = .finite negative m e := by
  rw [parts_eq]
  rw [units?] at size
  cases form : x.toModel.unpack with
  | infinity | notANumber =>
    rw [form] at size
    cases size
  | zero s => exact ⟨_, _, _, rfl⟩
  | finite s m e pos => exact ⟨_, _, _, rfl⟩

/-! ## The order of sizes -/

theorem compare_natCast (m n : Nat) : compare (m : Int) n = compare m n := by
  rcases Nat.lt_trichotomy m n with h | h | h
  · rw [Nat.compare_eq_lt.2 h, Int.compare_eq_lt.2 (by omega)]
  · rw [Nat.compare_eq_eq.2 h, Int.compare_eq_eq.2 (by omega)]
  · rw [Nat.compare_eq_gt.2 h, Int.compare_eq_gt.2 (by omega)]

theorem compare_neg (m n : Int) : compare (-m) (-n) = (compare m n).swap := by
  rcases Int.lt_trichotomy m n with h | h | h
  · rw [Int.compare_eq_lt.2 h, Int.compare_eq_gt.2 (by omega)]
    rfl
  · rw [Int.compare_eq_eq.2 h, Int.compare_eq_eq.2 (by omega)]
    rfl
  · rw [Int.compare_eq_gt.2 h, Int.compare_eq_lt.2 (by omega)]
    rfl

/-- A finite canonical number. -/
theorem IsCanonical.finite {s : Sign} {m : Nat} {e : Int} {pos : 0 < m}
    (h : IsCanonical (.finite s m e pos)) :
    m < 2 ^ 53 ∧ -1074 ≤ e ∧ (2 ^ 52 ≤ m ∨ e = -1074) := by
  cases h with
  | tiny _ _ small => exact ⟨by omega, by omega, .inr rfl⟩
  | full _ full low _ => exact ⟨full.2, low, .inl full.1⟩

/-- The number with the greater exponent is greater. -/
theorem mul_scale_lt {m n : Nat} {e f : Int} (hm : m < 2 ^ 53) (hn : 2 ^ 52 ≤ n)
    (low : -1074 ≤ e) (lt : e < f) : m * scale e < n * scale f := by
  obtain ⟨k, rfl⟩ : ∃ k : Nat, f = e + (k + 1 : Nat) := ⟨(f - e - 1).toNat, by omega⟩
  rw [scale_add low, ← Nat.mul_assoc]
  refine Nat.mul_lt_mul_of_pos_right (Nat.lt_of_lt_of_le hm ?_) (scale_pos e)
  calc 2 ^ 53 = 2 ^ 52 * 2 ^ 1 := rfl
    _ ≤ n * 2 ^ (k + 1) := Nat.mul_le_mul hn (Nat.pow_le_pow_right (by decide) (by omega))

theorem compare_mul_scale {s t : Sign} {m n : Nat} {e f : Int} {hm : 0 < m} {hn : 0 < n}
    (hx : IsCanonical (.finite s m e hm)) (hy : IsCanonical (.finite t n f hn)) :
    (compare e f).then (compare m n) = compare (m * scale e) (n * scale f) := by
  obtain ⟨small, low, full⟩ := hx.finite
  obtain ⟨small', low', full'⟩ := hy.finite
  rcases Int.lt_trichotomy e f with lt | rfl | gt
  · rw [Int.compare_eq_lt.2 lt, Nat.compare_eq_lt.2 (mul_scale_lt small (by omega) low lt)]
    rfl
  · rw [Int.compare_eq_eq.2 rfl]
    rcases Nat.lt_trichotomy m n with h | rfl | h
    · rw [Nat.compare_eq_lt.2 h,
        Nat.compare_eq_lt.2 (Nat.mul_lt_mul_of_pos_right h (scale_pos e))]
      rfl
    · rw [Nat.compare_eq_eq.2 rfl, Nat.compare_eq_eq.2 rfl]
      rfl
    · rw [Nat.compare_eq_gt.2 h,
        Nat.compare_eq_gt.2 (Nat.mul_lt_mul_of_pos_right h (scale_pos e))]
      rfl
  · rw [Int.compare_eq_gt.2 gt, Nat.compare_eq_gt.2 (mul_scale_lt small' (by omega) low' gt)]
    rfl

theorem compare_unitsOf {u v : UnpackedFloat} (hu : IsCanonical u) (hv : IsCanonical v)
    (ha : unitsOf u = some a) (hb : unitsOf v = some b) : u.compare v = some (compare a b) := by
  cases u with
  | infinity | notANumber => cases ha
  | zero s =>
    cases v with
    | infinity | notANumber => cases hb
    | zero t =>
      cases ha
      cases hb
      rfl
    | finite t n f pos =>
      have := Nat.mul_pos pos (scale_pos f)
      cases ha
      cases hb
      cases t
      · exact congrArg some (Int.compare_eq_gt.2 (by simp only [Sign.apply]; omega)).symm
      · exact congrArg some (Int.compare_eq_lt.2 (by simp only [Sign.apply]; omega)).symm
  | finite s m e pos =>
    have := Nat.mul_pos pos (scale_pos e)
    cases v with
    | infinity | notANumber => cases hb
    | zero t =>
      cases ha
      cases hb
      cases s
      · exact congrArg some (Int.compare_eq_lt.2 (by simp only [Sign.apply]; omega)).symm
      · exact congrArg some (Int.compare_eq_gt.2 (by simp only [Sign.apply]; omega)).symm
    | finite t n f pos' =>
      have := Nat.mul_pos pos' (scale_pos f)
      cases ha
      cases hb
      cases s <;> cases t
      · simp only [Sign.apply, compare_neg, compare_natCast, ← compare_mul_scale hu hv]
        rfl
      · exact congrArg some (Int.compare_eq_lt.2 (by simp only [Sign.apply]; omega)).symm
      · exact congrArg some (Int.compare_eq_gt.2 (by simp only [Sign.apply]; omega)).symm
      · simp only [Sign.apply, compare_natCast, ← compare_mul_scale hu hv]
        rfl

theorem compare?_of_units (hx : units? x = some a) (hy : units? y = some b) :
    compare? x y = some (compare a b) :=
  compare_unitsOf (isCanonical_toModel x) (isCanonical_toModel y) hx hy

/-! ## Equality -/

theorem compare_infinity_eq_iff {s : Sign} {v : UnpackedFloat} :
    (UnpackedFloat.infinity s).compare v = some .eq ↔ v = .infinity s := by
  cases v with
  | infinity t => cases s <;> cases t <;> simp [UnpackedFloat.compare] <;> decide
  | notANumber | zero | finite => cases s <;> simp [UnpackedFloat.compare]

/-- Two numbers are equal if they have the same size or are the same infinity. -/
theorem compare_eq_iff {u v : UnpackedFloat} (hu : IsCanonical u) (hv : IsCanonical v) :
    u.compare v = some .eq ↔
      (∃ a, unitsOf u = some a ∧ unitsOf v = some a) ∨
        ∃ s, u = .infinity s ∧ v = .infinity s := by
  cases u with
  | notANumber => simp [UnpackedFloat.compare, unitsOf]
  | infinity s => simp [compare_infinity_eq_iff, unitsOf]
  | zero | finite =>
    cases v with
    | notANumber => simp [UnpackedFloat.compare, unitsOf]
    | infinity t =>
      rw [compare_unpacked_swap]
      cases t <;> simp [UnpackedFloat.compare, unitsOf]
    | zero | finite =>
      rw [compare_unitsOf hu hv rfl rfl, Option.some_inj, Int.compare_eq_eq]
      simp [unitsOf, eq_comm]

theorem beq_iff_size : (x == y) = true ↔
    (∃ a, units? x = some a ∧ units? y = some a) ∨
      ∃ s, x.toModel.unpack = .infinity s ∧ y.toModel.unpack = .infinity s :=
  beq_iff.trans (compare_eq_iff (isCanonical_toModel x) (isCanonical_toModel y))

theorem beq_self_iff : (x == x) = true ↔ x.isNaN = false := by
  rw [beq_iff_size, units?]
  change _ ↔ x.toModel.unpack.isNaN = false
  cases x.toModel.unpack <;> simp [unitsOf, UnpackedFloat.isNaN]

theorem beq_comm (x y : Float) : (x == y) = (y == x) := by
  rw [Bool.eq_iff_iff, beq_iff_size, beq_iff_size]
  simp only [and_comm]

theorem beq_trans {z : Float} (first : (x == y) = true) (second : (y == z) = true) :
    (x == z) = true := by
  rw [beq_iff_size] at *
  rcases first with ⟨a, hx, hy⟩ | ⟨s, hx, hy⟩ <;> rcases second with ⟨b, hy', hz⟩ | ⟨t, hy', hz⟩
  · exact .inl ⟨a, hx, by rw [hz, ← hy', hy]⟩
  · simp [units?, hy', unitsOf] at hy
  · simp [units?, hy, unitsOf] at hy'
  · exact .inr ⟨s, hx, by rw [hz, ← hy', hy]⟩

/-! ## Integers -/

section Integers

variable {negative : Bool} {m : Nat} {e n : Int}

/-- The factor of a sign. -/
def factor (negative : Bool) : Int := if negative then -1 else 1

theorem apply_eq (s : Sign) (n : Int) : s.apply n = factor (s == .negative) * n := by
  cases s
  · exact (Int.neg_one_mul n).symm
  · exact (Int.one_mul n).symm

theorem factor_mul_eq_iff {d : Nat} (pos : 0 < d) :
    (m % d = 0 ∧ factor negative * (m / d : Nat) = n) ↔ factor negative * m = n * d := by
  have unit : factor negative * factor negative = 1 := by cases negative <;> rfl
  constructor
  · rintro ⟨divides, rfl⟩
    rw [mul_assoc, ← Nat.cast_mul, Nat.div_mul_cancel (Nat.dvd_of_mod_eq_zero divides)]
  · intro same
    have product : (m : Int) = factor negative * n * d := by
      rw [mul_assoc, ← same, ← mul_assoc, unit, one_mul]
    have divides : d ∣ m := Int.natCast_dvd_natCast.1 ⟨_, product.trans (mul_comm _ _)⟩
    obtain ⟨q, rfl⟩ := divides
    refine ⟨Nat.mul_mod_right d q, ?_⟩
    rw [Nat.mul_div_cancel_left q pos]
    have nonzero : (d : Int) ≠ 0 := by exact_mod_cast pos.ne'
    refine mul_right_cancel₀ nonzero ?_
    rw [← same, mul_assoc, mul_comm (q : Int), Nat.cast_mul]

theorem integer?_finite (low : -1074 ≤ e) :
    (Parts.finite negative m e).integer? = some n ↔
      factor negative * (m * scale e : Nat) = n * scale 0 := by
  have cancel {k l : Int} (f : Int) : k = l ↔ k * scale f = l * scale f :=
    (mul_left_inj' (by exact_mod_cast (scale_pos f).ne')).symm
  rw [Parts.integer?]
  by_cases high : 0 ≤ e
  · have scaled : scale e = 2 ^ e.toNat * scale 0 := by
      rw [← scale_add (by decide), Int.zero_add, Int.toNat_of_nonneg high]
    rw [if_pos high, Option.some_inj, cancel 0, mul_assoc, ← Nat.cast_mul, mul_assoc m, scaled]
    rfl
  · have scaled : scale 0 = 2 ^ (-e).toNat * scale e := by
      rw [← scale_add low]
      congr 1
      omega
    rw [if_neg high, scaled, Nat.cast_mul, Nat.cast_mul, ← mul_assoc, ← mul_assoc, ← cancel e,
      ← factor_mul_eq_iff (Nat.two_pow_pos _)]
    simp [factor]

end Integers

theorem integer?_ofUnpacked_iff {u : UnpackedFloat} (canonical : IsCanonical u) {n : Int} :
    (Parts.ofUnpacked u).integer? = some n ↔ unitsOf u = some (n * scale 0) := by
  cases u with
  | infinity | notANumber => simp [Parts.ofUnpacked, Parts.integer?, unitsOf]
  | zero s =>
    rw [Parts.ofUnpacked, integer?_finite (by decide), unitsOf, Option.some_inj, Nat.zero_mul,
      Nat.cast_zero, mul_zero]
  | finite s m e pos =>
    rw [Parts.ofUnpacked, integer?_finite canonical.finite.2.1, unitsOf, Option.some_inj, apply_eq]

/-- The integers are the multiples of the number one. -/
theorem integer?_eq_some_iff {n : Int} : integer? x = some n ↔ units? x = some (n * scale 0) := by
  rw [integer?, parts_eq]
  exact integer?_ofUnpacked_iff (isCanonical_toModel x)

theorem compare_mul_right {m n s : Int} (pos : 0 < s) : compare (m * s) (n * s) = compare m n := by
  rcases Int.lt_trichotomy m n with h | rfl | h
  · rw [Int.compare_eq_lt.2 h, Int.compare_eq_lt.2 (Int.mul_lt_mul_of_pos_right h pos)]
  · rw [Int.compare_eq_eq.2 rfl, Int.compare_eq_eq.2 rfl]
  · rw [Int.compare_eq_gt.2 h, Int.compare_eq_gt.2 (Int.mul_lt_mul_of_pos_right h pos)]

theorem compare?_of_integers {m n : Int} (hx : integer? x = some m) (hy : integer? y = some n) :
    compare? x y = some (compare m n) := by
  have pos : (0 : Int) < scale 0 := Int.natCast_pos.2 (scale_pos 0)
  rw [compare?_of_units (integer?_eq_some_iff.1 hx) (integer?_eq_some_iff.1 hy),
    compare_mul_right pos]

/-! ## Negation -/

theorem IsCanonical.neg {u : UnpackedFloat} (canonical : IsCanonical u) : IsCanonical u.neg := by
  cases canonical with
  | notANumber => exact .notANumber
  | infinity s => exact .infinity _
  | zero s => exact .zero _
  | tiny s pos small => exact .tiny _ pos small
  | full s full low high => exact .full _ full low high

theorem unpack_neg (x : Float) : (-x).toModel.unpack = x.toModel.unpack.neg :=
  unpack_pack (u := x.toModel.unpack.neg) (isCanonical_toModel x).neg

theorem units?_neg (x : Float) : units? (-x) = (units? x).map (- ·) := by
  rw [units?, units?, unpack_neg]
  cases x.toModel.unpack with
  | notANumber | infinity => rfl
  | zero => rfl
  | finite s m e pos => cases s <;> simp [unitsOf, UnpackedFloat.neg, Sign.apply]

/-! ## Addition -/

section Addition

variable {m n : Nat} {e f : Int}

theorem IsCanonical.fits {s : Sign} {pos : 0 < m} (h : IsCanonical (.finite s m e pos)) :
    Fits m e := by
  cases h with
  | tiny _ _ small => exact fits_tiny pos small
  | full _ full low _ => exact full.fits low

theorem decreaseExponent_mul_scale (low : -1074 ≤ f) (le : f ≤ e) (m : Nat) :
    (decreaseExponent m e f).1 * scale f = m * scale e := by
  obtain ⟨k, rfl⟩ := Int.le.dest le
  have amount : (f + k - f).toNat = k := by omega
  rw [scale_add low, decreaseExponent, amount, Nat.shiftLeft_eq, Nat.mul_assoc]

/-- What has the size of a number that fits is rounded to it. -/
theorem round_eq (s : Sign) (pos : 0 < m) (fits : Fits m e) (low : -1074 ≤ e) (low' : -1074 ≤ f)
    (size : n * scale f = m * scale e) : round .binary64 s n f = .finite s m e pos := by
  have target : Format.binary64.targetExponent (totalExponent m e) = e := fits
  rcases Int.le_total f e with le | le
  · obtain ⟨k, shift⟩ := Int.le.dest le
    obtain rfl : f = e - k := by omega
    obtain rfl : n = m * 2 ^ k := by
      refine Nat.eq_of_mul_eq_mul_right (scale_pos (e - k)) ?_
      rw [size, Nat.mul_assoc, ← scale_add low', shift]
    have amount : (e - k - e).toNat = 0 := by omega
    simp only [UnpackedFloat.round, totalExponent_shift pos, target, decreaseExponent, amount,
      Nat.shiftLeft_zero]
    simpa using roundWithAccuracy_fits s pos fits k
  · obtain ⟨k, rfl⟩ := Int.le.dest le
    obtain rfl : m = n * 2 ^ k := by
      refine Nat.eq_of_mul_eq_mul_right (scale_pos e) ?_
      rw [← size, Nat.mul_assoc, ← scale_add low]
    have amount : (e + k - e).toNat = k := by omega
    have total : totalExponent n (e + k) = totalExponent (n * 2 ^ k) e := by
      rw [← totalExponent_shift (Nat.pos_of_mul_pos_right pos) (e + k) k, Int.add_sub_cancel]
    simp only [UnpackedFloat.round, total, target, decreaseExponent, amount, Nat.shiftLeft_eq]
    simpa using roundWithAccuracy_fits s pos fits 0

theorem normalize_eq {u : UnpackedFloat} (canonical : IsCanonical u) (low : -1074 ≤ f)
    (nonzero : a ≠ 0) (size : unitsOf u = some (a * scale f)) (zero : Sign) :
    normalize .binary64 a f zero = u := by
  have unit : 0 < scale f := scale_pos f
  cases u with
  | infinity | notANumber => cases size
  | zero =>
    have none : a * scale f = 0 := (Option.some_inj.1 size).symm
    exact absurd ((Int.mul_eq_zero.1 none).resolve_right (by omega)) nonzero
  | finite s m e pos =>
    have size : s.apply (m * scale e : Nat) = a * scale f := Option.some_inj.1 size
    have positive : 0 < m * scale e := Nat.mul_pos pos (scale_pos e)
    have fits : Fits m e := canonical.fits
    have low' : -1074 ≤ e := canonical.finite.2.1
    obtain ⟨n, rfl | rfl⟩ := a.eq_nat_or_neg
    · have order : compare (n : Int) 0 = .gt := Int.compare_eq_gt.2 (by omega)
      cases s with
      | negative =>
        have size : -((m * scale e : Nat) : Int) = (n * scale f : Nat) := size
        omega
      | positive =>
        simp only [UnpackedFloat.normalize, order, Int.toNat_natCast]
        exact round_eq .positive pos fits low' low (Int.natCast_inj.1 size).symm
    · have order : compare (-n : Int) 0 = .lt := Int.compare_eq_lt.2 (by omega)
      rw [Int.neg_mul, ← Int.natCast_mul] at size
      cases s with
      | negative =>
        simp only [UnpackedFloat.normalize, order, Int.neg_neg, Int.toNat_natCast]
        exact round_eq .negative pos fits low' low (Int.natCast_inj.1 (Int.neg_inj.1 size)).symm
      | positive =>
        have size : ((m * scale e : Nat) : Int) = -(n * scale f : Nat) := size
        omega

theorem unitsOf_normalize {u : UnpackedFloat} (canonical : IsCanonical u) (low : -1074 ≤ f)
    (size : unitsOf u = some (a * scale f)) (zero : Sign) :
    IsCanonical (normalize .binary64 a f zero) ∧
      unitsOf (normalize .binary64 a f zero) = some (a * scale f) := by
  by_cases h : a = 0
  · subst h
    rw [Int.zero_mul]
    exact ⟨.zero zero, rfl⟩
  · rw [normalize_eq canonical low h size]
    exact ⟨canonical, size⟩

/-- The sum of two numbers is exact if it is the size of a number. -/
theorem unitsOf_add {u v w : UnpackedFloat} (hu : IsCanonical u) (hv : IsCanonical v)
    (hw : IsCanonical w) (ha : unitsOf u = some a) (hb : unitsOf v = some b)
    (sum : unitsOf w = some (a + b)) :
    IsCanonical (add .binary64 u v) ∧ unitsOf (add .binary64 u v) = some (a + b) := by
  cases u with
  | infinity | notANumber => cases ha
  | zero s =>
    obtain rfl : 0 = a := Option.some_inj.1 ha
    cases v with
    | infinity | notANumber => cases hb
    | zero t =>
      obtain rfl : 0 = b := Option.some_inj.1 hb
      cases s <;> cases t <;> exact ⟨.zero _, rfl⟩
    | finite t n f pos =>
      rw [Int.zero_add]
      exact ⟨hv, hb⟩
  | finite s m e pos =>
    cases v with
    | infinity | notANumber => cases hb
    | zero t =>
      obtain rfl : 0 = b := Option.some_inj.1 hb
      rw [Int.add_zero]
      exact ⟨hu, ha⟩
    | finite t n f pos' =>
      have low : -1074 ≤ min e f := Int.le_min.2 ⟨hu.finite.2.1, hv.finite.2.1⟩
      have total : (s.apply (decreaseExponent m e (min e f)).1 +
          t.apply (decreaseExponent n f (min e f)).1) * scale (min e f) = a + b := by
        obtain rfl : s.apply (m * scale e : Nat) = a := Option.some_inj.1 ha
        obtain rfl : t.apply (n * scale f : Nat) = b := Option.some_inj.1 hb
        rw [← decreaseExponent_mul_scale low (Int.min_le_left e f) m,
          ← decreaseExponent_mul_scale low (Int.min_le_right e f) n]
        simp only [apply_eq, Nat.cast_mul]
        ring
      rw [← total] at sum ⊢
      exact unitsOf_normalize hw low sum .positive

theorem units?_add {z : Float} (hx : units? x = some a) (hy : units? y = some b)
    (hz : units? z = some (a + b)) : units? (x + y) = some (a + b) := by
  obtain ⟨canonical, size⟩ := unitsOf_add (isCanonical_toModel x) (isCanonical_toModel y)
    (isCanonical_toModel z) hx hy hz
  change unitsOf (Float.Model.pack (add .binary64 x.toModel.unpack y.toModel.unpack)).unpack = _
  rw [unpack_pack canonical, size]

end Addition

end PageHarvest.Decimal
