import PageHarvest.Json.Coercion
import PageHarvest.Proofs.Decimal.Order

/-!
# Integers as floating point numbers

An integer becomes the nearest floating point number, which has 53 bits. Below `2 ^ 53` in size it
is kept, and as a value it is itself.

* `units?_ofInt`, `integer?_ofInt_rounded`: the floating point number of an integer;
* `integer?_ofInt`, `Json.ofNat_eq`: integers of 53 bits, and natural numbers as values;
* `Json.units?_ofFloat`: a finite number as a value has the same size.
-/

namespace PageHarvest

namespace Decimal

open Float.Model Float.Model.UnpackedFloat

variable {n k : Nat}

/-! ## Natural numbers of 53 bits -/

theorem log2_lt_of_small (small : n < 2 ^ (k + 1)) : n.log2 < k + 1 := by
  rcases Nat.eq_zero_or_pos n with rfl | pos
  · exact Nat.succ_pos k
  · exact (Nat.log2_lt pos.ne').2 small

section Short

variable (pos : 0 < n) (small : n < 2 ^ 53)

include pos small in
theorem isFull_ofNat : IsFull (n * 2 ^ (52 - n.log2)) := by
  have le : n.log2 < 53 := log2_lt_of_small small
  have positive : 0 < n * 2 ^ (52 - n.log2) := Nat.mul_pos pos (Nat.two_pow_pos _)
  refine (Nat.log2_eq_iff positive.ne').1 ?_
  rw [log2_mul_two_pow pos]
  omega

/-- A natural number with a significand of 53 bits. -/
def shortForm : UnpackedFloat :=
  .finite .positive (n * 2 ^ (52 - n.log2)) (n.log2 - 52) (isFull_ofNat pos small).pos

theorem isCanonical_shortForm : IsCanonical (shortForm pos small) := by
  have le : n.log2 < 53 := log2_lt_of_small small
  exact .full _ (isFull_ofNat pos small) (by omega) (by omega)

theorem unitsOf_shortForm : unitsOf (shortForm pos small) = some ((n : Int) * scale 0) := by
  have le : n.log2 < 53 := log2_lt_of_small small
  have size : n * 2 ^ (52 - n.log2) * scale (n.log2 - 52) = n * scale 0 := by
    rw [Nat.mul_assoc, ← scale_add (by omega)]
    congr 2
    omega
  exact congrArg some ((congrArg Nat.cast size).trans (Int.natCast_mul n (scale 0)))

theorem ofNat_eq_shortForm : UnpackedFloat.ofNat .binary64 n = shortForm pos small :=
  normalize_eq (isCanonical_shortForm pos small) (by decide) (by omega)
    (unitsOf_shortForm pos small) .positive

theorem shortForm_mul_one :
    UnpackedFloat.mul .binary64 (shortForm pos small)
      (.finite .positive (2 ^ 52) (-52) (by decide)) = shortForm pos small := by
  have fits : Fits (n * 2 ^ (52 - n.log2)) (n.log2 - 52) := (isCanonical_shortForm pos small).fits
  exact roundWithAccuracy_fits .positive (isFull_ofNat pos small).pos fits 52

theorem unpack_toUInt64_toFloat : n.toUInt64.toFloat.toModel.unpack = shortForm pos small := by
  have size : n.toUInt64.toNat = n := by
    simp
    omega
  change (Float.Model.pack (UnpackedFloat.ofNat .binary64 n.toUInt64.toNat)).unpack = _
  rw [size, ofNat_eq_shortForm pos small, unpack_pack (isCanonical_shortForm pos small)]

theorem unpack_ofNat_short : (Float.ofNat n).toModel.unpack = shortForm pos small := by
  have one : (Float.ofBits 0x3FF0000000000000).toModel.unpack =
      .finite .positive (2 ^ 52) (-52) (by decide) := by rfl
  -- a literal without exponent is its word times one
  have read : Float.ofNat n = n.toUInt64.toFloat * Float.ofBits 0x3FF0000000000000 := by
    change Float.ofScientific n false 0 = _
    rw [Float.ofScientific, dif_pos ⟨small, by decide⟩]
    rfl
  rw [read]
  change (Float.Model.pack (UnpackedFloat.mul .binary64
    n.toUInt64.toFloat.toModel.unpack (Float.ofBits 0x3FF0000000000000).toModel.unpack)).unpack = _
  rw [unpack_toUInt64_toFloat pos small, one, shortForm_mul_one,
    unpack_pack (isCanonical_shortForm pos small)]

end Short

/-! ## Longer natural numbers -/

/-- A number of more than 53 bits is rounded once, with all its bits. -/
theorem unpack_ofNat_long (bits : n.log2 = 52 + k) (high : k ≤ 970) (long : 2 ^ 53 ≤ n) :
    ∃ (m c : Nat) (full : IsFull m), roundEven n k = m * 2 ^ c ∧
      (Float.ofNat n).toModel.unpack = .finite .positive m (0 + k + c) full.pos := by
  obtain ⟨m, c, full, carry, rounds, rounded⟩ :=
    roundWithAccuracy_even .positive bits (e := 0) (by decide) 53
  refine ⟨m, c, full, rounds, ?_⟩
  have read : Float.ofNat n = Float.ofModel (Float.Model.pack
      (UnpackedFloat.ofScientific .binary64 n 0)) := by
    change Float.ofScientific n false 0 = _
    rw [Float.ofScientific, dif_neg (by omega)]
    rfl
  have inRange : ¬ (0 : Int) < -((2 ^ Format.binary64.exponentBits : Int) + n.log2) := by
    have bound : (0 : Int) ≤ 2 ^ Format.binary64.exponentBits := by decide
    omega
  have significand : n <<< 53 * 10 ^ (0 : Int).toNat = n * 2 ^ 53 := by
    rw [Nat.shiftLeft_eq]
    exact Nat.mul_one _
  have product : UnpackedFloat.ofScientific .binary64 n 0 =
      .finite .positive m (0 + k + c) full.pos := by
    rw [UnpackedFloat.ofScientific, dif_neg (pos_of_long bits).ne', if_neg (by decide),
      if_neg inRange, if_pos (Int.le_refl 0)]
    change roundWithAccuracy .binary64 .positive (n <<< 53 * 10 ^ (0 : Int).toNat)
      (0 - (53 : Nat)) .exact = _
    rw [significand, rounded]
  rw [read]
  change (Float.Model.pack (UnpackedFloat.ofScientific .binary64 n 0)).unpack = _
  rw [product, unpack_pack (.full _ full (by omega) (by omega))]

theorem units?_ofNat (finite : n.log2 < 1023) :
    units? (Float.ofNat n) = some ((roundedNat n : Int) * scale 0) := by
  rcases Nat.eq_zero_or_pos n with rfl | pos
  · decide +kernel
  rcases Nat.lt_or_ge n (2 ^ 53) with small | long
  · rw [units?, unpack_ofNat_short pos small, roundedNat_of_small small.le,
      unitsOf_shortForm]
  · obtain ⟨k, bits⟩ : ∃ k, n.log2 = 52 + k :=
      Nat.exists_eq_add_of_le ((Nat.le_log2 pos.ne').2 (Nat.le_trans (by decide) long))
    obtain ⟨m, c, full, rounds, unpacked⟩ := unpack_ofNat_long bits (by omega) long
    have size : m * scale (0 + k + c) = roundedNat n * scale 0 := by
      rw [scale_add (by omega), scale_add (by decide), roundedNat, bits, Nat.add_sub_cancel_left,
        rounds]
      ring
    rw [units?, unpacked, ← Int.natCast_mul, ← size]
    rfl

/-! ## Integers -/

/-- The number of an integer is the nearest one. -/
theorem units?_ofInt {n : Int} (finite : n.natAbs.log2 < 1023) :
    units? (Float.ofInt n) = some (rounded n * scale 0) := by
  cases n with
  | ofNat n => exact units?_ofNat finite
  | negSucc n =>
    change units? (-Float.ofNat (n + 1)) = _
    have size : units? (Float.ofNat (n + 1)) = _ := units?_ofNat finite
    rw [units?_neg, size, Option.map_some, ← Int.neg_mul]
    rfl

theorem integer?_ofInt_rounded {n : Int} (finite : n.natAbs.log2 < 1023) :
    integer? (Float.ofInt n) = some (rounded n) :=
  integer?_eq_some_iff.2 (units?_ofInt finite)

/-- An integer of 53 bits is read back from its floating point number. -/
theorem integer?_ofInt {n : Int} (small : n.natAbs < 2 ^ 53) :
    integer? (Float.ofInt n) = some n := by
  have bits : n.natAbs.log2 < 53 := log2_lt_of_small small
  rw [integer?_ofInt_rounded (by omega), rounded_of_small small.le]

variable {x y : Float} {a b : Int}

/-- The sum of two integers is exact if it has 53 bits. -/
theorem integer?_add (hx : integer? x = some a) (hy : integer? y = some b)
    (small : (a + b).natAbs < 2 ^ 53) : integer? (x + y) = some (a + b) := by
  have sum : integer? (Float.ofInt (a + b)) = some (a + b) := integer?_ofInt small
  rw [integer?_eq_some_iff, Int.add_mul] at *
  exact units?_add hx hy sum

theorem lt_iff_of_integers (hx : integer? x = some a) (hy : integer? y = some b) :
    x < y ↔ a < b := by
  rw [lt_iff, compare?_of_integers hx hy, Option.some_inj, Int.compare_eq_lt]

end Decimal

namespace Json

theorem ofFloat_of_integer? {f : Float} {n : Int} (integer : Decimal.integer? f = some n)
    (small : n.natAbs < exactLimit) : ofFloat f = .int n := by
  rw [Decimal.integer?] at integer
  rw [ofFloat]
  cases parts : Decimal.parts f with
  | nan | infinite => rw [parts] at integer; cases integer
  | finite negative m q =>
    rw [parts] at integer
    simp only [integer, if_pos small]

/-- A natural number of moderate size is itself as a value. -/
theorem ofNat_eq {n : Nat} (small : n < 2 ^ 53) : ofNat n = .int n :=
  ofFloat_of_integer? (Decimal.integer?_ofInt (n := n) small) small

/-- A finite number as a value is a number of the same size. -/
theorem units?_ofFloat {f : Float} {a : Int} (size : Decimal.units? f = some a) :
    Decimal.units? (floatOf (ofFloat f)) = some a := by
  obtain ⟨negative, m, e, parts⟩ := Decimal.parts_of_units? size
  have integer : (Decimal.Parts.finite negative m e).integer? = Decimal.integer? f := by
    rw [Decimal.integer?, parts]
  rw [ofFloat, parts]
  simp only [integer]
  cases whole : Decimal.integer? f with
  | none => exact size
  | some n =>
    by_cases small : n.natAbs < exactLimit
    · have kept : Decimal.integer? (Float.ofInt n) = some n := Decimal.integer?_ofInt small
      simp only [if_pos small]
      exact (Decimal.integer?_eq_some_iff.1 kept).trans
        ((Decimal.integer?_eq_some_iff.1 whole).symm.trans size)
    · simp only [if_neg small]
      exact size

/-- What is not finite is null as a value. -/
theorem ofFloat_of_infinite {x : Float} (infinite : Decimal.units? x = none) :
    ofFloat x = .null := by
  rw [Decimal.units?] at infinite
  rw [ofFloat, Decimal.parts_eq]
  cases form : x.toModel.unpack with
  | infinity | notANumber => rfl
  | zero | finite =>
    rw [form] at infinite
    cases infinite

theorem ofFloat_ne_str (x : Float) (s : String) : ofFloat x ≠ .str s := by
  unfold ofFloat
  split
  · exact Json.noConfusion
  · exact Json.noConfusion
  · split
    · split <;> exact Json.noConfusion
    · exact Json.noConfusion

theorem units?_zero : Decimal.units? (toFloat (some .null)) = some 0 := by decide +kernel

/-- What a number becomes as a value is finite. -/
theorem exists_units?_ofFloat (x : Float) :
    ∃ a, Decimal.units? (toFloat (some (ofFloat x))) = some a := by
  cases size : Decimal.units? x with
  | none => exact ⟨0, ofFloat_of_infinite size ▸ units?_zero⟩
  | some a => exact ⟨a, units?_ofFloat size⟩

end Json

end PageHarvest
