import Mathlib
import PageHarvest.Decimal.Binary64

/-!
# The forms of floating point numbers, and rounding

The bits of a number unpack to a sign, a significand and an exponent. Only some of these are the
form of a number: the significand has 53 bits, or fewer at the least exponent. What has more bits
than a significand holds is shifted to the right, and the bits that fall out decide to which
neighbour it goes: to the nearer one, and half-way to the even one.

* `roundEven`, `roundedMantissa_shiftRight`: what a shift by some bits rounds to;
* `roundWithAccuracy_fits`, `roundWithAccuracy_even`: a significand of 53 bits is not rounded, and a
  greater one is rounded by the bits that it has too many;
* `rounded`, `rounded_mono`, `rounded_of_small`: the integers that 53 bits can hold;
* `isCanonical_unpack`, `unpack_pack`: the forms that bits unpack to, and that they are kept by;
* `parts_eq`: what is read off the bits directly is the same form.
-/

namespace PageHarvest.Decimal

open Float.Model Float.Model.UnpackedFloat

variable {m n k : Nat} {e : Int}

/-! ## Shifts -/

/-- The quotient by `2 ^ k` to the nearest integer, half-way to the even one. -/
def roundEven (n k : Nat) : Nat :=
  let q := n / 2 ^ k
  let twice := 2 * (n % 2 ^ k)
  if twice < 2 ^ k then q else if twice = 2 ^ k then q + q % 2 else q + 1

theorem le_roundEven (n k : Nat) : n / 2 ^ k ≤ roundEven n k := by
  unfold roundEven
  simp only
  split
  · exact Nat.le_refl _
  · split <;> omega

theorem roundEven_le (n k : Nat) : roundEven n k ≤ n / 2 ^ k + 1 := by
  unfold roundEven
  simp only
  split
  · exact Nat.le_succ _
  · split <;> omega

theorem roundEven_zero (n : Nat) : roundEven n 0 = n := by
  rw [roundEven, Nat.pow_zero, Nat.div_one, Nat.mod_one]
  rfl

theorem roundEven_mul (n k j : Nat) : roundEven (n * 2 ^ j) (k + j) = roundEven n k := by
  have pos : 0 < 2 ^ j := Nat.two_pow_pos j
  have below : 2 * (n % 2 ^ k * 2 ^ j) < 2 ^ k * 2 ^ j ↔ 2 * (n % 2 ^ k) < 2 ^ k := by
    rw [← Nat.mul_assoc]
    exact Nat.mul_lt_mul_right pos
  have middle : 2 * (n % 2 ^ k * 2 ^ j) = 2 ^ k * 2 ^ j ↔ 2 * (n % 2 ^ k) = 2 ^ k := by
    rw [← Nat.mul_assoc]
    exact Nat.mul_left_inj pos.ne'
  rw [roundEven, Nat.pow_add, Nat.mul_div_mul_right _ _ pos, Nat.mul_mod_mul_right]
  simp only [below, middle]
  rfl

theorem roundEven_mono (k : Nat) (le : m ≤ n) : roundEven m k ≤ roundEven n k := by
  rcases Nat.lt_or_eq_of_le (Nat.div_le_div_right le : m / 2 ^ k ≤ n / 2 ^ k) with lt | same
  · exact Nat.le_trans (roundEven_le m k) (Nat.le_trans lt (le_roundEven n k))
  · have rest : m % 2 ^ k ≤ n % 2 ^ k := by
      have := Nat.div_add_mod m (2 ^ k)
      have := Nat.div_add_mod n (2 ^ k)
      rw [same] at *
      omega
    unfold roundEven
    simp only [same]
    split
    · exact le_roundEven n k
    · split
      all_goals
        rw [if_neg (by omega)]
        split <;> omega

/-- The bits that a shift keeps and what it remembers of the others. -/
theorem shiftRight_eq (n k : Nat) :
    (⟨n, false, false⟩ : ExtendedMantissa) >>> k =
      ⟨n / 2 ^ k, 2 ^ k ≤ 2 * (n % 2 ^ k),
        n % 2 ^ k ≠ 0 ∧ 2 * (n % 2 ^ k) ≠ 2 ^ k⟩ := by
  change k.repeat ExtendedMantissa.shiftRightOne ⟨n, false, false⟩ = _
  induction k with
  | zero => simp [Nat.repeat, Nat.mod_one]
  | succ k ih =>
    have pos : 0 < 2 ^ k := Nat.two_pow_pos k
    have inside : n % 2 ^ k < 2 ^ k := Nat.mod_lt _ pos
    have rest : n % 2 ^ (k + 1) = n % 2 ^ k + 2 ^ k * (n / 2 ^ k % 2) := by
      rw [Nat.pow_succ, Nat.mod_mul]
    have quotient : n / 2 ^ k / 2 = n / 2 ^ (k + 1) := by
      rw [Nat.div_div_eq_div_mul, Nat.pow_succ]
    have double : 2 ^ (k + 1) = 2 * 2 ^ k := by rw [Nat.pow_succ, Nat.mul_comm]
    rw [Nat.repeat, ih, ExtendedMantissa.shiftRightOne, ExtendedMantissa.mk.injEq]
    refine ⟨quotient, ?half, ?rest⟩
    case half =>
      rw [rest, double, Bool.eq_iff_iff, bne_iff_ne, decide_eq_true_iff]
      rcases Nat.mod_two_eq_zero_or_one (n / 2 ^ k) with even | odd
      · rw [even]
        omega
      · rw [odd]
        omega
    case rest =>
      rw [rest, double, Bool.eq_iff_iff, Bool.or_eq_true, decide_eq_true_iff, decide_eq_true_iff,
        decide_eq_true_iff]
      rcases Nat.mod_two_eq_zero_or_one (n / 2 ^ k) with even | odd
      · rw [even]
        omega
      · rw [odd]
        omega

theorem roundedMantissa_shiftRight (n k : Nat) :
    ((⟨n, false, false⟩ : ExtendedMantissa) >>> k).roundedMantissa = roundEven n k := by
  rw [shiftRight_eq, roundEven]
  have pos : 0 < 2 ^ k := Nat.two_pow_pos k
  by_cases below : 2 * (n % 2 ^ k) < 2 ^ k
  · have bit : decide (2 ^ k ≤ 2 * (n % 2 ^ k)) = false := decide_eq_false (by omega)
    rw [if_pos below, bit]
    cases decide (n % 2 ^ k ≠ 0 ∧ 2 * (n % 2 ^ k) ≠ 2 ^ k) <;> rfl
  · have bit : decide (2 ^ k ≤ 2 * (n % 2 ^ k)) = true := decide_eq_true (by omega)
    rw [if_neg below, bit]
    by_cases middle : 2 * (n % 2 ^ k) = 2 ^ k
    · rw [if_pos middle, decide_eq_false (fun h => h.2 middle)]
      rfl
    · rw [if_neg middle, decide_eq_true ⟨by omega, middle⟩]
      rfl

/-! ## Significands -/

/-- A significand of 53 bits. -/
def IsFull (m : Nat) : Prop := 2 ^ 52 ≤ m ∧ m < 2 ^ 53

theorem IsFull.log2 (full : IsFull m) : m.log2 = 52 :=
  (Nat.log2_eq_iff (by have := full.1; omega)).2 full

theorem IsFull.pos (full : IsFull m) : 0 < m := Nat.lt_of_lt_of_le (by decide) full.1

/-- A significand that was rounded up to `2 ^ 53` has one bit too many. -/
theorem exists_isFull (low : 2 ^ 52 ≤ n) (high : n ≤ 2 ^ 53) :
    ∃ m c, IsFull m ∧ c ≤ 1 ∧ n = m * 2 ^ c := by
  rcases Nat.lt_or_eq_of_le high with lt | rfl
  · exact ⟨n, 0, ⟨low, lt⟩, by decide, (Nat.mul_one n).symm⟩
  · exact ⟨2 ^ 52, 1, ⟨Nat.le_refl _, by decide⟩, by decide, rfl⟩

theorem log2_mul_two_pow (h : 0 < m) (k : Nat) : (m * 2 ^ k).log2 = m.log2 + k := by
  have pos : 0 < m * 2 ^ k := Nat.mul_pos h (Nat.two_pow_pos k)
  refine (Nat.log2_eq_iff (Nat.ne_of_gt pos)).2 ⟨?_, ?_⟩
  · rw [Nat.pow_add]
    exact Nat.mul_le_mul_right _ (Nat.log2_self_le (Nat.ne_of_gt h))
  · rw [Nat.add_right_comm, Nat.pow_add]
    exact Nat.mul_lt_mul_of_pos_right Nat.lt_log2_self (Nat.two_pow_pos k)

theorem totalExponent_shift (pos : 0 < m) (e : Int) (k : Nat) :
    totalExponent (m * 2 ^ k) (e - k) = totalExponent m e := by
  rw [totalExponent, totalExponent, log2_mul_two_pow pos]
  push_cast
  omega

/-- A significand and its exponent as they are stored: with 53 bits, or at the least exponent. -/
def Fits (m : Nat) (e : Int) : Prop := Format.binary64.targetExponent (totalExponent m e) = e

theorem pos_of_long (bits : n.log2 = 52 + k) : 0 < n := by
  refine Nat.pos_of_ne_zero fun zero => ?_
  rw [zero, Nat.log2_zero] at bits
  omega

theorem targetExponent_long (bits : n.log2 = 52 + k) (low : -1074 ≤ e) :
    Format.binary64.targetExponent (totalExponent n e) = e + k := by
  rw [totalExponent, bits]
  simp only [Format.targetExponent, Format.mantissaBits, Format.minExponent]
  push_cast
  omega

theorem IsFull.fits (full : IsFull m) (low : -1074 ≤ e) : Fits m e :=
  (targetExponent_long (k := 0) full.log2 low).trans (Int.add_zero e)

theorem fits_tiny (pos : 0 < m) (small : m < 2 ^ 52) : Fits m (-1074) := by
  have bits : m.log2 < 52 := (Nat.log2_lt pos.ne').2 small
  rw [Fits, totalExponent]
  simp only [Format.targetExponent, Format.mantissaBits, Format.minExponent]
  push_cast
  omega

theorem shiftToTargetExponent_long (bits : n.log2 = 52 + k) (low : -1074 ≤ e) (j : Nat) :
    shiftToTargetExponent .binary64 (n * 2 ^ j) (e - j) .exact =
      ((⟨n * 2 ^ j, false, false⟩ : ExtendedMantissa) >>> (k + j), e + k) := by
  have amount : (e + k - (e - j)).toNat = k + j := by omega
  simp only [shiftToTargetExponent, totalExponent_shift (pos_of_long bits),
    targetExponent_long bits low, shiftToExponent, amount]
  refine Prod.ext rfl ?_
  push_cast
  omega

theorem shiftToTargetExponent_fits (pos : 0 < m) (fits : Fits m e) (k : Nat) :
    shiftToTargetExponent .binary64 (m * 2 ^ k) (e - k) .exact = (⟨m, false, false⟩, e) := by
  have target : Format.binary64.targetExponent (totalExponent m e) = e := fits
  have amount : (e - (e - k)).toNat = k := by omega
  have shifted : (⟨m * 2 ^ k, false, false⟩ : ExtendedMantissa) >>> k = ⟨m, false, false⟩ := by
    rw [shiftRight_eq, Nat.mul_div_cancel _ (Nat.two_pow_pos k), Nat.mul_mod_left]
    simp
  simp only [shiftToTargetExponent, totalExponent_shift pos, target, shiftToExponent, amount]
  exact Prod.ext shifted (Int.sub_add_cancel e k)

/-- What fits is not rounded. -/
theorem roundWithAccuracy_fits (s : Sign) (pos : 0 < m) (fits : Fits m e) (k : Nat) :
    roundWithAccuracy .binary64 s (m * 2 ^ k) (e - k) .exact = .finite s m e pos := by
  have again : shiftToTargetExponent .binary64 m e .exact = (⟨m, false, false⟩, e) := by
    simpa using shiftToTargetExponent_fits pos fits 0
  have kept : (⟨m, false, false⟩ : ExtendedMantissa).roundedMantissa = m := rfl
  simp only [roundWithAccuracy, shiftToTargetExponent_fits pos fits k, kept, again]
  rw [dif_neg (Nat.ne_of_gt pos)]

/-- A number of at least 53 bits is rounded to a significand and moved there. -/
theorem roundWithAccuracy_even (s : Sign) (bits : n.log2 = 52 + k) (low : -1074 ≤ e) (j : Nat) :
    ∃ (m c : Nat) (full : IsFull m), c ≤ 1 ∧ roundEven n k = m * 2 ^ c ∧
      roundWithAccuracy .binary64 s (n * 2 ^ j) (e - j) .exact =
        .finite s m (e + k + c) full.pos := by
  obtain ⟨least, most⟩ := (Nat.log2_eq_iff (pos_of_long bits).ne').1 bits
  have lower : 2 ^ 52 ≤ n / 2 ^ k := by
    rw [Nat.le_div_iff_mul_le (Nat.two_pow_pos k), ← Nat.pow_add]
    exact least
  have upper : n / 2 ^ k < 2 ^ 53 := by
    rw [Nat.div_lt_iff_lt_mul (Nat.two_pow_pos k), ← Nat.pow_add]
    exact Nat.lt_of_lt_of_le most (Nat.pow_le_pow_right (by decide) (by omega))
  obtain ⟨m, c, full, carry, rounds⟩ := exists_isFull
    (Nat.le_trans lower (le_roundEven n k)) (Nat.le_trans (roundEven_le n k) upper)
  refine ⟨m, c, full, carry, rounds, ?_⟩
  have again : shiftToTargetExponent .binary64 (m * 2 ^ c) (e + k) .exact =
      (⟨m, false, false⟩, e + k + c) := by
    simpa using shiftToTargetExponent_fits full.pos (full.fits (e := e + k + c) (by omega)) c
  simp only [roundWithAccuracy, shiftToTargetExponent_long bits low, roundedMantissa_shiftRight,
    roundEven_mul, rounds, again]
  rw [dif_neg (Nat.ne_of_gt full.pos)]

/-! ## Integers of 53 bits -/

/-- The nearest natural number that 53 bits can hold, half-way the one with the even significand. -/
def roundedNat (n : Nat) : Nat := roundEven n (n.log2 - 52) * 2 ^ (n.log2 - 52)

/-- The nearest integer that 53 bits can hold. -/
def rounded : Int → Int
  | .ofNat n => roundedNat n
  | .negSucc n => -roundedNat (n + 1)

theorem roundedNat_of_small (small : n ≤ 2 ^ 53) : roundedNat n = n := by
  rcases Nat.lt_or_eq_of_le small with lt | rfl
  · have bits : n.log2 - 52 = 0 := by
      rcases Nat.eq_zero_or_pos n with rfl | pos
      · rfl
      · have := (Nat.log2_lt pos.ne').2 lt
        omega
    rw [roundedNat, bits, roundEven_zero, Nat.pow_zero, Nat.mul_one]
  · decide +kernel

/-- Rounding does not leave the numbers with as many bits, but for the next power of two. -/
theorem roundedNat_bounds (pos : 0 < n) :
    2 ^ n.log2 ≤ roundedNat n ∧ roundedNat n ≤ 2 ^ (n.log2 + 1) := by
  have least : 2 ^ n.log2 ≤ n := Nat.log2_self_le pos.ne'
  have most : n < 2 ^ (n.log2 + 1) := Nat.lt_log2_self
  rcases Nat.le_total 52 n.log2 with long | short
  · obtain ⟨k, bits⟩ := Nat.exists_eq_add_of_le long
    have power (i : Nat) : 2 ^ (i + k) = 2 ^ i * 2 ^ k := Nat.pow_add 2 i k
    rw [roundedNat, bits, Nat.add_sub_cancel_left]
    rw [bits] at least most
    constructor
    · rw [power]
      refine Nat.mul_le_mul_right _ (Nat.le_trans ?_ (le_roundEven n k))
      rwa [Nat.le_div_iff_mul_le (Nat.two_pow_pos k), ← power]
    · rw [Nat.add_right_comm, power]
      refine Nat.mul_le_mul_right _ (Nat.le_trans (roundEven_le n k) ?_)
      rwa [Nat.succ_le_iff, Nat.div_lt_iff_lt_mul (Nat.two_pow_pos k), ← power, Nat.add_right_comm]
  · have small : n ≤ 2 ^ 53 :=
      Nat.le_trans most.le (Nat.pow_le_pow_right (by decide) (by omega))
    rw [roundedNat_of_small small]
    exact ⟨least, most.le⟩

theorem roundedNat_mono (le : m ≤ n) : roundedNat m ≤ roundedNat n := by
  rcases Nat.eq_zero_or_pos m with rfl | pos
  · rw [roundedNat_of_small (by decide)]
    exact Nat.zero_le _
  have pos' : 0 < n := Nat.lt_of_lt_of_le pos le
  have bits : m.log2 ≤ n.log2 :=
    (Nat.le_log2 pos'.ne').2 (Nat.le_trans (Nat.log2_self_le pos.ne') le)
  rcases Nat.lt_or_eq_of_le bits with fewer | same
  · calc roundedNat m ≤ 2 ^ (m.log2 + 1) := (roundedNat_bounds pos).2
      _ ≤ 2 ^ n.log2 := Nat.pow_le_pow_right (by decide) fewer
      _ ≤ roundedNat n := (roundedNat_bounds pos').1
  · rw [roundedNat, roundedNat, same]
    exact Nat.mul_le_mul_right _ (roundEven_mono _ le)

theorem rounded_natCast (n : Nat) : rounded n = roundedNat n := rfl

theorem rounded_neg_natCast (n : Nat) : rounded (-n) = -roundedNat n := by
  cases n with
  | zero => rfl
  | succ n => rfl

theorem rounded_mono {a b : Int} (le : a ≤ b) : rounded a ≤ rounded b := by
  obtain ⟨m, rfl | rfl⟩ := a.eq_nat_or_neg <;> obtain ⟨n, rfl | rfl⟩ := b.eq_nat_or_neg
  · have := roundedNat_mono (m := m) (n := n) (by omega)
    rw [rounded_natCast, rounded_natCast]
    omega
  · obtain ⟨rfl, rfl⟩ : m = 0 ∧ n = 0 := by omega
    exact Int.le_refl _
  · rw [rounded_natCast, rounded_neg_natCast]
    omega
  · have := roundedNat_mono (m := n) (n := m) (by omega)
    rw [rounded_neg_natCast, rounded_neg_natCast]
    omega

/-- An integer of 53 bits is rounded to itself. -/
theorem rounded_of_small {n : Int} (small : n.natAbs ≤ 2 ^ 53) : rounded n = n := by
  obtain ⟨m, rfl | rfl⟩ := n.eq_nat_or_neg
  · rw [rounded_natCast, roundedNat_of_small (by omega)]
  · rw [rounded_neg_natCast, roundedNat_of_small (by omega)]

/-! ## Bits -/

section

variable (b : BitVec Format.binary64.numBits)

theorem toNat_unpackMantissa : (unpackMantissa b).toNat = b.toNat % 2 ^ 52 := by
  rw [unpackMantissa, BitVec.toNat_cast, BitVec.extractLsb_toNat]
  rfl

theorem toNat_unpackExponent : (unpackExponent b).toNat = b.toNat / 2 ^ 52 % 2 ^ 11 := by
  rw [unpackExponent, BitVec.toNat_cast, BitVec.extractLsb_toNat, Nat.shiftRight_eq_div_pow]
  rfl

theorem toNat_unpackSign : (unpackSign b).toNat = b.toNat / 2 ^ 63 := by
  have bound : b.toNat < 2 ^ 64 := b.isLt
  rw [unpackSign, BitVec.toNat_cast, BitVec.extractLsb_toNat, Nat.shiftRight_eq_div_pow]
  change b.toNat / 2 ^ 63 % 2 ^ 1 = b.toNat / 2 ^ 63
  omega

theorem toNat_implicit (m : BitVec 52) : (1#1 ++ m).toNat = 2 ^ 52 + m.toNat := by
  rw [BitVec.toNat_append, ← Nat.shiftLeft_add_eq_or_of_lt m.isLt]
  rfl

end

/-! ## Canonical forms -/

/-- The unpacked forms of numbers: a finite one has a full significand, or a smaller one at the
least exponent. -/
inductive IsCanonical : UnpackedFloat → Prop
  | notANumber : IsCanonical .notANumber
  | infinity (s : Sign) : IsCanonical (.infinity s)
  | zero (s : Sign) : IsCanonical (.zero s)
  | tiny (s : Sign) {m : Nat} (pos : 0 < m) (small : m < 2 ^ 52) :
      IsCanonical (.finite s m (-1074) pos)
  | full (s : Sign) {m : Nat} {e : Int} (full : IsFull m) (low : -1074 ≤ e) (high : e ≤ 971) :
      IsCanonical (.finite s m e full.pos)

theorem isCanonical_unpack (b : BitVec Format.binary64.numBits) :
    IsCanonical (UnpackedFloat.unpack .binary64 b) := by
  have significand : (unpackMantissa b).toNat < 2 ^ 52 := (unpackMantissa b).isLt
  have biased : (unpackExponent b).toNat < 2 ^ 11 := (unpackExponent b).isLt
  have bias : Format.binary64.exponentBias = 1023 := rfl
  unfold UnpackedFloat.unpack
  simp only [bias]
  split
  case isTrue =>
    split
    · exact .infinity _
    · exact .notANumber
  case isFalse finite =>
    split
    case isTrue zero =>
      split
      · exact .zero _
      · rw [zero]
        exact .tiny _ _ significand
    case isFalse normal =>
      have finite : (unpackExponent b).toNat ≠ 2047 := fun h => finite (BitVec.eq_of_toNat_eq h)
      have normal : (unpackExponent b).toNat ≠ 0 := fun h => normal (BitVec.eq_of_toNat_eq h)
      have full : IsFull (1#1 ++ unpackMantissa b).toNat := by
        rw [toNat_implicit]
        exact ⟨by omega, by omega⟩
      exact .full _ full (by omega) (by omega)

theorem pack_full (sign : Sign) (full : IsFull m) (low : -1074 ≤ e) (high : e ≤ 971) :
    UnpackedFloat.pack .binary64 (.finite sign m e full.pos) =
      packComponents .binary64 sign (BitVec.ofNat 11 (e + 1075).toNat) (BitVec.ofNat 52 m) := by
  have biased : (e + Format.binary64.exponentBias + Format.binary64.mantissaBitsWithoutImplicit) =
      e + 1075 := by
    simp only [Format.exponentBias]
    omega
  rw [UnpackedFloat.pack]
  simp only [biased, full.log2]
  rw [if_neg (by omega), if_pos (by decide)]

theorem unpack_pack_full (sign : Sign) (full : IsFull m) (low : -1074 ≤ e) (high : e ≤ 971) :
    (Float.Model.pack (.finite sign m e full.pos)).unpack = .finite sign m e full.pos := by
  change UnpackedFloat.unpack .binary64
    (UnpackedFloat.pack .binary64 (.finite sign m e full.pos)) = _
  have small : (e + 1075).toNat < 2 ^ 11 := by omega
  have biased : (BitVec.ofNat 11 (e + 1075).toNat).toNat = (e + 1075).toNat := by
    rw [BitVec.toNat_ofNat, Nat.mod_eq_of_lt small]
  have finite : BitVec.ofNat 11 (e + 1075).toNat ≠ -1#11 := by
    intro h
    have greatest : (e + 1075).toNat = 2047 := biased.symm.trans (congrArg BitVec.toNat h)
    omega
  have normal : BitVec.ofNat 11 (e + 1075).toNat ≠ 0#11 := by
    intro h
    have least : (e + 1075).toNat = 0 := biased.symm.trans (congrArg BitVec.toNat h)
    omega
  rw [pack_full sign full low high, UnpackedFloat.unpack]
  simp only [unpackMantissa_packComponents, unpackExponent_packComponents,
    unpackSign_packComponents, Sign.ofBitVec_toBitVec]
  rw [if_neg finite, if_neg normal]
  obtain ⟨least, greatest⟩ := full
  congr 1
  · rw [toNat_implicit, BitVec.toNat_ofNat]
    omega
  · rw [biased]
    simp only [Format.exponentBias]
    omega

theorem unpack_pack_tiny (s : Sign) (pos : 0 < m) (small : m < 2 ^ 52) :
    (Float.Model.pack (.finite s m (-1074) pos)).unpack = .finite s m (-1074) pos := by
  have log2 : m.log2 ≠ 52 := Nat.ne_of_lt ((Nat.log2_lt (Nat.ne_of_gt pos)).2 small)
  have significand : (BitVec.ofNat 52 m).toNat = m := by
    rw [BitVec.toNat_ofNat, Nat.mod_eq_of_lt small]
  have nonzero : BitVec.ofNat 52 m ≠ 0#52 := by
    intro h
    have zero : m = 0 := significand.symm.trans (congrArg BitVec.toNat h)
    omega
  change UnpackedFloat.unpack .binary64 (UnpackedFloat.pack .binary64 _) = _
  rw [UnpackedFloat.pack, if_neg (by decide), if_neg (by simpa [Format.mantissaBits] using log2),
    UnpackedFloat.unpack]
  simp only [unpackMantissa_packComponents, unpackExponent_packComponents,
    unpackSign_packComponents, Sign.ofBitVec_toBitVec]
  rw [if_neg (by decide), if_pos trivial, dif_neg nonzero]
  simp only [significand]
  rfl

theorem unpack_pack {u : UnpackedFloat} (canonical : IsCanonical u) :
    (Float.Model.pack u).unpack = u := by
  cases canonical with
  | notANumber => rfl
  | infinity s => cases s <;> rfl
  | zero s => cases s <;> rfl
  | tiny s pos small => exact unpack_pack_tiny s pos small
  | full s full low high => exact unpack_pack_full s full low high

/-- What the bits of a number stand for, by its unpacked form. -/
def Parts.ofUnpacked : UnpackedFloat → Parts
  | .notANumber => .nan
  | .infinity s => .infinite (s == .negative)
  | .zero s => .finite (s == .negative) 0 (-1074)
  | .finite s m e _ => .finite (s == .negative) m e

theorem ofBitVec_beq_negative (b : BitVec 1) : (Sign.ofBitVec b == .negative) = (b.toNat == 1) := by
  rcases BitVec.eq_zero_or_eq_one b with rfl | rfl <;> rfl

theorem parts_eq (x : Float) : parts x = .ofUnpacked x.toModel.unpack := by
  change Parts.ofBits x.toModel.toBits.toBitVec.toNat =
    .ofUnpacked (UnpackedFloat.unpack .binary64 x.toModel.toBits.toBitVec)
  generalize (x.toModel.toBits.toBitVec : BitVec Format.binary64.numBits) = b
  have bias : Format.binary64.exponentBias = 1023 := rfl
  have toNat_eq {n : Nat} (v w : BitVec n) : v = w ↔ v.toNat = w.toNat := BitVec.toNat_inj.symm
  have greatest : (-1#11).toNat = 2047 := rfl
  unfold Parts.ofBits UnpackedFloat.unpack
  simp only [Nat.pow_eq, ← toNat_unpackMantissa, ← toNat_unpackExponent, ← toNat_unpackSign,
    ← ofBitVec_beq_negative, bias, toNat_eq, greatest, BitVec.toNat_zero]
  split
  · split <;> rfl
  split
  · split
    · simp only [Parts.ofUnpacked, *]
    · simp only [Parts.ofUnpacked, *]
      rfl
  · simp only [Parts.ofUnpacked, toNat_implicit]
    congr 1

end PageHarvest.Decimal
