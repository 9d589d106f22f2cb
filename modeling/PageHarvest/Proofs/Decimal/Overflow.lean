import PageHarvest.Decimal.Literal
import PageHarvest.Proofs.Decimal.Integers

/-!
# Decimals out of range

The greatest finite number is `(2 ^ 53 - 1) * 2 ^ 971`. What is nearer to it than to `2 ^ 1024` is
rounded to it, and all from half-way on is infinite.

* `InfiniteIff`: a number, and when it is infinite;
* `infiniteIff_round`: what is rounded to 53 bits is infinite from `middle` on;
* `infiniteIff_mul`, `infiniteIff_div`: products and quotients, which are rounded once;
* `overflow`: the least number that is infinite;
* `infiniteIff_nearest`: the number nearest to a decimal is infinite if the decimal reaches
  `overflow`, whichever of the three ways it is computed.
-/

namespace PageHarvest.Decimal

open Float.Model Float.Model.UnpackedFloat

variable {m n k : Nat} {e : Int}

/-- A number that is infinite under a condition, and finite otherwise. -/
structure InfiniteIff (x : Float) (P : Prop) : Prop where
  number : x.isNaN = false
  infinite : x.isInf = true ↔ P

theorem InfiniteIff.of_iff {x : Float} {P Q : Prop} (h : InfiniteIff x P) (same : P ↔ Q) :
    InfiniteIff x Q := ⟨h.number, h.infinite.trans same⟩

theorem InfiniteIff.neg {x : Float} {P : Prop} (h : InfiniteIff x P) : InfiniteIff (-x) P := by
  obtain ⟨number, infinite⟩ := h
  change x.toModel.unpack.isNaN = false at number
  change x.toModel.unpack.isInf = true ↔ P at infinite
  constructor
  · change (-x).toModel.unpack.isNaN = false
    rw [unpack_neg]
    cases hu : x.toModel.unpack <;> simp_all [UnpackedFloat.neg, UnpackedFloat.isNaN]
  · change (-x).toModel.unpack.isInf = true ↔ P
    rw [unpack_neg, ← infinite]
    cases x.toModel.unpack <;> simp [UnpackedFloat.neg, UnpackedFloat.isInf]

/-! ## Packing -/

/-- The number with the bits of an unpacked one. -/
def packed (u : UnpackedFloat) : Float := .ofModel (.pack u)

/-- What the bits of an unpacked number read as. -/
def repacked (u : UnpackedFloat) : UnpackedFloat :=
  UnpackedFloat.unpack .binary64 (UnpackedFloat.pack .binary64 u)

theorem infiniteIff_packed {u : UnpackedFloat} {P : Prop} (number : (repacked u).isNaN = false)
    (infinite : (repacked u).isInf = true ↔ P) : InfiniteIff (packed u) P := ⟨number, infinite⟩

theorem packed_zero (s : Sign) : InfiniteIff (packed (.zero s)) False :=
  infiniteIff_packed (by cases s <;> rfl) (by cases s <;> decide)

theorem packed_infinity (s : Sign) : InfiniteIff (packed (.infinity s)) True :=
  infiniteIff_packed (by cases s <;> rfl) (by cases s <;> decide)

/-- An exponent that is not the greatest one is that of a finite number. -/
theorem unpack_packComponents_finite (s : Sign) {x : BitVec 11} (below : x ≠ -1#11)
    (b : BitVec 52) :
    (UnpackedFloat.unpack .binary64 (packComponents .binary64 s x b)).isNaN = false ∧
      (UnpackedFloat.unpack .binary64 (packComponents .binary64 s x b)).isInf = false := by
  rw [UnpackedFloat.unpack]
  simp only [unpackMantissa_packComponents, unpackExponent_packComponents,
    unpackSign_packComponents, Sign.ofBitVec_toBitVec]
  rw [if_neg below]
  split
  · split <;> exact ⟨rfl, rfl⟩
  · exact ⟨rfl, rfl⟩

theorem packed_finite (s : Sign) (pos : 0 < m) :
    InfiniteIff (packed (.finite s m e pos)) (972 ≤ e) := by
  have biased : (e + Format.binary64.exponentBias + Format.binary64.mantissaBitsWithoutImplicit) =
      e + 1075 := by
    simp only [Format.exponentBias]
    omega
  have pack : UnpackedFloat.pack .binary64 (.finite s m e pos) =
      if 972 ≤ e then packedInfinity .binary64 s
      else if m.log2 + 1 = Format.binary64.mantissaBits then
        packComponents .binary64 s (BitVec.ofNat 11 (e + 1075).toNat) (BitVec.ofNat 52 m)
      else packComponents .binary64 s 0#11 (BitVec.ofNat 52 m) := by
    rw [UnpackedFloat.pack]
    simp only [biased]
    refine if_congr ?_ rfl rfl
    omega
  by_cases high : 972 ≤ e
  · rw [if_pos high] at pack
    have same : repacked (.finite s m e pos) = repacked (.infinity s) :=
      congrArg (UnpackedFloat.unpack .binary64) pack
    refine infiniteIff_packed ?_ ?_
    · rw [same]
      exact (packed_infinity s).number
    · rw [same]
      exact (packed_infinity s).infinite.trans (by simp [high])
  · rw [if_neg high] at pack
    have finite : (repacked (.finite s m e pos)).isNaN = false ∧
        (repacked (.finite s m e pos)).isInf = false := by
      rw [repacked, pack]
      split
      · refine unpack_packComponents_finite s (fun same => ?_) _
        have := congrArg BitVec.toNat same
        rw [BitVec.toNat_ofNat, Nat.mod_eq_of_lt (by omega)] at this
        change (e + 1075).toNat = 2047 at this
        omega
      · exact unpack_packComponents_finite s (by decide) _
    exact infiniteIff_packed finite.1 (by simp [finite.2, high])

/-! ## Rounding -/

theorem mantissa_shiftRight (em : ExtendedMantissa) (k : Nat) :
    (em >>> k).mantissa = em.mantissa / 2 ^ k := by
  change (k.repeat ExtendedMantissa.shiftRightOne em).mantissa = _
  induction k with
  | zero => simp [Nat.repeat]
  | succ k ih =>
    rw [Nat.repeat]
    change (k.repeat ExtendedMantissa.shiftRightOne em).mantissa / 2 = _
    rw [ih, Nat.div_div_eq_div_mul, Nat.pow_succ]

theorem roundBit_shiftRight (em : ExtendedMantissa) (k : Nat) :
    (em >>> (k + 1)).roundBit = (em.mantissa / 2 ^ k % 2 != 0) := by
  rw [← mantissa_shiftRight]
  rfl

theorem roundedMantissa_bounds (em : ExtendedMantissa) :
    em.mantissa ≤ em.roundedMantissa ∧ em.roundedMantissa ≤ em.mantissa + 1 := by
  obtain ⟨m, _ | _, _ | _⟩ := em <;>
    simp [ExtendedMantissa.roundedMantissa, ExtendedMantissa.accuracy, Accuracy.roundToNearestEven]
  omega

/-- An odd significand is rounded up if the bit that fell out last was set. -/
theorem roundedMantissa_odd {em : ExtendedMantissa} (odd : em.mantissa % 2 = 1) :
    em.roundedMantissa = em.mantissa + em.roundBit.toNat := by
  obtain ⟨m, _ | _, _ | _⟩ := em <;>
    simp_all [ExtendedMantissa.roundedMantissa, ExtendedMantissa.accuracy,
      Accuracy.roundToNearestEven]

theorem roundedMantissa_shiftRight_odd {em : ExtendedMantissa}
    (odd : em.mantissa / 2 ^ (k + 1) % 2 = 1) :
    (em >>> (k + 1)).roundedMantissa =
      em.mantissa / 2 ^ (k + 1) + (em.mantissa / 2 ^ k % 2 != 0).toNat := by
  rw [← mantissa_shiftRight] at odd
  rw [roundedMantissa_odd odd, mantissa_shiftRight, roundBit_shiftRight]

/-- The bits that a significand has too many at an exponent. -/
def excess (n : Nat) (e : Int) : Nat :=
  (Format.binary64.targetExponent (totalExponent n e) - e).toNat

theorem targetExponent_eq (n : Nat) (e : Int) :
    Format.binary64.targetExponent (totalExponent n e) = max (n.log2 + 1 + e - 53) (-1074) := by
  rw [totalExponent]
  simp only [Format.targetExponent, Format.mantissaBits, Format.minExponent]
  push_cast
  omega

theorem infiniteIff_roundWithAccuracy (s : Sign) (n : Nat) (e : Int) (accuracy : Accuracy) :
    let r := (ExtendedMantissa.ofMantissaAndAccuracy n accuracy >>> excess n e).roundedMantissa
    InfiniteIff (packed (roundWithAccuracy .binary64 s n e accuracy))
      (r / 2 ^ excess r (e + excess n e) ≠ 0 ∧
        972 ≤ e + excess n e + excess r (e + excess n e)) := by
  intro r
  have kept : ((ExtendedMantissa.ofMantissaAndAccuracy r .exact) >>>
      excess r (e + excess n e)).mantissa = r / 2 ^ excess r (e + excess n e) :=
    mantissa_shiftRight _ _
  have round : roundWithAccuracy .binary64 s n e accuracy =
      if h : r / 2 ^ excess r (e + excess n e) = 0 then .zero s
      else .finite s (r / 2 ^ excess r (e + excess n e))
        (e + excess n e + excess r (e + excess n e)) (Nat.pos_of_ne_zero h) := by
    simp only [← kept]
    rfl
  rw [round]
  split
  · rename_i zero
    exact (packed_zero s).of_iff (by simp [zero])
  · rename_i some
    exact (packed_finite s (Nat.pos_of_ne_zero some)).of_iff (by simp [some])

theorem excess_eq (n : Nat) (e : Int) :
    (excess n e : Int) = max (max (n.log2 + 1 + e - 53) (-1074) - e) 0 := by
  rw [excess, targetExponent_eq]
  omega

theorem div_excess_lt (n : Nat) (e : Int) : n / 2 ^ excess n e < 2 ^ 53 := by
  have bits := excess_eq n e
  rw [Nat.div_lt_iff_lt_mul (Nat.two_pow_pos _), ← Nat.pow_add]
  exact Nat.lt_of_lt_of_le Nat.lt_log2_self (Nat.pow_le_pow_right (by decide) (by omega))

theorem two_pow_le_div {i : Nat} (some : n ≠ 0) (bits : i + k ≤ n.log2) : 2 ^ i ≤ n / 2 ^ k := by
  rw [Nat.le_div_iff_mul_le (Nat.two_pow_pos k), ← Nat.pow_add]
  exact Nat.le_trans (Nat.pow_le_pow_right (by decide) bits) (Nat.log2_self_le some)

/-- Of the significands of 53 bits, only the greatest one gets a bit more, and if half a unit or more
is left over. -/
theorem carries_iff {h r : Nat} (least : 2 ^ 53 ≤ h) (most : h / 2 < 2 ^ 53) (le : h / 2 ≤ r)
    (ge : r ≤ h / 2 + 1) (rounds : h / 2 % 2 = 1 → r = h / 2 + (h % 2 != 0).toNat) :
    2 ^ 53 ≤ r ↔ 2 ^ 54 - 1 ≤ h := by
  constructor
  · intro carried
    by_contra low
    obtain rfl : h = 2 ^ 54 - 2 := by omega
    have := rounds (by decide)
    simp at this
    omega
  · intro reached
    obtain rfl : h = 2 ^ 54 - 1 := by omega
    have := rounds (by decide)
    simp at this
    omega

/-- The middle between the greatest finite number and `2 ^ 1024`, in units of `2 ^ (970 - j)`. -/
def middle (j : Nat) : Nat := (2 ^ 54 - 1) * 2 ^ j

theorem middle_add (j i : Nat) : middle (j + i) = middle j * 2 ^ i := by
  rw [middle, middle, Nat.pow_add, Nat.mul_assoc]

theorem two_pow_le_middle (j : Nat) : 2 ^ (53 + j) ≤ middle j := by
  rw [middle, Nat.pow_add]
  exact Nat.mul_le_mul_right _ (by decide)

theorem middle_le (j : Nat) : middle j ≤ 2 ^ (54 + j) := by
  rw [middle, Nat.pow_add]
  exact Nat.mul_le_mul_right _ (by decide)

theorem lt_middle {n i j : Nat} (small : n < 2 ^ i) (le : i ≤ 53 + j) : n < middle j :=
  calc n < 2 ^ i := small
    _ ≤ 2 ^ (53 + j) := Nat.pow_le_pow_right (by decide) le
    _ ≤ middle j := two_pow_le_middle j

theorem middle_pos (j : Nat) : 0 < middle j :=
  Nat.lt_of_lt_of_le (Nat.two_pow_pos _) (two_pow_le_middle j)

theorem middle_le_pow {j k : Nat} (high : 54 + j ≤ 3 * k) : middle j ≤ 10 ^ k :=
  calc middle j ≤ 2 ^ (54 + j) := middle_le j
    _ ≤ 2 ^ (3 * k) := Nat.pow_le_pow_right (by decide) high
    _ ≤ 10 ^ k := by
      rw [Nat.pow_mul]
      exact Nat.pow_le_pow_left (by decide) k

/-- A number at an exponent of at most 970 is infinite from the middle on. -/
theorem infiniteIff_round (s : Sign) (n j : Nat) (accuracy : Accuracy) :
    InfiniteIff (packed (roundWithAccuracy .binary64 s n (970 - j) accuracy)) (middle j ≤ n) := by
  refine (infiniteIff_roundWithAccuracy s n (970 - j) accuracy).of_iff ?_
  have own : (ExtendedMantissa.ofMantissaAndAccuracy n accuracy).mantissa = n := by
    rcases accuracy with _ | (_ | _ | _) <;> rfl
  generalize ExtendedMantissa.ofMantissaAndAccuracy n accuracy = em at own
  obtain ⟨le_r, r_le⟩ := roundedMantissa_bounds (em >>> excess n (970 - j))
  rw [mantissa_shiftRight, own] at le_r r_le
  have rounds (i : Nat) (shift : excess n (970 - j) = i + 1)
      (odd : n / 2 ^ excess n (970 - j) % 2 = 1) :
      (em >>> excess n (970 - j)).roundedMantissa =
        n / 2 ^ excess n (970 - j) + (n / 2 ^ i % 2 != 0).toNat := by
    rw [shift, ← own] at odd ⊢
    exact roundedMantissa_shiftRight_odd odd
  have short := div_excess_lt n (970 - j)
  have hk := excess_eq n (970 - j)
  generalize excess n (970 - j) = k at *
  generalize (em >>> k).roundedMantissa = r at *
  have r_bits : r.log2 < 54 := log2_lt_of_small (by omega)
  have hc := excess_eq r (970 - j + k)
  generalize excess r (970 - j + k) = c at *
  -- With as many bits as the middle has, only a carry makes a number infinite. With fewer bits it
  -- is finite despite a carry, and with more bits infinite without one.
  rcases Nat.lt_trichotomy n.log2 (53 + j) with below | inside | above
  case inl =>
    have small : n < middle j := lt_middle Nat.lt_log2_self (by omega)
    exact iff_of_false (fun h => by omega) (Nat.not_le.2 small)
  case inr.inr =>
    have some : n ≠ 0 := by
      rintro rfl
      simp at above
    have long : 2 ^ 52 ≤ n / 2 ^ k := two_pow_le_div some (by omega)
    have kept : 0 < r / 2 ^ c := by
      refine Nat.div_pos (Nat.le_trans ?_ (Nat.le_trans long le_r)) (Nat.two_pow_pos c)
      exact Nat.pow_le_pow_right (by decide) (by omega)
    refine iff_of_true ⟨kept.ne', by omega⟩ ?_
    calc middle j ≤ 2 ^ (54 + j) := middle_le j
      _ ≤ 2 ^ n.log2 := Nat.pow_le_pow_right (by decide) (by omega)
      _ ≤ n := Nat.log2_self_le some
  case inr.inl =>
    obtain rfl : k = j + 1 := by omega
    have some : n ≠ 0 := by
      rintro rfl
      simp at inside
      omega
    have least : 2 ^ 53 ≤ n / 2 ^ j := two_pow_le_div some (by omega)
    have half : n / 2 ^ (j + 1) = n / 2 ^ j / 2 := by
      rw [Nat.div_div_eq_div_mul, Nat.pow_succ]
    rw [half] at short le_r r_le rounds
    rw [middle, ← Nat.le_div_iff_mul_le (Nat.two_pow_pos j),
      ← carries_iff least short le_r r_le (rounds j rfl)]
    rcases Nat.lt_or_ge r (2 ^ 53) with kept | carried
    · have : r.log2 = 52 := (Nat.log2_eq_iff (by omega)).2 ⟨by omega, kept⟩
      omega
    · have : r.log2 = 53 := (Nat.log2_eq_iff (by omega)).2 ⟨carried, by omega⟩
      obtain rfl : c = 1 := by omega
      omega

/-! ## Products and quotients -/

theorem infiniteIff_mul (s t : Sign) {e₁ e₂ : Int} (hm : 0 < m) (hn : 0 < n) {j : Nat}
    (low : e₁ + e₂ = 970 - j) :
    InfiniteIff (packed (UnpackedFloat.mul .binary64 (.finite s m e₁ hm) (.finite t n e₂ hn)))
      (middle j ≤ m * n) := by
  change InfiniteIff (packed (roundWithAccuracy .binary64 (s * t) (m * n) (e₁ + e₂) .exact)) _
  rw [low]
  exact infiniteIff_round _ _ _ _

theorem infiniteIff_div (s t : Sign) {e₁ e₂ : Int} (hm : 0 < m) (hn : 0 < n) {j : Nat}
    (low : e₁ - e₂ = 970 - j) :
    InfiniteIff (packed (UnpackedFloat.div .binary64 (.finite s m e₁ hm) (.finite t n e₂ hn)))
      (middle j * n ≤ m) := by
  generalize target : min (e₁ - e₂) (Format.binary64.targetExponent
    (totalExponent m e₁ - totalExponent n e₂)) = f
  obtain ⟨i, shift⟩ : ∃ i : Nat, (e₁ - e₂ - f).toNat = i ∧ f = 970 - (j + i : Nat) :=
    ⟨_, rfl, by omega⟩
  have div : UnpackedFloat.div .binary64 (.finite s m e₁ hm) (.finite t n e₂ hn) =
      roundWithAccuracy .binary64 (s / t) (m <<< i / n) (970 - (j + i : Nat))
        (accuracyOfFraction (m <<< i % n) n) := by
    rw [UnpackedFloat.div, divCore]
    simp only [target, shift.1]
    rw [← shift.2]
  rw [div]
  refine (infiniteIff_round _ _ _ _).of_iff ?_
  rw [Nat.le_div_iff_mul_le hn, Nat.shiftLeft_eq, middle_add, Nat.mul_right_comm]
  exact Nat.mul_le_mul_right_iff (Nat.two_pow_pos i)

/-! ## Decimals -/

/-- The least number that is infinite: the middle between the greatest finite one and
`2 ^ 1024`. -/
@[irreducible]
def overflow : Nat := middle 970

theorem overflow_pos : 0 < overflow := by
  unfold overflow
  exact middle_pos 970

theorem lt_overflow {i : Nat} (small : n < 2 ^ i) (le : i ≤ 53 + 970) : n < overflow := by
  unfold overflow
  exact lt_middle small le

theorem overflow_le_pow {k : Nat} (high : 342 ≤ k) : overflow ≤ 10 ^ k := by
  unfold overflow
  exact middle_le_pow (by omega)

theorem overflow_le_natPow (m k : Nat) :
    (overflow : ℚ) ≤ m * 10 ^ (k : Int) ↔ overflow ≤ m * 10 ^ k := by
  rw [zpow_natCast]
  exact_mod_cast Iff.rfl

theorem overflow_le_negPow (m k : Nat) :
    (overflow : ℚ) ≤ m * 10 ^ (-k : Int) ↔ overflow * 10 ^ k ≤ m := by
  rw [zpow_neg, zpow_natCast, ← div_eq_mul_inv, le_div_iff₀ (by positivity)]
  exact_mod_cast Iff.rfl

/-- Scientific notation is read with all its digits and rounded once. -/
theorem infiniteIff_ofScientific (pos : 0 < m) (e : Int) :
    InfiniteIff (packed (UnpackedFloat.ofScientific .binary64 m e))
      ((overflow : ℚ) ≤ m * 10 ^ e) := by
  have limit : (2 : Int) ^ Format.binary64.exponentBits = 2048 := by decide
  rw [UnpackedFloat.ofScientific, dif_neg pos.ne', limit]
  split
  case isTrue high =>
    obtain ⟨k, rfl⟩ := Int.eq_ofNat_of_zero_le (by omega : 0 ≤ e)
    refine (packed_infinity .positive).of_iff (iff_of_true trivial ?_)
    rw [overflow_le_natPow]
    exact Nat.le_trans (overflow_le_pow (by omega)) (Nat.le_mul_of_pos_left _ pos)
  split
  case isTrue low =>
    obtain ⟨k, rfl⟩ : ∃ k : Nat, e = -k := ⟨(-e).toNat, by omega⟩
    refine (packed_zero .positive).of_iff (iff_of_false id ?_)
    rw [overflow_le_negPow, Nat.not_le]
    calc m < 2 ^ (m.log2 + 1) := Nat.lt_log2_self
      _ ≤ 10 ^ (m.log2 + 1) := Nat.pow_le_pow_left (by decide) _
      _ ≤ 10 ^ k := Nat.pow_le_pow_right (by decide) (by omega)
      _ ≤ overflow * 10 ^ k := Nat.le_mul_of_pos_left _ overflow_pos
  split
  case isTrue nonneg =>
    obtain ⟨k, rfl⟩ := Int.eq_ofNat_of_zero_le nonneg
    rw [overflow_le_natPow]
    unfold overflow
    refine (infiniteIff_mul .positive .positive _ _ (j := 970 + 53) (by decide)).of_iff ?_
    rw [middle_add, Nat.shiftLeft_eq, Nat.mul_right_comm m]
    exact Nat.mul_le_mul_right_iff (Nat.two_pow_pos 53)
  case isFalse negative =>
    obtain ⟨k, rfl⟩ : ∃ k : Nat, e = -k := ⟨(-e).toNat, by omega⟩
    have same : (-(-k : Int)).toNat = k := by omega
    rw [overflow_le_negPow]
    unfold overflow
    simp only [same]
    exact infiniteIff_div .positive .positive pos _ (j := 970) (by decide)

/-! ## Short decimals -/

/-- A positive number with 53 bits that is neither large nor small. -/
def Moderate : UnpackedFloat → Prop
  | .finite .positive m e _ => m < 2 ^ 53 ∧ -52 ≤ e ∧ e ≤ 52
  | _ => False

instance : DecidablePred Moderate
  | .finite .positive _ _ _ => inferInstanceAs (Decidable (_ ∧ _))
  | .finite .negative _ _ _ | .zero _ | .infinity _ | .notANumber => inferInstanceAs (Decidable False)

theorem Moderate.exists_finite {u : UnpackedFloat} (h : Moderate u) :
    ∃ m e, ∃ pos : 0 < m, u = .finite .positive m e pos ∧ m < 2 ^ 53 ∧ -52 ≤ e ∧ e ≤ 52 := by
  match u, h with
  | .finite .positive m e pos, h => exact ⟨m, e, pos, rfl, h⟩

theorem moderate_shortForm (pos : 0 < n) (small : n < 2 ^ 53) : Moderate (shortForm pos small) := by
  have := log2_lt_of_small small
  exact ⟨(isFull_ofNat pos small).2, by omega, by omega⟩

theorem moderate_powers (k : Fin 23) :
    Moderate Float.exactlyRepresentablePowersOfTen[k].toModel.unpack := by
  revert k
  decide +kernel

section Moderate

variable {u v : UnpackedFloat} (hu : Moderate u) (hv : Moderate v)

include hu hv

theorem infiniteIff_mul_moderate : InfiniteIff (packed (u.mul .binary64 v)) False := by
  obtain ⟨m, e₁, hm, rfl, m_lt, _⟩ := hu.exists_finite
  obtain ⟨n, e₂, hn, rfl, n_lt, _⟩ := hv.exists_finite
  obtain ⟨j, low⟩ : ∃ j : Nat, e₁ + e₂ = 970 - j := ⟨(970 - (e₁ + e₂)).toNat, by omega⟩
  have product : m * n < 2 ^ (53 + 53) := by
    rw [Nat.pow_add]
    exact Nat.mul_lt_mul'' m_lt n_lt
  have below : m * n < middle j := lt_middle product (by omega)
  exact (infiniteIff_mul _ _ hm hn low).of_iff (iff_of_false (Nat.not_le.2 below) id)

theorem infiniteIff_div_moderate : InfiniteIff (packed (u.div .binary64 v)) False := by
  obtain ⟨m, e₁, hm, rfl, m_lt, _⟩ := hu.exists_finite
  obtain ⟨n, e₂, hn, rfl, n_lt, _⟩ := hv.exists_finite
  obtain ⟨j, low⟩ : ∃ j : Nat, e₁ - e₂ = 970 - j := ⟨(970 - (e₁ - e₂)).toNat, by omega⟩
  refine (infiniteIff_div _ _ hm hn low).of_iff (iff_of_false (Nat.not_le.2 ?_) id)
  calc m < middle j := lt_middle m_lt (by omega)
    _ ≤ middle j * n := Nat.le_mul_of_pos_right _ hn

end Moderate

/-- A short decimal is one product or quotient, and any other is read by its digits. -/
theorem infiniteIff_scientific (pos : 0 < m) (isNegative : Bool) (k : Nat) :
    InfiniteIff (Float.ofScientific m isNegative k)
      ((overflow : ℚ) ≤ m * 10 ^ (if isNegative then -k else k : Int)) := by
  rw [Float.ofScientific]
  split
  case isTrue short =>
    obtain ⟨small, k_le⟩ := short
    have word := moderate_shortForm pos small
    rw [← unpack_toUInt64_toFloat pos small] at word
    have power := moderate_powers ⟨k, by omega⟩
    cases isNegative with
    | true =>
      refine (infiniteIff_div_moderate word power).of_iff (iff_of_false id ?_)
      simp only [if_true]
      rw [overflow_le_negPow, Nat.not_le]
      calc m < overflow := lt_overflow small (by omega)
        _ ≤ overflow * 10 ^ k := Nat.le_mul_of_pos_right _ (Nat.pow_pos (by decide))
    | false =>
      refine (infiniteIff_mul_moderate word power).of_iff (iff_of_false id ?_)
      simp only [Bool.false_eq_true, if_false]
      rw [overflow_le_natPow, Nat.not_le]
      have power_lt : 10 ^ k ≤ 2 ^ (4 * k) := by
        rw [Nat.pow_mul]
        exact Nat.pow_le_pow_left (by decide) k
      have product : m * 10 ^ k < 2 ^ (53 + 4 * k) := by
        rw [Nat.pow_add]
        exact Nat.mul_lt_mul_of_lt_of_le small power_lt (Nat.two_pow_pos _)
      exact lt_overflow product (by omega)
  case isFalse =>
    cases isNegative with
    | true =>
      have same : (-k : Int) = Int.negOfNat k := by cases k <;> rfl
      simp only [if_true, same]
      exact infiniteIff_ofScientific pos _
    | false => exact infiniteIff_ofScientific pos k

/-! ## Cut-offs -/

theorem lt_pow_length (m : Nat) : m < 10 ^ (Nat.toDigits 10 m).length := by
  rw [← Nat.length_toDigits_le_iff (by decide) Nat.length_toDigits_pos]

theorem pow_length_le (pos : 0 < m) : 10 ^ ((Nat.toDigits 10 m).length - 1) ≤ m := by
  rcases Nat.eq_zero_or_pos ((Nat.toDigits 10 m).length - 1) with short | long
  · rw [short]
    exact pos
  · rw [← Nat.not_lt, ← Nat.length_toDigits_le_iff (by decide) long]
    omega

theorem not_overflow_le_of_low (low : (Nat.toDigits 10 m).length + e < -400) :
    ¬ (overflow : ℚ) ≤ m * 10 ^ e := by
  obtain ⟨k, rfl⟩ : ∃ k : Nat, e = -k := ⟨(-e).toNat, by omega⟩
  rw [overflow_le_negPow, Nat.not_le]
  calc m < 10 ^ (Nat.toDigits 10 m).length := lt_pow_length m
    _ ≤ 10 ^ k := Nat.pow_le_pow_right (by decide) (by omega)
    _ ≤ overflow * 10 ^ k := Nat.le_mul_of_pos_left _ overflow_pos

theorem overflow_le_of_high (pos : 0 < m) (high : 400 < (Nat.toDigits 10 m).length + e) :
    (overflow : ℚ) ≤ m * 10 ^ e := by
  have least := pow_length_le pos
  obtain ⟨k, rfl | rfl⟩ := e.eq_nat_or_neg
  · rw [overflow_le_natPow]
    calc overflow ≤ 10 ^ ((Nat.toDigits 10 m).length - 1 + k) := overflow_le_pow (by omega)
      _ = 10 ^ ((Nat.toDigits 10 m).length - 1) * 10 ^ k := Nat.pow_add _ _ _
      _ ≤ m * 10 ^ k := Nat.mul_le_mul_right _ least
  · rw [overflow_le_negPow]
    calc overflow * 10 ^ k ≤ 10 ^ ((Nat.toDigits 10 m).length - 1 - k) * 10 ^ k :=
          Nat.mul_le_mul_right _ (overflow_le_pow (by omega))
      _ = 10 ^ ((Nat.toDigits 10 m).length - 1) := by
          rw [← Nat.pow_add, Nat.sub_add_cancel (by omega)]
      _ ≤ m := least

/-- The cut-offs for large and small exponents cut off nothing. -/
theorem infiniteIff_nearest (m : Nat) (e : Int) :
    InfiniteIff (nearest m e) ((overflow : ℚ) ≤ m * 10 ^ e) := by
  rw [nearest]
  split
  case isTrue low =>
    have zero : InfiniteIff 0.0 False := ⟨by decide +kernel, by decide +kernel⟩
    refine zero.of_iff (iff_of_false id ?_)
    rcases low with rfl | low
    · simpa using overflow_pos.ne'
    · exact not_overflow_le_of_low low
  case isFalse inside =>
  have pos : 0 < m := Nat.pos_of_ne_zero (not_or.1 inside).1
  split
  case isTrue high =>
    have infinity : InfiniteIff (1.0 / 0.0) True := ⟨by decide +kernel, by decide +kernel⟩
    exact infinity.of_iff (iff_of_true trivial (overflow_le_of_high pos high))
  split
  case isTrue nonneg =>
    have same : (e.toNat : Int) = e := by omega
    have := infiniteIff_scientific pos false e.toNat
    simpa [same] using this
  case isFalse negative =>
    have same : -((-e).toNat : Int) = e := by omega
    have := infiniteIff_scientific pos true (-e).toNat
    simpa only [if_true, same] using this

end PageHarvest.Decimal
