import Mathlib
import PageHarvest.Proofs.Flow.Loops

/-!
# Loops that count integers

The counter of a loop is a floating point number. As long as it stays below `2 ^ 53` in size it is
an integer if the first one and the step are, and the number of iterations is that of the steps from
the first bound to the last.

* `Loop.integer?_counter`: the counter after some steps;
* `Loop.lt_steps_iff`: when a counter is in front of the last bound;
* `Control.expand_countUp_integers`: what follows for a counted loop.
-/

namespace PageHarvest

namespace Loop

/-! ## Counters -/

variable {first step stop : Float} {a b d : Int} {cap n : Nat}

theorem integer?_counter (hfirst : Decimal.integer? first = some a)
    (hstep : Decimal.integer? step = some d) (reached : ∀ k ≤ n, (a + k * d).natAbs < 2 ^ 53) :
    Decimal.integer? (counter first step n) = some (a + n * d) := by
  induction n with
  | zero =>
    rw [Nat.cast_zero, zero_mul, add_zero]
    exact hfirst
  | succ n ih =>
    have before := ih fun k hk => reached k (Nat.le_succ_of_le hk)
    have next : a + n * d + d = a + (n + 1 : Nat) * d := by
      push_cast
      ring
    rw [counter, Decimal.integer?_add before hstep (next ▸ reached (n + 1) (Nat.le_refl _)), next]

/-- The loop over the integers from `a` on by steps of `d` in front of `b`. -/
def integers (loopVar : String) (a b d : Int) (body : List Step) : Loop where
  body := body
  bindings k := loopBindings loopVar (.int (a + k * d)) k
  goesOn k := a + k * d < b

/-- The number of steps of a size that lead from an integer to another, or past it. -/
def steps (a b d : Int) : Nat := ⌈((b - a : Int) : ℚ) / d⌉₊

theorem lt_steps_iff (forward : 0 < d) (k : Nat) : k < steps a b d ↔ a + k * d < b := by
  have positive : (0 : ℚ) < d := Int.cast_pos.2 forward
  rw [steps, Nat.lt_ceil, lt_div_iff₀ positive, ← Int.cast_natCast, ← Int.cast_mul, Int.cast_lt]
  omega

/-- The number of iterations under a cap. -/
def rounds (a b d : Int) (cap : Nat) : Nat :=
  if b ≤ a then 0 else if 0 < d then min cap (steps a b d) else cap

/-- The three ways in which a loop that counts ends. -/
theorem rounds_cases (a b d : Int) (cap : Nat) :
    b ≤ a ∧ rounds a b d cap = 0 ∨
    a < b ∧ 0 < d ∧ rounds a b d cap = min cap (steps a b d) ∨
    a < b ∧ ¬ 0 < d ∧ rounds a b d cap = cap := by
  unfold rounds
  split
  case isTrue ended => exact .inl ⟨ended, rfl⟩
  case isFalse more =>
    have less : a < b := Int.lt_of_not_ge more
    split
    case isTrue forward => exact .inr (.inl ⟨less, forward, rfl⟩)
    case isFalse backward => exact .inr (.inr ⟨less, backward, rfl⟩)

theorem rounds_le (a b d : Int) (cap : Nat) : rounds a b d cap ≤ cap := by
  rcases rounds_cases a b d cap with ⟨_, eq⟩ | ⟨_, _, eq⟩ | ⟨_, _, eq⟩ <;> omega

theorem counter_lt_of_backward (less : a < b) (backward : ¬ 0 < d) (k : Nat) : a + k * d < b := by
  have down : k * d ≤ 0 := Int.mul_nonpos_of_nonneg_of_nonpos (Int.natCast_nonneg k) (by omega)
  omega

/-- Every counter of an iteration is in front of the last bound. -/
theorem counter_lt_of_lt_rounds {k : Nat} (hk : k < rounds a b d cap) : a + k * d < b := by
  rcases rounds_cases a b d cap with ⟨_, eq⟩ | ⟨_, forward, eq⟩ | ⟨less, backward, _⟩
  · omega
  · exact (lt_steps_iff forward k).1 (by omega)
  · exact counter_lt_of_backward less backward k

/-- The loop would go on after these iterations if the cap is too small for its steps. -/
theorem counter_rounds_lt_iff :
    a + rounds a b d cap * d < b ↔ a < b ∧ (0 < d → cap < steps a b d) := by
  rcases rounds_cases a b d cap with ⟨ended, eq⟩ | ⟨less, forward, eq⟩ | ⟨less, backward, eq⟩
  · rw [eq, Nat.cast_zero, zero_mul, add_zero]
    exact ⟨fun less => absurd less (by omega), fun more => more.1⟩
  · rw [← lt_steps_iff forward, eq]
    exact ⟨fun short => ⟨less, fun _ => by omega⟩, fun more => by have := more.2 forward; omega⟩
  · exact ⟨fun _ => ⟨less, fun forward => absurd forward backward⟩,
      fun _ => counter_lt_of_backward less backward _⟩

theorem rounds_eq_or (a b d : Int) (cap : Nat) :
    rounds a b d cap = cap ∨ ¬ a + rounds a b d cap * d < b := by
  rw [counter_rounds_lt_iff]
  rcases rounds_cases a b d cap with ⟨ended, _⟩ | ⟨_, forward, eq⟩ | ⟨_, _, eq⟩
  · exact .inr fun more => absurd more.1 (by omega)
  · by_cases short : cap < steps a b d
    · exact .inl (by omega)
    · exact .inr fun more => short (more.2 forward)
  · exact .inl eq

/-- A loop whose counters are integers up to the end is the loop over these integers. -/
theorem counting_eq_integers (loopVar : String) (body : List Step) (context : Context)
    (hfirst : Decimal.integer? first = some a) (hstop : Decimal.integer? stop = some b)
    (hstep : Decimal.integer? step = some d)
    (reached : ∀ k ≤ rounds a b d cap, (a + k * d).natAbs < 2 ^ 53) :
    let n := rounds a b d cap
    let l := integers loopVar a b d body
    (counting loopVar first stop step body).unrolled context cap 0 =
      (l.repeated 0 n (a < b ∧ (0 < d → cap < steps a b d)), l.contextAfter context n) := by
  intro n l
  -- the loops agree as far as the counter that ends them, and no further
  let floats := counting loopVar first stop step body
  have counter_eq {k : Nat} (hk : k ≤ n) :
      Decimal.integer? (counter first step k) = some (a + k * d) :=
    integer?_counter hfirst hstep fun j hj => reached j (Nat.le_trans hj hk)
  have goesOn {k : Nat} (hk : k ≤ n) : floats.goesOn k = decide (a + k * d < b) :=
    decide_eq_decide.2 (Decimal.lt_iff_of_integers (counter_eq hk) hstop)
  have body_eq : floats.body = l.body := rfl
  have bindings : ∀ k < n, floats.bindings k = l.bindings k := fun k hk =>
    congrArg (loopBindings loopVar · k)
      (Json.ofFloat_of_integer? (counter_eq hk.le) (reached k hk.le))
  have on : ∀ k < n, floats.goesOn k = true := fun k hk =>
    (goesOn hk.le).trans (decide_eq_true (counter_lt_of_lt_rounds hk))
  have last : n = cap ∨ floats.goesOn n = false :=
    (rounds_eq_or a b d cap).imp_right fun ended => (goesOn le_rfl).trans (decide_eq_false ended)
  have truncated : floats.goesOn n = decide (a < b ∧ (0 < d → cap < steps a b d)) :=
    (goesOn le_rfl).trans (decide_eq_decide.2 counter_rounds_lt_iff)
  rw [unrolled_eq (rounds_le a b d cap) on last, truncated]
  exact Prod.ext (repeated_congr body_eq bindings _) (contextAfter_congr bindings context)

end Loop

/-! ## Counted loops -/

namespace Control

open Loop

theorem integer?_bound_int (context : Context) {n : Int} (small : n.natAbs ≤ 2 ^ 53)
    (default : Float) : Decimal.integer? (bound context (some (.int n)) default) = some n := by
  have bits : n.natAbs.log2 < 54 := Decimal.log2_lt_of_small (by omega)
  have number : Decimal.integer? (Float.ofInt n) = some n := by
    rw [Decimal.integer?_ofInt_rounded (by omega), Decimal.rounded_of_small small]
  have finite : (Float.ofInt n).isNaN = false :=
    Decimal.isNaN_of_units? (Decimal.integer?_eq_some_iff.1 number)
  change Decimal.integer? (if (Float.ofInt n).isNaN then default else Float.ofInt n) = some n
  rw [finite]
  exact number

/-- What a counted loop does when its bounds are integers and the counters that it reaches stay
below `2 ^ 53` in size. It has no iteration if the first bound is not in front of the last, and else
one for each step of a positive size from the first bound on, as far as the cap allows; all other
loops are cut at the cap. The variable is bound to the counter, and the index to the number of the
iteration, which is an integer below `2 ^ 53`. -/
theorem expand_countUp_integers (caps : LoopCaps) (context : Context) (loopVar : Option String)
    {start stop step : Option Json} (body : List Step) (cap : Option Nat) {a b d : Int}
    (hstart : Decimal.integer? (bound context start 0.0) = some a)
    (hstop : Decimal.integer? (bound context stop 10.0) = some b)
    (hstep : Decimal.integer? (bound context step 1.0) = some d) :
    let name := loopVar.getD "i"
    let m := cap.getD caps.countedLoops
    let steps := ⌈((b - a : Int) : ℚ) / d⌉₊
    let n := if b ≤ a then 0 else if 0 < d then min m steps else m
    let l := integers name a b d body
    (∀ k ≤ n, (a + k * d).natAbs < 2 ^ 53) →
    expand caps context (.countUp loopVar start stop step body cap) =
      (l.repeated 0 n (a < b ∧ (0 < d → m < steps)), l.contextAfter context n) ∧
    (∀ k, l.bindings k =
      if name = loopIndex then [(loopIndex, Json.ofNat k)]
      else [(name, .int (a + k * d)), (loopIndex, Json.ofNat k)]) ∧
    (∀ k < 2 ^ 53, Json.ofNat k = .int k) ∧
    ∀ (n : Int) default, n.natAbs ≤ 2 ^ 53 →
      Decimal.integer? (bound context (some (.int n)) default) = some n := by
  intro name m steps n l reached
  refine ⟨?_, fun k => loopBindings_eq name _ k, fun k small => Json.ofNat_eq small,
    fun n default small => integer?_bound_int context small default⟩
  rw [expand, expandCount_eq]
  exact counting_eq_integers name body context hstart hstop hstep reached

/-- Up to a variable that holds a text, by the step that is the default. -/
theorem expand_countUp_integers_pages :
    let context : Context := ⟨[("pages", .str "4")], []⟩
    let stop := some (Json.str "$\x7bpages\x7d")
    let l := integers "page" 1 4 1 []
    Decimal.integer? (bound context (some (.int 1)) 0.0) = some 1 ∧
      Decimal.integer? (bound context stop 10.0) = some 4 ∧
      Decimal.integer? (bound context none 1.0) = some 1 ∧
      (∀ k ≤ 3, (1 + (k : Nat) * 1 : Int).natAbs < 2 ^ 53) ∧
      expand {} context (.countUp (some "page") (some (.int 1)) stop none [] none) =
        (l.repeated 0 3 false, l.contextAfter context 3) := by
  intro context stop l
  have first : Decimal.integer? (bound context (some (.int 1)) 0.0) = some 1 := by decide +kernel
  have last : Decimal.integer? (bound context stop 10.0) = some 4 := by decide +kernel
  have pace : Decimal.integer? (bound context none 1.0) = some 1 := by decide +kernel
  have three : rounds 1 4 1 1000 = 3 := by norm_num [rounds, steps]
  have reached : ∀ k ≤ 3, (1 + (k : Nat) * 1 : Int).natAbs < 2 ^ 53 := fun k hk => by omega
  have counters : ∀ k ≤ rounds 1 4 1 1000, (1 + (k : Nat) * 1 : Int).natAbs < 2 ^ 53 := by
    rw [three]
    exact reached
  obtain ⟨counted, -⟩ :=
    expand_countUp_integers {} context (some "page") [] none first last pace counters
  refine ⟨first, last, pace, reached, counted.trans ?_⟩
  norm_num [l]

/-- A step that is no floating point number, and indices that are none. -/
theorem expand_countUp_integers_long_step :
    let start := some (Json.int (-2))
    let stop := some (Json.int (2 ^ 53 - 1))
    let step := some (Json.int (2 ^ 53 + 1))
    (∀ k ≤ 1, (-2 + (k : Nat) * (2 ^ 53 + 1) : Int).natAbs < 2 ^ 53) ∧
      ⌈((2 ^ 53 - 1 - -2 : Int) : ℚ) / (2 ^ 53 + 1 : Int)⌉₊ = 1 ∧
      (expand {} .empty (.countUp none start stop step [] (some 1))).1.truncated = true ∧
      Json.ofNat (2 ^ 53 + 1) = Json.ofNat (2 ^ 53) := by
  refine ⟨fun k hk => by omega, by norm_num, by decide +kernel, ?_⟩
  rfl

end Control

end PageHarvest
