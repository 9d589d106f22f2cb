import PageHarvest.Text.Blank
import PageHarvest.Text.Letter

/-!
# Where letters, digits and blanks stand

Bounds on the numbers of characters; a character between the space and the delete character is no
blank, and no letter is.
-/

namespace PageHarvest.Text

variable {c : Char}

/-- A character that is told apart from `x` by a test. -/
theorem ne_of_test {p : Char → Bool} {x : Char} (hc : p c = true) (hx : p x = false) : c ≠ x := by
  rintro rfl
  rw [hc] at hx
  cases hx

theorem toNat_of_isAsciiDigit (h : isAsciiDigit c = true) : 48 ≤ c.toNat ∧ c.toNat ≤ 57 := by
  unfold isAsciiDigit at h
  rw [Bool.and_eq_true, decide_eq_true_eq, decide_eq_true_eq] at h
  exact h

theorem toNat_of_isAsciiLetter (h : isAsciiLetter c = true) : 65 ≤ c.toNat ∧ c.toNat ≤ 122 := by
  unfold isAsciiLetter at h
  rw [Bool.or_eq_true, Bool.and_eq_true, Bool.and_eq_true, decide_eq_true_eq, decide_eq_true_eq,
    decide_eq_true_eq, decide_eq_true_eq] at h
  rcases h with ⟨h1, h2⟩ | ⟨h1, h2⟩
  · have lower : 97 ≤ c.toNat := h1
    have upper : c.toNat ≤ 122 := h2
    omega
  · have lower : 65 ≤ c.toNat := h1
    have upper : c.toNat ≤ 90 := h2
    omega

theorem isAsciiDigit_of_isAsciiLetter (h : isAsciiLetter c = true) : isAsciiDigit c = false := by
  have letter := toNat_of_isAsciiLetter h
  refine Bool.eq_false_iff.2 fun digit => ?_
  have := toNat_of_isAsciiDigit digit
  omega

theorem isAsciiDigit_of_mem_toDigits {n : Nat} {d : Char} (h : d ∈ Nat.toDigits 10 n) :
    isAsciiDigit d = true := by
  have digit := Nat.isDigit_of_mem_toDigits (by decide) (by decide) h
  rw [Char.isDigit, Bool.and_eq_true, decide_eq_true_eq, decide_eq_true_eq] at digit
  rw [isAsciiDigit, Bool.and_eq_true, decide_eq_true_eq, decide_eq_true_eq]
  exact digit

/-- A character of ASCII that shows. -/
def Printable (c : Char) : Prop := 33 ≤ c.toNat ∧ c.toNat < 127

theorem Printable.not_blank (h : Printable c) : isBlank c = false := by
  obtain ⟨h1, h2⟩ := h
  simp [isBlank]
  omega

theorem Printable.isAscii (h : Printable c) : isAscii c = true := by
  have := h.2
  simp [Text.isAscii]
  omega

theorem printable_of_isAsciiDigit (h : isAsciiDigit c = true) : Printable c := by
  have := toNat_of_isAsciiDigit h
  exact ⟨by omega, by omega⟩

theorem printable_of_isAsciiLetter (h : isAsciiLetter c = true) : Printable c := by
  have := toNat_of_isAsciiLetter h
  exact ⟨by omega, by omega⟩

/-- The blanks beyond ASCII. -/
def wideBlanks : List Nat :=
  0x85 :: 0xa0 :: 0x1680 :: 0x2028 :: 0x2029 :: 0x202f :: 0x205f :: 0x3000 :: List.range' 0x2000 11

theorem mem_wideBlanks (wide : ¬ isAscii c = true) (blank : isBlank c = true) :
    c.toNat ∈ wideBlanks := by
  have beyond : 128 ≤ c.toNat := by
    rw [isAscii, decide_eq_true_eq] at wide
    exact Nat.not_lt.1 wide
  simp [isBlank] at blank
  simp only [wideBlanks, List.mem_cons, List.mem_range'_1]
  omega

/-- Beyond ASCII, letters and numerals are no blanks by the tables. -/
theorem not_blank_of_isAlphanumeric (h : isAlphanumeric c = true) : isBlank c = false := by
  unfold isAlphanumeric at h
  split at h
  · rcases Bool.or_eq_true_iff.1 h with letter | digit
    · exact (printable_of_isAsciiLetter letter).not_blank
    · exact (printable_of_isAsciiDigit digit).not_blank
  · rename_i wide
    have apart : ∀ n ∈ wideBlanks,
        (Property.alphabetic.contains n || Property.numeric.contains n) = false := by
      decide +kernel
    refine Bool.eq_false_iff.2 fun blank => ?_
    rw [CodeSet.mem, CodeSet.mem, apart c.toNat (mem_wideBlanks wide blank)] at h
    cases h

theorem isAlphanumeric_of_isLetter (h : isLetter c = true) : isAlphanumeric c = true := by
  unfold isLetter at h
  unfold isAlphanumeric
  split <;> simp_all

theorem not_blank_of_isLetter (h : isLetter c = true) : isBlank c = false :=
  not_blank_of_isAlphanumeric (isAlphanumeric_of_isLetter h)

theorem isAsciiDigit_of_isLetter (h : isLetter c = true) : isAsciiDigit c = false := by
  refine Bool.eq_false_iff.2 fun digit => ?_
  rw [isLetter, if_pos (printable_of_isAsciiDigit digit).isAscii] at h
  rw [isAsciiDigit_of_isAsciiLetter h] at digit
  cases digit

end PageHarvest.Text
