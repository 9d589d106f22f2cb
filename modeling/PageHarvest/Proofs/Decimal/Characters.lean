import PageHarvest.Decimal.Shortest
import PageHarvest.Proofs.Text.Printable

/-!
# The characters of a written number

A number is written with digits, signs, a point and the letter of an exponent. The pointed form has
a point or an exponent, so it is never the text of an integer.
-/

namespace PageHarvest.Decimal

open Text

/-- A digit, a sign, a point, or the letter in front of an exponent. -/
def IsNumeral (c : Char) : Prop := isAsciiDigit c = true ∨ c ∈ ['.', 'e', '+', '-']

theorem IsNumeral.printable {c : Char} (h : IsNumeral c) : Printable c := by
  rcases h with digit | mark
  · exact printable_of_isAsciiDigit digit
  · simp only [List.mem_cons, List.not_mem_nil, or_false] at mark
    rcases mark with rfl | rfl | rfl | rfl <;> exact ⟨by decide, by decide⟩

theorem isNumeral_digit {c : Char} (digit : isAsciiDigit c = true) : IsNumeral c := .inl digit

theorem isNumeral_mark {c : Char} (mark : c ∈ ['.', 'e', '+', '-']) : IsNumeral c := .inr mark

theorem isNumeral_digits (n : Nat) : ∀ c ∈ digits n, IsNumeral c :=
  fun _ h => isNumeral_digit (isAsciiDigit_of_mem_toDigits h)

theorem isNumeral_zeros (k : Nat) : ∀ c ∈ List.replicate k '0', IsNumeral c := by
  intro c h
  rw [List.eq_of_mem_replicate h]
  exact isNumeral_digit rfl

/-! ## Positional form -/

section positional

variable (d : Scaled)

theorem isNumeral_plain : ∀ c ∈ d.plain, IsNumeral c := by
  have all := isNumeral_digits d.coefficient
  have point : IsNumeral '.' := isNumeral_mark (by decide)
  unfold Scaled.plain
  simp only
  split
  · exact List.forall_mem_append.2 ⟨all, isNumeral_zeros _⟩
  split
  · refine List.forall_mem_append.2 ⟨?_, List.forall_mem_cons.2 ⟨point, ?_⟩⟩
    · exact fun c h => all c (List.mem_of_mem_take h)
    · exact fun c h => all c (List.mem_of_mem_drop h)
  · refine List.forall_mem_cons.2 ⟨isNumeral_digit rfl, List.forall_mem_cons.2 ⟨point, ?_⟩⟩
    exact List.forall_mem_append.2 ⟨isNumeral_zeros _, all⟩

/-- Where the last digit stands behind the point, the point is written. -/
theorem point_mem_plain {d : Scaled} (fraction : d.exponent < 0) : '.' ∈ d.plain := by
  unfold Scaled.plain
  simp only
  rw [if_neg (by omega)]
  split
  · exact List.mem_append_right _ List.mem_cons_self
  · exact List.mem_cons_of_mem _ List.mem_cons_self

end positional

/-! ## Pointed form -/

theorem isNumeral_mantissa {ds : List Char} (all : ∀ c ∈ ds, IsNumeral c) :
    ∀ c ∈ (match ds with
      | first :: second :: rest => first :: '.' :: second :: rest
      | short => short), IsNumeral c := by
  split
  · rename_i first second rest
    obtain ⟨head, others⟩ := List.forall_mem_cons.1 all
    exact List.forall_mem_cons.2 ⟨head, List.forall_mem_cons.2 ⟨isNumeral_mark (by decide), others⟩⟩
  · exact all

theorem isNumeral_pointed (d : Scaled) : ∀ c ∈ d.pointed, IsNumeral c := by
  have zero : ∀ c ∈ ['.', '0'], IsNumeral c :=
    List.forall_mem_cons.2 ⟨isNumeral_mark (by decide), isNumeral_zeros 1⟩
  unfold Scaled.pointed
  simp only
  split
  · exact List.forall_mem_cons.2 ⟨isNumeral_digit rfl, zero⟩
  split
  · split
    · exact List.forall_mem_append.2 ⟨isNumeral_plain d, zero⟩
    · exact isNumeral_plain d
  · refine List.forall_mem_append.2 ⟨isNumeral_mantissa (isNumeral_digits _), ?_⟩
    refine List.forall_mem_cons.2 ⟨isNumeral_mark (by decide), List.forall_mem_cons.2 ⟨?_, ?_⟩⟩
    · split <;> exact isNumeral_mark (by decide)
    · exact isNumeral_digits _

/-- A character that no integer is written with stands in the pointed form. -/
theorem mark_mem_pointed (d : Scaled) : '.' ∈ d.pointed ∨ 'e' ∈ d.pointed := by
  unfold Scaled.pointed
  simp only
  split
  · exact .inl (by decide)
  split
  · left
    split
    · exact List.mem_append_right _ List.mem_cons_self
    · exact point_mem_plain (by omega)
  · exact .inr (List.mem_append_right _ List.mem_cons_self)

/-! ## Signs -/

variable {form : Scaled → List Char} {f : Float} {cs : List Char}

theorem isNumeral_of_render? (all : ∀ d, ∀ c ∈ form d, IsNumeral c)
    (written : render? form f = some cs) : ∀ c ∈ cs, IsNumeral c := by
  unfold render? at written
  split at written
  · cases written
    split
    · exact List.forall_mem_cons.2 ⟨isNumeral_mark (by decide), all _⟩
    · exact all _
  · cases written

theorem mark_mem_of_render? (written : render? Scaled.pointed f = some cs) :
    '.' ∈ cs ∨ 'e' ∈ cs := by
  unfold render? at written
  split at written
  · rename_i negative m q _
    cases written
    have mark := mark_mem_pointed (shortest m q)
    split
    · exact mark.imp (List.mem_cons_of_mem _) (List.mem_cons_of_mem _)
    · exact mark
  · cases written

end PageHarvest.Decimal
