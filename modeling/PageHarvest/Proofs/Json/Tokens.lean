import Mathlib.Data.List.TakeWhile
import PageHarvest.Json.Printer
import PageHarvest.Json.Reader
import PageHarvest.Proofs.Text.Printable

/-!
# Strings and numbers read back

A string is read back one escape at a time. A number is read back in front of anything that does not
go on with it, and every integer of 64 bits is.

* `readString?_quoted`: what is read of a string that was written;
* `readNumber?_append`: a number that is read to the end of a text is read where more follows;
* `readsBack_int`: the integers that are read back.
-/

namespace PageHarvest.Json

open Text

/-! ## Strings -/

theorem hexValue?_hexDigit : ∀ d, d < 16 → hexValue? (hexDigit d) = some d := by decide

theorem hex4?_control {n : Nat} (small : n < 0x20) :
    hex4? '0' '0' (hexDigit (n / 16)) (hexDigit (n % 16)) = some n := by
  have high := hexValue?_hexDigit (n / 16) (by omega)
  have low := hexValue?_hexDigit (n % 16) (by omega)
  have zero : hexValue? '0' = some 0 := by decide
  simp only [hex4?, high, low, zero, Option.bind_eq_bind, Option.bind_some, Option.pure_def,
    Option.some.injEq]
  omega

section strings

variable {a b c d : Char} {cs : List Char} {n : Nat} {r : Option (List Char) × List Char}

theorem exists_hex4?_of_readString?
    (read : readString? ('\\' :: 'u' :: a :: b :: c :: d :: cs) = some r) :
    ∃ n, hex4? a b c d = some n := by
  cases hex : hex4? a b c d with
  | some n => exact ⟨n, rfl⟩
  | none =>
    by_cases pair : ∃ e f g h rest, cs = '\\' :: 'u' :: e :: f :: g :: h :: rest
    · obtain ⟨e, f, g, h, rest, rfl⟩ := pair
      simp [readString?, hex] at read
    · rw [readString?] at read
      · simp [hex] at read
      · exact fun e f g h rest shape => pair ⟨e, f, g, h, rest, shape⟩

/-- An escaped number. What follows might be the other half of a pair, so it is read as well. -/
theorem readString?_unicode (hex : hex4? a b c d = some n)
    (whole : (isHighHalf n || isLowHalf n) = false) (read : readString? cs = some r) :
    readString? ('\\' :: 'u' :: a :: b :: c :: d :: cs) =
      some (prepend (some (Char.ofNat n)) r) := by
  obtain ⟨high, low⟩ := Bool.or_eq_false_iff.1 whole
  by_cases pair : ∃ e f g h rest, cs = '\\' :: 'u' :: e :: f :: g :: h :: rest
  · obtain ⟨e, f, g, h, rest, rfl⟩ := pair
    obtain ⟨k, second⟩ := exists_hex4?_of_readString? read
    rw [readString?]
    simp [hex, second, high, low, read]
  · rw [readString?]
    · simp [hex, high, low, read]
    · exact fun e f g h rest shape => pair ⟨e, f, g, h, rest, shape⟩

theorem readString?_letter {x : Char} (letter : simpleEscape? x = some c)
    (read : readString? cs = some r) :
    readString? ('\\' :: x :: cs) = some (prepend (some c) r) := by
  have plain : x ≠ 'u' := by
    rintro rfl
    cases letter
  rw [readString?]
  · simp [letter, read]
  · exact fun _ _ _ _ _ _ _ _ _ escape => absurd escape plain
  · exact fun _ _ _ _ _ escape => absurd escape plain

theorem readString?_plain (quote : c ≠ '"') (slash : c ≠ '\\') (visible : ¬ c.toNat < 0x20)
    (read : readString? cs = some r) :
    readString? (c :: cs) = some (prepend (some c) r) := by
  rw [readString?]
  · simp [visible, slash, read]
  · exact quote
  · exact fun _ _ _ _ _ _ _ _ _ escape => absurd escape slash
  · exact fun _ _ _ _ _ escape => absurd escape slash
  · exact fun _ _ escape => absurd escape slash

theorem readString?_escapeChar (c : Char) (read : readString? cs = some r) :
    readString? (escapeChar c ++ cs) = some (prepend (some c) r) := by
  unfold escapeChar
  split
  · subst c; exact readString?_letter rfl read
  split
  · subst c; exact readString?_letter rfl read
  split
  · subst c; exact readString?_letter rfl read
  split
  · subst c; exact readString?_letter rfl read
  split
  · subst c; exact readString?_letter rfl read
  split
  · subst c; exact readString?_letter rfl read
  split
  · subst c; exact readString?_letter rfl read
  rename_i quote slash _ _ _ _ _
  split
  · rename_i control
    have whole : (isHighHalf c.toNat || isLowHalf c.toNat) = false := by
      simp [isHighHalf, isLowHalf]
      omega
    have escaped := readString?_unicode (hex4?_control control) whole read
    rwa [Char.ofNat_toNat] at escaped
  · rename_i visible
    exact readString?_plain quote slash visible read

end strings

/-- The characters of a written string, and what follows it. -/
theorem readString?_quoted (cs rest : List Char) :
    readString? (cs.flatMap escapeChar ++ '"' :: rest) = some (some cs, rest) := by
  induction cs with
  | nil => rfl
  | cons c cs ih =>
    rw [List.flatMap_cons, List.append_assoc, readString?_escapeChar c ih]
    rfl

/-! ## Numbers in front of a text -/

/-- No character that goes on with a number stands in front. -/
def EndsNumber (rest : List Char) : Prop :=
  ∀ c ∈ rest.head?, isAsciiDigit c = false ∧ c ≠ '.' ∧ c ≠ 'e' ∧ c ≠ 'E'

section append

variable {negative : Bool} {n m : Nat} {e : Int} {cs rest left : List Char} {r : Option Float}

theorem EndsNumber.head (ends : EndsNumber rest) : ∀ c ∈ rest.head?, isAsciiDigit c = false :=
  fun c hc => (ends c hc).1

theorem takeWhile_digits_append (ends : EndsNumber rest) :
    (cs ++ rest).takeWhile isAsciiDigit = cs.takeWhile isAsciiDigit ∧
      (cs ++ rest).dropWhile isAsciiDigit = cs.dropWhile isAsciiDigit ++ rest := by
  induction cs with
  | nil =>
    cases rest with
    | nil => simp
    | cons c rest => simp [ends.head c rfl]
  | cons c cs ih => by_cases digit : isAsciiDigit c = true <;> simp [digit, ih]

theorem takeDigits_append (ends : EndsNumber rest) :
    takeDigits n (cs ++ rest) =
      ((takeDigits n cs).1, (takeDigits n cs).2.1, (takeDigits n cs).2.2 ++ rest) := by
  induction cs generalizing n with
  | nil =>
    cases rest with
    | nil => rfl
    | cons c rest => simp [takeDigits, ends.head c rfl]
  | cons c cs ih =>
    simp only [List.cons_append, takeDigits, ih]
    split
    · split <;> rfl
    · rfl

/-- What `readExponent?` makes of the digits behind a sign. -/
def exponentDigits? (negative : Bool) (m : Nat) (e : Int) (ds : List Char) :
    Option (Option Float × List Char) :=
  let run := ds.takeWhile isAsciiDigit
  let rest := ds.dropWhile isAsciiDigit
  if run.isEmpty then none
  else
    let x := run.foldl (fun n c => 10 * n + (c.toNat - 48)) 0
    if exponentLimit < x then some (if m ≠ 0 ∧ !negative then none else some 0.0, rest)
    else some (scale? m (if negative then e - x else e + x), rest)

theorem readExponent?_bare {c : Char} (minus : c ≠ '-') (plus : c ≠ '+') (cs : List Char) :
    readExponent? m e (c :: cs) = exponentDigits? false m e (c :: cs) := by
  unfold readExponent?
  split
  rename_i negative ds parts
  split at parts
  · rename_i same
    exact absurd (List.cons.inj same).1 minus
  · rename_i same
    exact absurd (List.cons.inj same).1 plus
  · obtain ⟨rfl, rfl⟩ := Prod.mk.inj parts
    rfl

theorem exponentDigits?_append (negative : Bool) (ends : EndsNumber rest)
    (read : exponentDigits? negative m e cs = some (r, left)) :
    exponentDigits? negative m e (cs ++ rest) = some (r, left ++ rest) := by
  obtain ⟨run, behind⟩ := @takeWhile_digits_append cs rest ends
  simp only [exponentDigits?] at read ⊢
  rw [run, behind]
  split at read
  · cases read
  · rename_i some_digit
    rw [if_neg some_digit]
    split at read
    · rename_i beyond
      obtain ⟨rfl, rfl⟩ := Prod.mk.inj (Option.some.inj read)
      rw [if_pos beyond]
    · rename_i within
      obtain ⟨rfl, rfl⟩ := Prod.mk.inj (Option.some.inj read)
      rw [if_neg within]

theorem readExponent?_append (ends : EndsNumber rest)
    (read : readExponent? m e cs = some (r, left)) :
    readExponent? m e (cs ++ rest) = some (r, left ++ rest) := by
  cases cs with
  | nil => simp [readExponent?] at read
  | cons c ds =>
    by_cases minus : c = '-'
    · subst c
      exact exponentDigits?_append true ends read
    by_cases plus : c = '+'
    · subst c
      exact exponentDigits?_append false ends read
    rw [readExponent?_bare minus plus] at read
    rw [List.cons_append, readExponent?_bare minus plus]
    exact exponentDigits?_append false ends read

theorem finishFloat?_append (ends : EndsNumber rest)
    (read : finishFloat? m e cs = some (r, left)) :
    finishFloat? m e (cs ++ rest) = some (r, left ++ rest) := by
  cases cs with
  | nil =>
    cases read
    cases rest with
    | nil => rfl
    | cons c rest =>
      obtain ⟨-, -, lower, upper⟩ := ends c rfl
      simp [finishFloat?, lower, upper]
  | cons c cs =>
    rw [finishFloat?] at read
    rw [List.cons_append, finishFloat?]
    split at read
    · rename_i letter
      rw [if_pos letter, readExponent?_append ends read]
    · rename_i other
      rw [if_neg other]
      cases read
      rfl

theorem readFraction?_append (ends : EndsNumber rest)
    (read : readFraction? m e cs = some (r, left)) :
    readFraction? m e (cs ++ rest) = some (r, left ++ rest) := by
  cases cs with
  | nil => simp [readFraction?, takeDigits, isAsciiDigit] at read
  | cons c cs =>
    simp only [readFraction?, takeDigits_append ends, takeWhile_digits_append ends] at read ⊢
    split at read
    · cases read
    · rename_i some_digit
      rw [List.cons_append, List.headD_cons]
      rw [List.headD_cons] at some_digit
      rw [if_neg some_digit, finishFloat?_append ends read]

/-- What follows the whole part of a number: a point, an exponent, or nothing. -/
def readAfterWhole? (negative : Bool) (m : Nat) (e : Int) (cs : List Char) :
    Option (Option Number × List Char) :=
  let signed (r : Option Float × List Char) : Option Number × List Char :=
    (r.1.map fun f => .float (if negative then -f else f), r.2)
  match cs with
  | '.' :: cs => (readFraction? m e cs).map signed
  | cs =>
    if e = 0 ∧ !(cs.head?.any fun c => c = 'e' || c = 'E') then
      some (some (wholeNumber negative m), cs)
    else (finishFloat? m e cs).map signed

theorem readUnsigned?_zero (follows : isAsciiDigit (cs.headD ' ') = false) :
    readUnsigned? negative ('0' :: cs) = readAfterWhole? negative 0 0 cs := by
  rw [readUnsigned?, follows]
  rfl

theorem readUnsigned?_digit {c : Char} (digit : isAsciiDigit c = true) (other : c ≠ '0') :
    readUnsigned? negative (c :: cs) =
      readAfterWhole? negative (takeDigits 0 (c :: cs)).1
        ((takeDigits 0 (c :: cs)).2.2.takeWhile isAsciiDigit).length
        ((takeDigits 0 (c :: cs)).2.2.dropWhile isAsciiDigit) := by
  rw [readUnsigned?]
  · rw [if_pos digit]
    rfl
  · exact other

variable {v : Option Number}

theorem readAfterWhole?_point (cs : List Char) :
    readAfterWhole? negative m e ('.' :: cs) = (readFraction? m e cs).map fun r =>
      (r.1.map fun f => .float (if negative then -f else f), r.2) := rfl

theorem readAfterWhole?_other (point : ∀ c ∈ cs.head?, c ≠ '.') :
    readAfterWhole? negative m e cs =
      if e = 0 ∧ !(cs.head?.any fun c => c = 'e' || c = 'E') then
        some (some (wholeNumber negative m), cs)
      else (finishFloat? m e cs).map fun r =>
        (r.1.map fun f => .float (if negative then -f else f), r.2) := by
  rw [readAfterWhole?]
  rintro ds rfl
  exact point '.' rfl rfl

theorem readAfterWhole?_append (ends : EndsNumber rest)
    (read : readAfterWhole? negative m e cs = some (v, left)) :
    readAfterWhole? negative m e (cs ++ rest) = some (v, left ++ rest) := by
  by_cases point : ∃ ds, cs = '.' :: ds
  · obtain ⟨ds, rfl⟩ := point
    rw [readAfterWhole?_point] at read
    obtain ⟨r, fraction, same⟩ := Option.map_eq_some_iff.1 read
    rw [List.cons_append, readAfterWhole?_point, readFraction?_append ends fraction]
    cases same
    rfl
  · have head : ∀ c ∈ cs.head?, c ≠ '.' := by
      cases cs with
      | nil => exact nofun
      | cons c ds =>
        rintro _ ⟨⟩ rfl
        exact point ⟨ds, rfl⟩
    have further : ∀ c ∈ (cs ++ rest).head?, c ≠ '.' := by
      cases cs with
      | nil => exact fun c hc => (ends c hc).2.1
      | cons c ds => exact head
    have exponent : ((cs ++ rest).head?.any fun c => c = 'e' || c = 'E') =
        cs.head?.any fun c => c = 'e' || c = 'E' := by
      cases cs with
      | nil =>
        cases rest with
        | nil => rfl
        | cons c rest =>
          obtain ⟨-, -, lower, upper⟩ := ends c rfl
          simp [lower, upper]
      | cons c ds => rfl
    rw [readAfterWhole?_other head] at read
    rw [readAfterWhole?_other further, exponent]
    split at read
    · rename_i whole
      rw [if_pos whole]
      cases read
      rfl
    · rename_i float
      obtain ⟨r, finished, same⟩ := Option.map_eq_some_iff.1 read
      rw [if_neg float, finishFloat?_append ends finished]
      cases same
      rfl

theorem readUnsigned?_append (ends : EndsNumber rest)
    (read : readUnsigned? negative cs = some (v, left)) :
    readUnsigned? negative (cs ++ rest) = some (v, left ++ rest) := by
  cases cs with
  | nil => cases read
  | cons c cs =>
    have digit : isAsciiDigit c = true := by
      by_contra other
      have zero : c ≠ '0' := by
        rintro rfl
        exact other (by decide)
      rw [readUnsigned?] at read
      · rw [if_neg other] at read
        cases read
      · exact zero
    by_cases zero : c = '0'
    · subst c
      have alone : isAsciiDigit (cs.headD ' ') = false := by
        refine Bool.eq_false_iff.2 fun further => ?_
        rw [readUnsigned?, further] at read
        cases read
      have still : isAsciiDigit ((cs ++ rest).headD ' ') = false := by
        cases cs with
        | nil =>
          cases rest with
          | nil => rfl
          | cons c rest => exact ends.head c rfl
        | cons c cs => exact alone
      rw [readUnsigned?_zero alone] at read
      rw [List.cons_append, readUnsigned?_zero still, readAfterWhole?_append ends read]
    · rw [readUnsigned?_digit digit zero] at read
      rw [List.cons_append, readUnsigned?_digit digit zero, ← List.cons_append,
        takeDigits_append ends]
      simp only [takeWhile_digits_append ends]
      exact readAfterWhole?_append ends read

end append

variable {cs rest : List Char} {v : Option Number}

/-- A number that is read to the end of a text is read in front of another one as well. -/
theorem readNumber?_append (ends : EndsNumber rest) (read : readNumber? cs = some (v, [])) :
    readNumber? (cs ++ rest) = some (v, rest) := by
  unfold readNumber? at read
  split at read
  · exact readUnsigned?_append ends read
  · rename_i sign
    have unsigned : readNumber? (cs ++ rest) = readUnsigned? false (cs ++ rest) := by
      cases cs with
      | nil => cases read
      | cons c cs =>
        unfold readNumber?
        split
        · rename_i shape
          cases shape
          exact absurd rfl (sign cs)
        · rfl
    rw [unsigned]
    exact readUnsigned?_append ends read

/-! ## Integers -/

deriving instance DecidableEq for Number

/-- A number whose text reads as the number. -/
def ReadsBack (n : Number) : Prop := readNumber? (numberChars n) = some (some n, [])

instance (n : Number) : Decidable (ReadsBack n) := inferInstanceAs (Decidable (_ = _))

theorem le_digitsValue (cs : List Char) (n : Nat) : n ≤ Decimal.digitsValue cs n := by
  induction cs generalizing n with
  | nil => exact Nat.le_refl n
  | cons c cs ih =>
    have further := ih (10 * n + (c.toNat - '0'.toNat))
    show n ≤ Decimal.digitsValue cs (10 * n + (c.toNat - '0'.toNat))
    omega

theorem takeDigits_all {n : Nat} (digits : ∀ c ∈ cs, isAsciiDigit c = true)
    (small : Decimal.digitsValue cs n < wordLimit) :
    takeDigits n cs = (Decimal.digitsValue cs n, cs.length, []) := by
  induction cs generalizing n with
  | nil => rfl
  | cons c cs ih =>
    obtain ⟨digit, others⟩ := List.forall_mem_cons.1 digits
    have within : 10 * n + (c.toNat - 48) < wordLimit :=
      Nat.lt_of_le_of_lt (le_digitsValue cs _) small
    rw [takeDigits, if_pos digit, if_pos within, ih (n := 10 * n + (c.toNat - 48)) others small]
    rfl

theorem digitsValue_toDigits (n : Nat) : Decimal.digitsValue (Nat.toDigits 10 n) 0 = n := by
  have read := Nat.ofDigitChars_ten_toDigits (n := n)
  rwa [Nat.ofDigitChars_eq_foldl] at read

theorem head_toDigits {n : Nat} (pos : 0 < n) : ∀ c ∈ (Nat.toDigits 10 n).head?, c ≠ '0' := by
  induction n using Nat.strong_induction_on with
  | _ n ih =>
    by_cases small : n < 10
    · rw [Nat.toDigits_of_lt_base small]
      have nonzero : ∀ d, d < 10 → 0 < d → d.digitChar ≠ '0' := by decide
      rintro _ ⟨⟩
      exact nonzero n small pos
    · have front := ih (n / 10) (by omega) (by omega)
      rw [Nat.toDigits_of_base_le (by decide) (by omega)]
      obtain ⟨d, ds, shape⟩ :=
        List.exists_cons_of_ne_nil (Nat.toDigits_ne_nil (n := n / 10) (b := 10))
      rw [shape] at front ⊢
      exact front

theorem readUnsigned?_toDigits (negative : Bool) {n : Nat} (small : n < wordLimit) :
    readUnsigned? negative (Nat.toDigits 10 n) = some (some (wholeNumber negative n), []) := by
  rcases Nat.eq_zero_or_pos n with rfl | pos
  · rfl
  · have digits : ∀ c ∈ Nat.toDigits 10 n, isAsciiDigit c = true :=
      fun _ => isAsciiDigit_of_mem_toDigits
    have value := digitsValue_toDigits n
    have head := head_toDigits pos
    obtain ⟨d, ds, shape⟩ := List.exists_cons_of_ne_nil (Nat.toDigits_ne_nil (n := n) (b := 10))
    rw [shape] at digits value head ⊢
    rw [readUnsigned?_digit (digits d List.mem_cons_self) (head d rfl),
      takeDigits_all digits (by omega), value]
    rfl

/-- Every integer of 64 bits reads as itself. -/
theorem readsBack_int {n : Int} (least : Number.minInt ≤ n) (greatest : n ≤ Number.maxInt) :
    ReadsBack (.int n) := by
  have lower : Number.minInt = -(2 ^ 63) := by decide
  have upper : Number.maxInt = 2 ^ 64 - 1 := by decide
  have limit : wordLimit = 2 ^ 64 := by decide
  show readNumber? (integerChars n) = _
  unfold integerChars
  by_cases sign : n < 0
  · rw [if_pos sign]
    show readUnsigned? true (Nat.toDigits 10 n.natAbs) = _
    rw [readUnsigned?_toDigits true (by omega), wholeNumber, if_pos rfl,
      if_neg (by rw [Nat.pow_eq]; omega)]
    congr
    omega
  · have unsigned : readNumber? (Nat.toDigits 10 n.natAbs) =
        readUnsigned? false (Nat.toDigits 10 n.natAbs) := by
      unfold readNumber?
      split
      · rename_i shape
        have digit : isAsciiDigit '-' = true :=
          isAsciiDigit_of_mem_toDigits (n := n.natAbs) (by rw [shape]; exact List.mem_cons_self)
        exact absurd digit (by decide)
      · rfl
    rw [if_neg sign, Decimal.digits, unsigned, readUnsigned?_toDigits false (by omega)]
    rw [wholeNumber, if_neg (by decide)]
    congr
    omega

end PageHarvest.Json
