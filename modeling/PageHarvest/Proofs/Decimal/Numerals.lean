import PageHarvest.Json.Coercion
import PageHarvest.Proofs.Decimal.Overflow
import PageHarvest.Proofs.Text.Printable
import PageHarvest.Proofs.Text.Trimming

/-!
# The texts that read as numbers

A decimal is a sign or none, digits with a point or none, and an exponent or none. Its number is not
always finite: from `overflow` on there is no finite one. Apart from decimals and blanks, only the
words for infinity read as numbers, in any case and with or without a sign.

* `IsDecimal`: a decimal with its exact value;
* `IsDecimal.read`, `exists_isDecimal`: what is read as a decimal is one, and every one is read;
* `IsInfinityWord`, `IsInfinityName`: the words for infinity, and the three of them in full;
* `reading_spec`: the texts that are numbers, and those that are infinite;
* `toFloat_text`: the same of any text, with blanks around it or nothing else.
-/

namespace PageHarvest.Decimal

open Text

variable {cs ds : List Char} {c : Char} {k : Int} {q : ℚ}

/-! ## Decimals -/

/-- A sign or none, with its factor. -/
inductive IsSign : List Char → Int → Prop
  | none : IsSign [] 1
  | plus : IsSign ['+'] 1
  | minus : IsSign ['-'] (-1)

/-- An exponent or none, with its value. -/
inductive IsExponent : List Char → Int → Prop
  | none : IsExponent [] 0
  | power {c : Char} {sign ds : List Char} {factor : Int} (letter : c = 'e' ∨ c = 'E')
      (signed : IsSign sign factor) (nonempty : ds ≠ []) (digits : ∀ d ∈ ds, isAsciiDigit d = true) :
      IsExponent (c :: (sign ++ ds)) (factor * digitsValue ds 0)

/-- A decimal without its sign, by its parts. -/
structure Numeral.Spells (n : Numeral) (cs : List Char) : Prop where
  digits : ∀ d ∈ n.whole ++ n.fraction, isAsciiDigit d = true
  nonempty : n.whole ++ n.fraction ≠ []
  parts : ∃ point power, cs = n.whole ++ (point ++ (n.fraction ++ power)) ∧
    (point = ['.'] ∨ point = [] ∧ n.fraction = []) ∧ IsExponent power n.exponent

/-- The exact value of a decimal without its sign. -/
def Numeral.exact (n : Numeral) : ℚ :=
  digitsValue (n.whole ++ n.fraction) 0 * 10 ^ (n.exponent - n.fraction.length)

/-- A decimal with its exact value. -/
inductive IsDecimal : List Char → ℚ → Prop
  | signed {sign cs : List Char} {factor : Int} {n : Numeral} (signed : IsSign sign factor)
      (spelled : n.Spells cs) : IsDecimal (sign ++ cs) (factor * n.exact)

/-! ## Signs -/

theorem exists_isSign (cs : List Char) : ∃ sign factor, IsSign sign factor ∧
    cs = sign ++ (splitSign cs).2 ∧ factor = if (splitSign cs).1 then -1 else 1 := by
  unfold splitSign
  split
  · exact ⟨_, _, .minus, rfl, rfl⟩
  · exact ⟨_, _, .plus, rfl, rfl⟩
  · exact ⟨_, _, .none, rfl, rfl⟩

/-- A text that does not begin with a sign. -/
def Unsigned (cs : List Char) : Prop := ∀ c ∈ cs.head?, c ≠ '+' ∧ c ≠ '-'

theorem splitSign_append {sign : List Char} {factor : Int} (signed : IsSign sign factor)
    (unsigned : Unsigned cs) :
    splitSign (sign ++ cs) = (decide (factor = -1), cs) := by
  cases signed with
  | plus | minus => rfl
  | none =>
    rw [List.nil_append]
    unfold splitSign
    split
    · exact absurd rfl (unsigned '-' rfl).2
    · exact absurd rfl (unsigned '+' rfl).1
    · rfl

theorem unsigned_of_digit (h : ∀ c ∈ cs.head?, isAsciiDigit c = true ∨ c = '.') : Unsigned cs := by
  intro c hc
  constructor <;> rintro rfl <;> exact absurd (h _ hc) (by decide)

/-! ## Exponents -/

theorem readExponent?_eq (cs : List Char) :
    readExponent? cs =
      let (negative, ds) := splitSign cs
      if ds.isEmpty || !ds.all isAsciiDigit then none
      else some (if negative then -(digitsValue ds 0 : Int) else digitsValue ds 0) :=
  rfl

theorem isExponent_cons : IsExponent (c :: cs) k ↔
    (c = 'e' ∨ c = 'E') ∧ readExponent? cs = some k := by
  constructor
  · intro h
    cases h with
    | @power c sign ds factor letter signed nonempty digits =>
      refine ⟨letter, ?_⟩
      have unsigned : Unsigned ds :=
        unsigned_of_digit fun c hc => .inl (digits c (List.mem_of_mem_head? hc))
      have ready : (ds.isEmpty || !ds.all isAsciiDigit) = false := by
        simpa [nonempty] using digits
      rw [readExponent?_eq, splitSign_append signed unsigned]
      dsimp only
      rw [ready]
      cases signed <;> simp
  · rintro ⟨letter, read⟩
    obtain ⟨sign, factor, signed, text, same⟩ := exists_isSign cs
    rw [readExponent?_eq] at read
    dsimp only at read
    split at read
    · cases read
    · rename_i ready
      have ready : (splitSign cs).2 ≠ [] ∧ ∀ d ∈ (splitSign cs).2, isAsciiDigit d = true := by
        simpa using ready
      have value : k = factor * digitsValue (splitSign cs).2 0 := by
        rw [← Option.some.inj read, same]
        split <;> simp
      rw [text, value]
      exact .power letter signed ready.1 ready.2

/-! ## Decimals without a sign -/

theorem IsExponent.head (h : IsExponent cs k) : ∀ c ∈ cs.head?, isAsciiDigit c = false := by
  cases h with
  | none => exact nofun
  | power letter =>
    rintro c ⟨⟩
    rcases letter with rfl | rfl <;> rfl

/-- The digits behind a point, if there is one, and what follows them. -/
def splitPoint : List Char → List Char × List Char
  | '.' :: r => (r.takeWhile isAsciiDigit, r.dropWhile isAsciiDigit)
  | r => ([], r)

theorem readUnsigned?_eq (cs : List Char) :
    readUnsigned? cs =
      let whole := cs.takeWhile isAsciiDigit
      let (fraction, rest) := splitPoint (cs.dropWhile isAsciiDigit)
      if whole.isEmpty && fraction.isEmpty then none
      else
        match rest with
        | [] => some ⟨whole, fraction, 0⟩
        | c :: r =>
          if c = 'e' ∨ c = 'E' then (readExponent? r).map (⟨whole, fraction, ·⟩) else none :=
  rfl

theorem exists_point (cs : List Char) : ∃ point,
    cs = point ++ ((splitPoint cs).1 ++ (splitPoint cs).2) ∧
    (point = ['.'] ∨ point = [] ∧ (splitPoint cs).1 = []) ∧
    ∀ d ∈ (splitPoint cs).1, isAsciiDigit d = true := by
  unfold splitPoint
  split
  · refine ⟨['.'], ?_, .inl rfl, fun d hd => List.mem_takeWhile_imp hd⟩
    rw [List.takeWhile_append_dropWhile]
    rfl
  · exact ⟨[], rfl, .inr ⟨rfl, rfl⟩, nofun⟩

theorem spells_of_readUnsigned? {n : Numeral} (read : readUnsigned? cs = some n) :
    n.Spells cs := by
  have text : cs.takeWhile isAsciiDigit ++ cs.dropWhile isAsciiDigit = cs :=
    List.takeWhile_append_dropWhile
  have digits : ∀ d ∈ cs.takeWhile isAsciiDigit, isAsciiDigit d = true :=
    fun d hd => List.mem_takeWhile_imp hd
  obtain ⟨point, rest, pointed, digits'⟩ := exists_point (cs.dropWhile isAsciiDigit)
  rw [readUnsigned?_eq] at read
  generalize splitPoint (cs.dropWhile isAsciiDigit) = behind at *
  obtain ⟨fraction, power⟩ := behind
  dsimp only at *
  split at read
  · cases read
  · rename_i nonempty
    have parts {k : Int} (exponent : IsExponent power k) :
        Numeral.Spells ⟨cs.takeWhile isAsciiDigit, fraction, k⟩ cs := by
      refine ⟨List.forall_mem_append.2 ⟨digits, digits'⟩, ?_,
        point, power, rest ▸ text.symm, pointed, exponent⟩
      rw [Ne, List.append_eq_nil_iff]
      simpa only [Bool.and_eq_true, List.isEmpty_iff] using nonempty
    split at read
    · cases read
      exact parts .none
    · split at read
      · rename_i letter
        obtain ⟨k, exponent, rfl⟩ := Option.map_eq_some_iff.1 read
        exact parts (isExponent_cons.2 ⟨letter, exponent⟩)
      · cases read

theorem Numeral.Spells.read {n : Numeral} (h : n.Spells cs) : readUnsigned? cs = some n := by
  obtain ⟨digits, nonempty, point, power, rfl, pointed, exponent⟩ := h
  obtain ⟨whole, fraction, k⟩ := n
  obtain ⟨digits, digits'⟩ := List.forall_mem_append.1 digits
  dsimp only at *
  have behind : splitPoint (point ++ (fraction ++ power)) = (fraction, power) := by
    rcases pointed with rfl | ⟨rfl, rfl⟩
    · obtain ⟨taken, dropped⟩ := takeWhile_append digits' exponent.head
      exact Prod.ext taken dropped
    · cases exponent with
      | none => rfl
      | power letter => rcases letter with rfl | rfl <;> rfl
  have stop : ∀ c ∈ (point ++ (fraction ++ power)).head?, isAsciiDigit c = false := by
    rcases pointed with rfl | ⟨rfl, rfl⟩
    · rintro c ⟨⟩
      rfl
    · exact exponent.head
  obtain ⟨taken, dropped⟩ := takeWhile_append digits stop
  rw [readUnsigned?_eq, taken, dropped, behind]
  dsimp only
  rw [if_neg (by simpa [List.append_eq_nil_iff] using nonempty)]
  cases power with
  | nil =>
    cases exponent
    rfl
  | cons c r =>
    obtain ⟨letter, read⟩ := isExponent_cons.1 exponent
    dsimp only
    rw [if_pos letter, read]
    rfl

/-- A decimal begins with a digit or with its point. -/
theorem Numeral.Spells.exists_cons {n : Numeral} (h : n.Spells cs) :
    ∃ c r, cs = c :: r ∧ (isAsciiDigit c = true ∨ c = '.') := by
  obtain ⟨digits, nonempty, point, power, rfl, pointed, _⟩ := h
  obtain ⟨whole, fraction, k⟩ := n
  cases whole with
  | cons c r => exact ⟨c, _, rfl, .inl (digits c List.mem_cons_self)⟩
  | nil =>
    rcases pointed with rfl | ⟨_, none⟩
    · exact ⟨'.', _, rfl, .inr rfl⟩
    · exact absurd none nonempty

theorem Numeral.Spells.unsigned {n : Numeral} (h : n.Spells cs) : Unsigned cs := by
  obtain ⟨c, r, rfl, front⟩ := h.exists_cons
  exact unsigned_of_digit (by rintro _ ⟨⟩; exact front)

/-! ## Values -/

theorem Numeral.infiniteIff (n : Numeral) : InfiniteIff n.value ((overflow : ℚ) ≤ n.exact) :=
  infiniteIff_nearest _ _

theorem Numeral.exact_nonneg (n : Numeral) : 0 ≤ n.exact := by
  unfold exact
  positivity

theorem IsDecimal.read (h : IsDecimal cs q) :
    ∃ x, readNumeral? cs = some x ∧ InfiniteIff x ((overflow : ℚ) ≤ |q|) := by
  obtain ⟨signed, spelled⟩ := h
  rename_i sign cs factor n
  have size : |(factor : ℚ) * n.exact| = n.exact := by
    rw [abs_mul, abs_of_nonneg n.exact_nonneg]
    cases signed <;> simp
  rw [readNumeral?, splitSign_append signed spelled.unsigned, size]
  dsimp only
  rw [spelled.read]
  refine ⟨_, rfl, ?_⟩
  dsimp only
  split
  · exact n.infiniteIff.neg
  · exact n.infiniteIff

theorem exists_isDecimal {x : Float} (read : readNumeral? cs = some x) : ∃ q, IsDecimal cs q := by
  obtain ⟨sign, factor, signed, text, _⟩ := exists_isSign cs
  rw [readNumeral?] at read
  generalize splitSign cs = split at *
  obtain ⟨n, read, _⟩ := Option.map_eq_some_iff.1 read
  rw [text]
  exact ⟨_, .signed signed (spells_of_readUnsigned? read)⟩

/-! ## Words -/

/-- A word for infinity in any case, with a sign or none. -/
def IsInfinityWord (cs : List Char) : Prop :=
  ∃ sign factor word, IsSign sign factor ∧ cs = sign ++ word ∧
    (word.map asciiLowerChar = "inf".toList ∨ word.map asciiLowerChar = "infinity".toList)

/-- Infinity as it is written in full. -/
def IsInfinityName (cs : List Char) : Prop :=
  cs = "Infinity".toList ∨ cs = "+Infinity".toList ∨ cs = "-Infinity".toList

theorem IsInfinityName.isInfinityWord (h : IsInfinityName cs) : IsInfinityWord cs := by
  have word : "Infinity".toList.map asciiLowerChar = "infinity".toList := by decide
  rcases h with rfl | rfl | rfl
  · exact ⟨_, _, _, .none, rfl, .inr word⟩
  · exact ⟨_, _, _, .plus, rfl, .inr word⟩
  · exact ⟨_, _, _, .minus, rfl, .inr word⟩

theorem isInfinityWord_iff : IsInfinityWord cs ↔
    (splitSign cs).2.map asciiLowerChar = "inf".toList ∨
      (splitSign cs).2.map asciiLowerChar = "infinity".toList := by
  constructor
  · rintro ⟨sign, factor, word, signed, rfl, named⟩
    have unsigned : Unsigned word := by
      intro c hc
      have first : asciiLowerChar c = 'i' := by
        have head : (word.map asciiLowerChar).head? = some (asciiLowerChar c) := by
          rw [List.head?_map, hc, Option.map_some]
        rcases named with named | named <;> rw [named] at head <;> exact (Option.some.inj head).symm
      constructor <;> rintro rfl <;> exact absurd first (by decide)
    rwa [splitSign_append signed unsigned]
  · intro named
    obtain ⟨sign, factor, signed, text, _⟩ := exists_isSign cs
    exact ⟨sign, factor, _, signed, text, named⟩

theorem asciiLowerChar_digit (digit : isAsciiDigit c = true) : asciiLowerChar c = c := by
  have low := toNat_of_isAsciiDigit digit
  refine if_neg fun capital => ?_
  rw [Bool.and_eq_true, decide_eq_true_eq] at capital
  have high : 65 ≤ c.toNat := capital.1
  omega

/-- No decimal is a word. -/
theorem IsDecimal.lower_ne (h : IsDecimal cs q) {first : Char} {word : List Char}
    (letter : isAsciiDigit first = false) (noPoint : first ≠ '.') :
    (splitSign cs).2.map asciiLowerChar ≠ first :: word := by
  obtain ⟨signed, spelled⟩ := h
  obtain ⟨c, r, rfl, front⟩ := spelled.exists_cons
  rw [splitSign_append signed spelled.unsigned]
  rintro same
  have lower : asciiLowerChar c = first := (List.cons.inj same).1
  rcases front with digit | rfl
  · rw [asciiLowerChar_digit digit] at lower
    rw [← lower, digit] at letter
    cases letter
  · exact noPoint lower.symm

theorem IsDecimal.not_isInfinityWord (h : IsDecimal cs q) : ¬ IsInfinityWord cs := by
  rw [isInfinityWord_iff, not_or]
  exact ⟨h.lower_ne rfl (by decide), h.lower_ne rfl (by decide)⟩

/-! ## Numbers -/

theorem readFloat?_of_isInfinityWord (h : IsInfinityWord cs) :
    ∃ x, readFloat? cs = some x ∧ InfiniteIff x True := by
  rw [readFloat?]
  dsimp only
  rw [if_pos (isInfinityWord_iff.1 h)]
  refine ⟨_, rfl, ?_⟩
  split <;> exact ⟨by decide +kernel, by decide +kernel⟩

theorem IsDecimal.readFloat?_eq (h : IsDecimal cs q) : readFloat? cs = readNumeral? cs := by
  have noNumber : (splitSign cs).2.map asciiLowerChar ≠ "nan".toList := h.lower_ne rfl (by decide)
  rw [readFloat?]
  dsimp only
  rw [if_neg (isInfinityWord_iff.not.1 h.not_isInfinityWord), if_neg noNumber]

/-- What is read from a text, if anything else is no number. -/
def reading (cs : List Char) : Float := (readFloat? cs).getD (0.0 / 0.0)

theorem reading_of_not_isDecimal (word : ¬ IsInfinityWord cs) (decimal : ¬ ∃ q, IsDecimal cs q) :
    reading cs = 0.0 / 0.0 := by
  rw [reading, readFloat?]
  dsimp only
  rw [if_neg (isInfinityWord_iff.not.1 word)]
  split
  · rfl
  · have unread : readNumeral? cs = none := by
      cases read : readNumeral? cs with
      | none => rfl
      | some x => exact absurd (exists_isDecimal read) decimal
    rw [unread]
    rfl

/-- Decimals and the words for infinity are numbers, and nothing else is. The words are infinite,
and so are the decimals from `overflow` on. -/
theorem reading_spec (cs : List Char) :
    ((reading cs).isNaN = false ↔ IsInfinityWord cs ∨ ∃ q, IsDecimal cs q) ∧
    ((reading cs).isInf = true ↔
      IsInfinityWord cs ∨ ∃ q, IsDecimal cs q ∧ (overflow : ℚ) ≤ |q|) := by
  -- A text has one of the two forms or none, for no decimal is a word.
  by_cases word : IsInfinityWord cs
  · obtain ⟨x, read, number, infinite⟩ := readFloat?_of_isInfinityWord word
    rw [reading, read, Option.getD_some]
    exact ⟨iff_of_true number (.inl word), iff_of_true (infinite.2 trivial) (.inl word)⟩
  by_cases decimal : ∃ q, IsDecimal cs q
  · obtain ⟨q, decimal⟩ := decimal
    obtain ⟨x, read, number, infinite⟩ := decimal.read
    rw [reading, decimal.readFloat?_eq, read, Option.getD_some]
    refine ⟨iff_of_true number (.inr ⟨q, decimal⟩), infinite.trans ?_⟩
    rw [or_iff_right word]
    constructor
    · exact fun out => ⟨q, decimal, out⟩
    · rintro ⟨q', decimal', out⟩
      obtain ⟨x', read', _, infinite'⟩ := decimal'.read
      cases read.symm.trans read'
      exact infinite.1 (infinite'.2 out)
  · have nothing : ¬ ∃ q, IsDecimal cs q ∧ (overflow : ℚ) ≤ |q| :=
      fun ⟨q, out, _⟩ => decimal ⟨q, out⟩
    rw [reading_of_not_isDecimal word decimal]
    exact ⟨iff_of_false (by decide +kernel) (not_or.2 ⟨word, decimal⟩),
      iff_of_false (by decide +kernel) (not_or.2 ⟨word, nothing⟩)⟩

end PageHarvest.Decimal

namespace PageHarvest.Json

open Text Decimal

/-- Blanks alone are the number zero. -/
theorem toFloat_text_spec (s : String) :
    ((toFloat (some (.str s))).isNaN = false ↔ trimChars s.toList = [] ∨
      IsInfinityWord (trimChars s.toList) ∨ ∃ q, IsDecimal (trimChars s.toList) q) ∧
    ((toFloat (some (.str s))).isInf = true ↔ IsInfinityWord (trimChars s.toList) ∨
      ∃ q, IsDecimal (trimChars s.toList) q ∧ (overflow : ℚ) ≤ |q|) := by
  have value : toFloat (some (.str s)) =
      if (trimChars s.toList).isEmpty then 0.0 else reading (trimChars s.toList) := rfl
  rw [value]
  generalize trimChars s.toList = text
  cases text with
  | nil =>
    have unread : ¬ (IsInfinityWord [] ∨ ∃ q, IsDecimal [] q) := by
      rw [← (reading_spec []).1]
      decide +kernel
    obtain ⟨noWord, noDecimal⟩ := not_or.1 unread
    refine ⟨iff_of_true (by decide +kernel) (.inl rfl), iff_of_false (by decide +kernel) ?_⟩
    rintro (word | ⟨q, decimal, _⟩)
    · exact noWord word
    · exact noDecimal ⟨q, decimal⟩
  | cons c text =>
    have some : c :: text ≠ [] := List.cons_ne_nil c text
    rw [or_iff_right some]
    exact reading_spec (c :: text)

/-- A text is a number exactly if it is blank, a decimal, or a word for infinity, without the blanks
around it; and it is infinite exactly if it is such a word or a decimal out of range. With infinity
in full as the only word, this holds of just those texts that are no other word for it. -/
theorem toFloat_text (s : String) :
    let text := trimChars s.toList
    let x := toFloat (some (.str s))
    (x.isNaN = false ↔ text = [] ∨ IsInfinityWord text ∨ ∃ q, IsDecimal text q) ∧
    (x.isInf = true ↔ IsInfinityWord text ∨ ∃ q, IsDecimal text q ∧ (overflow : ℚ) ≤ |q|) ∧
    ((x.isNaN = false ↔ text = [] ∨ IsInfinityName text ∨ ∃ q, IsDecimal text q) ∧
      (x.isInf = true ↔ IsInfinityName text ∨ ∃ q, IsDecimal text q ∧ (overflow : ℚ) ≤ |q|) ↔
        (IsInfinityWord text → IsInfinityName text)) := by
  intro text x
  obtain ⟨number, infinite⟩ : (x.isNaN = false ↔ _) ∧ (x.isInf = true ↔ _) := toFloat_text_spec s
  refine ⟨number, infinite, fun ⟨_, named⟩ word => ?_, fun spelled => ?_⟩
  · rcases named.1 (infinite.2 (.inl word)) with name | ⟨q, decimal, _⟩
    · exact name
    · exact absurd word decimal.not_isInfinityWord
  · have same : IsInfinityWord text ↔ IsInfinityName text :=
      ⟨spelled, IsInfinityName.isInfinityWord⟩
    rw [← same]
    exact ⟨number, infinite⟩

/-- Infinity in short is a number, and the word for what is no number is none. -/
example : (toFloat (some (.str " -Inf "))).isInf = true ∧
    (toFloat (some (.str "nan"))).isNaN = true ∧ (toFloat (some (.str "1e309"))).isInf = true := by
  decide +kernel

end PageHarvest.Json
