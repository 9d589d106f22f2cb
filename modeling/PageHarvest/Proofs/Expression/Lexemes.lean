import Mathlib.Data.List.Forall2
import PageHarvest.Proofs.Decimal.Numerals
import PageHarvest.Proofs.Flow.Comparisons
import PageHarvest.Proofs.Text.Printable
import PageHarvest.Proofs.Text.Trimming

/-!
# Tokens and their lexemes

A token is written as a lexeme, and lexemes stand one space apart.

* `Token.Written`: the lexemes of a token;
* `exists_readFloat?`: every lexeme of a number has a value;
* `Token.Written.lexed`: a lexeme is read as its token, whatever follows the space after it;
* `tokenize_written`: so are any number of lexemes.
-/

namespace PageHarvest.Expr

open Text

/-! ## Lexemes -/

/-- One digit or more. -/
def Digits (ds : List Char) : Prop := ds ≠ [] ∧ ∀ d ∈ ds, isAsciiDigit d = true

inductive Fraction : List Char → Prop
  | none : Fraction []
  | digits {ds : List Char} (digits : Digits ds) : Fraction ('.' :: ds)

inductive Exponent : List Char → Prop
  | none : Exponent []
  | plain {e : Char} {ds : List Char} (letter : e = 'e' ∨ e = 'E') (digits : Digits ds) :
      Exponent (e :: ds)
  | signed {e s : Char} {ds : List Char} (letter : e = 'e' ∨ e = 'E') (sign : s = '+' ∨ s = '-')
      (digits : Digits ds) : Exponent (e :: s :: ds)

/-- Digits with a fraction or none and an exponent or none. -/
inductive IsNumber : List Char → Prop
  | parts {whole fraction exponent : List Char} (digits : Digits whole) (point : Fraction fraction)
      (power : Exponent exponent) : IsNumber (whole ++ (fraction ++ exponent))

/-- A letter, an underscore or a dollar sign, and any number of these and digits. -/
inductive IsName : List Char → Prop
  | cons {c : Char} {cs : List Char} (start : isNameStart c = true)
      (parts : ∀ d ∈ cs, isNamePart d = true) : IsName (c :: cs)

/-- A character of a text in quotes; a backslash stands in front of a quote and a backslash. -/
def escape (quote c : Char) : List Char := if c = '\\' ∨ c = quote then ['\\', c] else [c]

def inQuotes (quote : Char) (text : String) : String :=
  String.ofList (quote :: (text.toList.flatMap (escape quote) ++ [quote]))

/-- The mark of a token that is always written alike. -/
def Token.mark? : Token → Option String
  | dot => some "."
  | lBracket => some "["
  | rBracket => some "]"
  | lParen => some "("
  | rParen => some ")"
  | not => some "!"
  | minus => some "-"
  | and => some "&&"
  | or => some "||"
  | eq => some "=="
  | notEq => some "!="
  | strictEq => some "==="
  | strictNotEq => some "!=="
  | lt => some "<"
  | le => some "<="
  | gt => some ">"
  | ge => some ">="
  | number _ | str _ | ident _ | reference _ => none

/-- The lexemes of a token. -/
inductive Token.Written : Token → String → Prop
  | number {lexeme : String} {value : Float} (form : IsNumber lexeme.toList)
      (reading : Decimal.readFloat? lexeme.toList = some value) : Written (number value) lexeme
  | str {quote : Char} (mark : quote = '\'' ∨ quote = '"') (text : String) :
      Written (str text) (inQuotes quote text)
  | ident {name : String} (form : IsName name.toList) : Written (ident name) name
  | reference {path : String} (trimmed : Trimmed path.toList) (closed : '\x7d' ∉ path.toList) :
      Written (reference path) (Reference.braced path)
  | operator {t : Token} {mark : String} (form : t.mark? = some mark) : Written t mark

/-! ## Numbers -/

section Numbers

variable {cs ds rest : List Char} {c : Char}

/-- The end of the text, or a space. -/
def Apart (rest : List Char) : Prop := rest = [] ∨ ∃ more, rest = ' ' :: more

theorem Apart.stops {p : Char → Bool} (apart : Apart rest) (h : p ' ' = false) :
    ∀ c ∈ rest.head?, p c = false := by
  rintro c hc
  rcases apart with rfl | ⟨more, rfl⟩
  · cases hc
  · cases hc
    exact h

theorem Digits.exists_cons (h : Digits ds) : ∃ d more, ds = d :: more ∧ isAsciiDigit d = true := by
  obtain ⟨d, more, rfl⟩ := List.exists_cons_of_ne_nil h.1
  exact ⟨d, more, rfl, h.2 d List.mem_cons_self⟩

theorem Fraction.isNumberChar (h : Fraction cs) : ∀ c ∈ cs, isNumberChar c = true := by
  cases h with
  | none => exact fun _ h => nomatch h
  | digits digits =>
    refine List.forall_mem_cons.2 ⟨rfl, fun d hd => ?_⟩
    rw [Expr.isNumberChar, digits.2 d hd, Bool.true_or]

theorem Exponent.head (h : Exponent cs) : ∀ c ∈ cs.head?, c = 'e' ∨ c = 'E' := by
  cases h with
  | none => exact fun _ h => nomatch h
  | plain letter _ => exact fun c hc => Option.some.inj hc ▸ letter
  | signed letter _ _ => exact fun c hc => Option.some.inj hc ▸ letter

theorem takeExponent_append (h : Exponent cs) (apart : Apart rest) :
    takeExponent (cs ++ rest) = (cs, rest) := by
  cases h with
  | none => rcases apart with rfl | ⟨more, rfl⟩ <;> rfl
  | @plain e ds letter digits =>
    obtain ⟨taken, dropped⟩ := takeWhile_append digits.2 (apart.stops rfl)
    obtain ⟨d, more, rfl, digit⟩ := digits.exists_cons
    have noSign : ¬ (d = '+' ∨ d = '-') := by
      rintro (rfl | rfl) <;> cases digit
    rw [List.cons_append] at taken dropped
    rw [List.cons_append, List.cons_append, takeExponent, if_pos letter]
    rw [if_neg noSign, taken, dropped]
  | signed letter sign digits =>
    obtain ⟨taken, dropped⟩ := takeWhile_append digits.2 (apart.stops rfl)
    rw [List.cons_append, List.cons_append, takeExponent, if_pos letter, if_pos sign, taken,
      dropped]

theorem lexNumber_append (form : IsNumber cs) {value : Float}
    (reading : Decimal.readFloat? cs = some value) (apart : Apart rest) :
    lexNumber (cs ++ rest) = .ok (.number value, rest) := by
  obtain ⟨digits, point, power⟩ := form
  rename_i whole fraction exponent
  have front : ∀ c ∈ whole ++ fraction, isNumberChar c = true := by
    refine List.forall_mem_append.2 ⟨fun d hd => ?_, point.isNumberChar⟩
    rw [isNumberChar, digits.2 d hd, Bool.true_or]
  have stop : ∀ c ∈ (exponent ++ rest).head?, isNumberChar c = false := by
    intro c hc
    rw [List.head?_append] at hc
    rcases Option.or_eq_some_iff.1 hc with first | ⟨-, first⟩
    · rcases power.head c first with rfl | rfl <;> rfl
    · exact apart.stops rfl c first
  obtain ⟨taken, dropped⟩ := takeWhile_append front stop
  have text : whole ++ (fraction ++ exponent) ++ rest =
      whole ++ fraction ++ (exponent ++ rest) := by
    simp only [List.append_assoc]
  rw [lexNumber, text, taken, dropped, takeExponent_append power apart]
  simp only
  rw [List.append_assoc, reading]

/-! ### Values -/

theorem Exponent.exists_isExponent (h : Exponent cs) : ∃ k, Decimal.IsExponent cs k := by
  cases h with
  | none => exact ⟨_, .none⟩
  | plain letter digits => exact ⟨_, .power letter .none digits.1 digits.2⟩
  | signed letter sign digits =>
    rcases sign with rfl | rfl
    · exact ⟨_, .power letter .plus digits.1 digits.2⟩
    · exact ⟨_, .power letter .minus digits.1 digits.2⟩

theorem IsNumber.exists_isDecimal (form : IsNumber cs) : ∃ q, Decimal.IsDecimal cs q := by
  obtain ⟨digits, point, power⟩ := form
  rename_i whole fraction exponent
  obtain ⟨k, power⟩ := power.exists_isExponent
  cases point with
  | none =>
    have spelled : Decimal.Numeral.Spells ⟨whole, [], k⟩ (whole ++ ([] ++ exponent)) :=
      ⟨by simpa using digits.2, by simpa using digits.1, [], exponent, rfl, .inr ⟨rfl, rfl⟩, power⟩
    have decimal := Decimal.IsDecimal.signed .none spelled
    exact ⟨_, decimal⟩
  | @digits ds after =>
    have spelled : Decimal.Numeral.Spells ⟨whole, ds, k⟩ (whole ++ ('.' :: ds ++ exponent)) :=
      ⟨List.forall_mem_append.2 ⟨digits.2, after.2⟩, by simp [digits.1], ['.'], exponent, rfl,
        .inl rfl, power⟩
    have decimal := Decimal.IsDecimal.signed .none spelled
    exact ⟨_, decimal⟩

/-- A lexeme of a number has a value. -/
theorem exists_readFloat? (form : IsNumber cs) : ∃ value, Decimal.readFloat? cs = some value := by
  obtain ⟨q, decimal⟩ := form.exists_isDecimal
  obtain ⟨x, read, _⟩ := decimal.read
  exact ⟨x, decimal.readFloat?_eq.trans read⟩

end Numbers

/-! ## Texts in quotes -/

theorem readQuoted?_escaped {quote : Char} (mark : quote = '\'' ∨ quote = '"')
    (text rest : List Char) :
    readQuoted? quote (text.flatMap (escape quote) ++ quote :: rest) = some (text, rest) := by
  have noEscape : quote ≠ '\\' := by rcases mark with rfl | rfl <;> decide
  induction text with
  | nil => simp [readQuoted?, noEscape]
  | cons c text ih =>
    rw [List.flatMap_cons, List.append_assoc, escape]
    split
    · rename_i escaped
      have itself : unescape c = c := by
        rcases escaped with rfl | rfl
        · rfl
        · rcases mark with rfl | rfl <;> rfl
      simp [readQuoted?, ih, itself]
    · rename_i plain
      obtain ⟨noSlash, noQuote⟩ := not_or.1 plain
      simp [readQuoted?, ih, noSlash, noQuote]

/-! ## Names -/

section Names

variable {c : Char}

theorem isNameStart_iff : isNameStart c = true ↔ isLetter c = true ∨ c = '_' ∨ c = '$' := by
  simp [isNameStart, or_assoc]

theorem not_blank_of_isNameStart (h : isNameStart c = true) : isBlank c = false := by
  rcases isNameStart_iff.1 h with letter | rfl | rfl
  · exact not_blank_of_isLetter letter
  · rfl
  · rfl

theorem isAsciiDigit_of_isNameStart (h : isNameStart c = true) : isAsciiDigit c = false := by
  rcases isNameStart_iff.1 h with letter | rfl | rfl
  · exact isAsciiDigit_of_isLetter letter
  · rfl
  · rfl

theorem isNamePart_of_isNameStart (h : isNameStart c = true) : isNamePart c = true := by
  rcases isNameStart_iff.1 h with letter | rfl | rfl
  · rw [isNamePart, isAlphanumeric_of_isLetter letter]
    rfl
  · rfl
  · rfl

theorem not_blank_of_isNamePart (h : isNamePart c = true) : isBlank c = false := by
  simp only [isNamePart, Bool.or_eq_true, beq_iff_eq] at h
  rcases h with (letter | rfl) | rfl
  · exact not_blank_of_isAlphanumeric letter
  · rfl
  · rfl

theorem IsName.exists_cons {cs : List Char} (form : IsName cs) :
    ∃ c more, cs = c :: more ∧ isNameStart c = true := by
  obtain ⟨start, _⟩ := form
  exact ⟨_, _, rfl, start⟩

theorem IsName.isNamePart {cs : List Char} (form : IsName cs) :
    ∀ d ∈ cs, Expr.isNamePart d = true := by
  obtain ⟨start, parts⟩ := form
  exact List.forall_mem_cons.2 ⟨isNamePart_of_isNameStart start, parts⟩

/-- A name is read up to a character that does not go on with it; a brace after a dollar sign would
make it a reference. -/
theorem lexToken_name {name : String} (form : IsName name.toList) {cs rest : List Char}
    (shape : name.toList = c :: cs) (start : isNameStart c = true) (position : Nat)
    (stops : ∀ d ∈ rest.head?, Expr.isNamePart d = false ∧ d ≠ '\x7b') :
    lexToken position c (cs ++ rest) = .ok (.ident name, rest) := by
  obtain ⟨taken, dropped⟩ := takeWhile_append (shape ▸ form.isNamePart) fun d hd => (stops d hd).1
  have noReference : (cs ++ rest).head? ≠ some '\x7b' := by
    intro h
    rw [List.head?_append] at h
    rcases Option.or_eq_some_iff.1 h with first | ⟨-, first⟩
    · cases form.isNamePart _ (shape ▸ List.mem_cons_of_mem _ (List.mem_of_mem_head? first))
    · exact (stops _ first).2 rfl
  have brace : c ≠ '\x7b' := ne_of_test start rfl
  have quotes : ¬ (c = '\'' ∨ c = '"') :=
    not_or.2 ⟨ne_of_test start rfl, ne_of_test start rfl⟩
  have point : c ≠ '.' := ne_of_test start rfl
  have noNumber : ¬ startsNumber c (cs ++ rest) = true := by
    simp [startsNumber, isAsciiDigit_of_isNameStart start, point]
  rw [List.cons_append] at taken dropped
  rw [lexToken, if_neg fun h => noReference h.2, if_neg fun h => brace h.1, if_neg quotes,
    if_neg noNumber, if_pos start, taken, dropped, ← shape, String.ofList_toList]

end Names

/-! ## Lexemes one by one -/

/-- The lexeme is read as the token, where a space or nothing follows. -/
def Lexed (t : Token) (cs : List Char) : Prop :=
  ∃ c more, cs = c :: more ∧ isBlank c = false ∧ ∀ position rest, Apart rest →
    lexToken position c (more ++ rest) = .ok (t, rest)

section Lexed

variable {t : Token} {cs rest : List Char} {path : String} {lexeme : String}

theorem lexed_number {value : Float} (form : IsNumber cs)
    (reading : Decimal.readFloat? cs = some value) : Lexed (.number value) cs := by
  have whole := form
  obtain ⟨digits, point, power⟩ := form
  obtain ⟨d, more, rfl, digit⟩ := digits.exists_cons
  refine ⟨d, _, rfl, (printable_of_isAsciiDigit digit).not_blank, fun position rest apart => ?_⟩
  have dollar : d ≠ '$' := ne_of_test digit rfl
  have brace : d ≠ '\x7b' := ne_of_test digit rfl
  have quotes : ¬ (d = '\'' ∨ d = '"') :=
    not_or.2 ⟨ne_of_test digit rfl, ne_of_test digit rfl⟩
  rw [lexToken, if_neg fun h => dollar h.1, if_neg fun h => brace h.1, if_neg quotes,
    if_pos (by simp [startsNumber, digit])]
  exact lexNumber_append whole reading apart

theorem lexed_str {quote : Char} (mark : quote = '\'' ∨ quote = '"') (text : String) :
    Lexed (.str text) (inQuotes quote text).toList := by
  have blank : isBlank quote = false := by rcases mark with rfl | rfl <;> rfl
  have dollar : quote ≠ '$' := by rcases mark with rfl | rfl <;> decide
  have brace : quote ≠ '\x7b' := by rcases mark with rfl | rfl <;> decide
  rw [inQuotes, String.toList_ofList]
  refine ⟨quote, _, rfl, blank, fun position rest _ => ?_⟩
  rw [lexToken, if_neg fun h => dollar h.1, if_neg fun h => brace h.1, if_pos mark,
    List.append_assoc, List.singleton_append, readQuoted?_escaped mark]
  simp only [String.ofList_toList]

theorem lexed_ident {name : String} (form : IsName name.toList) :
    Lexed (.ident name) name.toList := by
  obtain ⟨c, cs, shape, start⟩ := form.exists_cons
  refine ⟨c, cs, shape, not_blank_of_isNameStart start, fun position rest apart => ?_⟩
  exact lexToken_name form shape start position fun d hd =>
    ⟨apart.stops rfl d hd, beq_eq_false_iff_ne.1 (apart.stops (p := (· == '\x7b')) rfl d hd)⟩

theorem lexed_reference (trimmed : Trimmed path.toList) (closed : '\x7d' ∉ path.toList) :
    Lexed (.reference path) (Reference.braced path).toList := by
  rw [Reference.toList_braced]
  refine ⟨'$', _, rfl, rfl, fun position rest _ => ?_⟩
  have same : trimChars path.toList = path.toList := trimChars_eq_iff.2 ⟨trimmed, .refl _⟩
  rw [List.cons_append, List.append_assoc, List.singleton_append, lexToken, if_pos ⟨rfl, rfl⟩,
    List.tail_cons, lexReference, readUntil?_brace closed]
  simp only [same, String.ofList_toList]

/-- An operator is read as the longest one, which a space ends. -/
theorem lexed_operator {mark : String} (form : t.mark? = some mark) : Lexed t mark.toList := by
  cases t <;> cases form <;> refine ⟨_, _, rfl, rfl, fun position rest apart => ?_⟩ <;>
    rcases apart with rfl | ⟨more, rfl⟩ <;> rfl

theorem Token.Written.lexed (h : t.Written lexeme) : Lexed t lexeme.toList := by
  cases h with
  | number form reading => exact lexed_number form reading
  | str mark text => exact lexed_str mark text
  | ident form => exact lexed_ident form
  | reference trimmed closed => exact lexed_reference trimmed closed
  | operator form => exact lexed_operator form

end Lexed

/-! ## Lexemes in a row -/

variable {tokens : List Token} {lexemes : List String}

theorem lexAll_lexed {t : Token} {cs rest : List Char} (h : Lexed t cs) (apart : Apart rest)
    (total fuel : Nat) :
    lexAll total (fuel + 1) (cs ++ rest) = (lexAll total fuel rest).map (t :: ·) := by
  obtain ⟨c, more, rfl, noBlank, read⟩ := h
  rw [List.cons_append, lexAll, if_neg (by simp [noBlank]), read _ rest apart]

theorem lexAll_refused {total fuel : Nat} {c : Char} {cs : List Char} {p : Problem}
    (noBlank : isBlank c = false) (h : lexToken (total - (cs.length + 1)) c cs = .error p) :
    lexAll total (fuel + 1) (c :: cs) = .error p := by
  rw [lexAll, if_neg (by simp [noBlank]), h]

/-- Every lexeme takes one step, and so does every space between two of them. -/
theorem lexAll_written (h : List.Forall₂ Token.Written tokens lexemes) (total : Nat) {fuel : Nat}
    (enough : ([' '].intercalate (lexemes.map String.toList)).length ≤ fuel) :
    lexAll total fuel ([' '].intercalate (lexemes.map String.toList)) = .ok tokens := by
  induction h generalizing fuel with
  | nil => cases fuel <;> rfl
  | @cons t lexeme tokens lexemes head tail ih =>
    have step : 1 ≤ lexeme.toList.length := by
      obtain ⟨c, more, shape, -, -⟩ := head.lexed
      rw [shape]
      exact Nat.le_add_left 1 more.length
    cases tail with
    | nil =>
      rw [List.map_singleton, List.intercalate_singleton] at enough ⊢
      obtain ⟨spare, rfl⟩ := Nat.exists_eq_add_of_le' (step.trans enough)
      have read := lexAll_lexed head.lexed (.inl rfl) total spare
      rw [List.append_nil] at read
      rw [read]
      cases spare <;> rfl
    | @cons u next tokens lexemes second tail =>
      rw [List.map_cons, List.map_cons, List.intercalate_cons_cons, List.append_assoc,
        List.singleton_append, List.length_append, List.length_cons] at enough
      rw [List.map_cons, List.map_cons, List.intercalate_cons_cons, List.append_assoc,
        List.singleton_append]
      obtain ⟨spare, rfl⟩ : ∃ spare, fuel = spare + 2 := Nat.exists_eq_add_of_le' (by omega)
      have fits : ([' '].intercalate ((next :: lexemes).map String.toList)).length ≤ spare := by
        rw [List.map_cons]
        omega
      rw [lexAll_lexed head.lexed (.inr ⟨_, rfl⟩), lexAll_blank, ← List.map_cons, ih fits]
      rfl

/-- The lexemes of tokens, one space apart, are split into the tokens again, whatever stands in
texts, names and references. Every number is the value of its lexeme, and each lexeme of a number
has one. -/
theorem tokenize_written :
    (∀ tokens lexemes, List.Forall₂ Token.Written tokens lexemes →
      tokenize (" ".intercalate lexemes) = .ok tokens) ∧
    ∀ lexeme : String, IsNumber lexeme.toList →
      ∃ value, Token.Written (.number value) lexeme := by
  refine ⟨fun tokens lexemes written => ?_, fun lexeme form => ?_⟩
  · rw [tokenize, String.toList_intercalate]
    exact lexAll_written written _ le_rfl
  · obtain ⟨value, reading⟩ := exists_readFloat? form
    exact ⟨value, .number form reading⟩

/-- A reference with quotes in it, a name that is a dollar sign, a text with an escaped quote and
backslash, and a number with all its parts. -/
theorem tokenize_written_mixed :
    ∃ value, Decimal.readFloat? "1.5e-3".toList = some value ∧
      tokenize "$\x7bit's \"a\x7d === $ && 'it\\'s \\\\n' || - 1.5e-3 . é1" =
        .ok [.reference "it's \"a", .strictEq, .ident "$", .and, .str "it's \\n", .or, .minus,
          .number value, .dot, .ident "é1"] := by
  have form : IsNumber "1.5e-3".toList := by
    show IsNumber (['1'] ++ (['.', '5'] ++ ['e', '-', '3']))
    refine .parts ⟨nofun, List.all_eq_true.1 rfl⟩ (.digits ⟨nofun, List.all_eq_true.1 rfl⟩) ?_
    exact .signed (.inl rfl) (.inr rfl) ⟨nofun, List.all_eq_true.1 rfl⟩
  obtain ⟨value, written⟩ := tokenize_written.2 "1.5e-3" form
  have reading : Decimal.readFloat? "1.5e-3".toList = some value := by
    generalize "1.5e-3" = lexeme at written
    cases written with
    | number _ reading => exact reading
    | operator form => cases form
  have trimmed : Trimmed ('i' :: ("t's \"".toList ++ ['a'])) := trimmed_of_ends rfl rfl
  refine ⟨value, reading, tokenize_written.1 _ ["$\x7bit's \"a\x7d", "===", "$", "&&",
    "'it\\'s \\\\n'", "||", "-", "1.5e-3", ".", "é1"] ?_⟩
  refine .cons (.reference trimmed (by decide)) (.cons (.operator rfl) (.cons (.ident ?_) ?_))
  · exact .cons rfl (fun _ h => nomatch h)
  refine .cons (.operator rfl) (.cons (.str (.inl rfl) "it's \\n") (.cons (.operator rfl) ?_))
  refine .cons (.operator rfl) (.cons written (.cons (.operator rfl) (.cons (.ident ?_) .nil)))
  exact .cons (by decide +kernel) (List.all_eq_true.1 rfl)

/-- A numeral that is no letter may go on a name but not begin one. -/
theorem tokenize_fraction_name :
    "½x".toList.all isNamePart = true ∧ isAsciiDigit '½' = false ∧
      tokenize "½x" = .error (.unexpectedCharacter '½' 0) := by
  have noStart : isNameStart '½' = false := by decide +kernel
  have refused : lexToken 0 '½' ['x'] = .error (.unexpectedCharacter '½' 0) := by
    rw [lexToken, if_neg (by decide), if_neg (by decide), if_neg (by decide), if_neg (by decide),
      noStart]
    rfl
  exact ⟨by decide +kernel, rfl, lexAll_refused rfl refused⟩

end PageHarvest.Expr
