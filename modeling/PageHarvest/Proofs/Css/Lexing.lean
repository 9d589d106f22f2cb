import PageHarvest.Css.Token
import PageHarvest.Proofs.Text.Printable

/-!
# Texts and their tokens

`Lexes cs ts`: the text `cs` falls into the tokens `ts`. Where a token ends depends on what follows,
so each lemma puts one token in front of a text that has its tokens already, and asks of that text
only what could lengthen the token.
-/

namespace PageHarvest.Css.Token

open Text

variable {c : Char} {cs rest : List Char} {t : Token} {ts : List Token}

/-! ## Lengths -/

theorem length_readName_le (cs : List Char) : (readName cs).2.length ≤ cs.length := by
  fun_induction readName cs with
  | case1 => simp
  | case2 c rest hc r ih => simp only [List.length_cons]; exact Nat.le_succ_of_le ih
  | case3 c rest hc he e le r ih =>
    have whole : r.2.length ≤ rest.length := Nat.le_trans ih le
    exact Nat.le_succ_of_le whole
  | case4 c rest hc he => simp

theorem length_readString_le (q : Char) (cs : List Char) :
    (readString q cs).2.length ≤ cs.length := by
  fun_induction readString q cs
  case case1 => simp
  case case2 => simp
  case case3 => simp only [List.length_cons]; omega
  case case4 => simp only [List.length_cons]; omega
  case case5 rest _ _ e le r ih =>
    have whole : r.2.length ≤ rest.length + 1 := Nat.le_trans ih le
    exact Nat.le_succ_of_le whole
  case case6 => simp
  case case7 => simp
  case case8 rest _ _ _ _ _ r ih => exact Nat.le_succ_of_le ih

/-- Where an identifier starts, its name takes a character. -/
theorem length_readName_cons (h : startsIdent (c :: cs) = true) :
    (readName (c :: cs)).2.length ≤ cs.length := by
  have name := length_readName_le cs
  rw [readName]
  by_cases hc : isNameChar c = true
  · rw [if_pos hc]
    exact name
  · have escape : startsEscape (c :: cs) = true := by
      have dash : c ≠ '-' := by
        rintro rfl
        exact hc (by decide)
      have start : isNameStart c = false := by
        unfold isNameChar at hc
        simp_all
      unfold startsIdent at h
      split at h <;> simp_all
    rw [if_neg hc, if_pos escape]
    exact Nat.le_trans (length_readName_le _) (length_readEscape_le cs)

theorem length_dropExponent_le (cs : List Char) : (dropExponent cs).2.length ≤ cs.length := by
  unfold dropExponent
  have drop := fun l : List Char => (List.dropWhile_suffix isAsciiDigit (l := l)).length_le
  split
  · rename_i e s d rest
    have h1 := drop (s :: d :: rest)
    have h2 := drop (d :: rest)
    simp only [List.length_cons] at h1 h2
    split
    · split
      · simp only [List.length_cons]; omega
      · split
        · simp only [List.length_cons]; omega
        · exact Nat.le_refl _
    · exact Nat.le_refl _
  · split <;> simp
  · exact Nat.le_refl _

theorem length_dropFraction_le (cs : List Char) : (dropFraction cs).2.length ≤ cs.length := by
  unfold dropFraction
  split
  · rename_i d rest
    split
    · have drop := (List.dropWhile_suffix isAsciiDigit (l := d :: rest)).length_le
      exact Nat.le_succ_of_le drop
    · exact Nat.le_refl _
  · exact Nat.le_refl _

/-- Where a number starts, its sign and digits take a character. -/
theorem length_fraction_cons (h : startsNumber (c :: cs) = true) :
    (dropFraction ((readSign (c :: cs)).2.2.dropWhile isAsciiDigit)).2.length ≤ cs.length := by
  have fraction := length_dropFraction_le
  have drop := fun l : List Char => (List.dropWhile_suffix isAsciiDigit (l := l)).length_le
  unfold readSign
  split
  · rename_i rest heq
    cases heq
    exact Nat.le_trans (fraction _) (drop _)
  · rename_i rest heq
    cases heq
    exact Nat.le_trans (fraction _) (drop _)
  · rename_i minus plus
    by_cases digit : isAsciiDigit c = true
    · rw [List.dropWhile_cons, if_pos digit]
      exact Nat.le_trans (fraction _) (drop _)
    · rw [List.dropWhile_cons, if_neg digit]
      -- only a point in front of a digit is left
      have point : ∃ d rest, c = '.' ∧ cs = d :: rest ∧ isAsciiDigit d = true := by
        unfold startsNumber at h
        split at h <;> simp_all
      obtain ⟨d, rest, rfl, rfl, hd⟩ := point
      rw [dropFraction, if_pos hd]
      exact drop _

theorem length_readNumber_cons (h : startsNumber (c :: cs) = true) :
    (readNumber (c :: cs)).2.length ≤ cs.length := by
  have rest := Nat.le_trans (length_dropExponent_le _) (length_fraction_cons h)
  simp only [readNumber]
  split
  · rename_i heq
    rw [heq] at rest
    exact Nat.le_of_succ_le rest
  · split
    · exact Nat.le_trans (length_readName_le _) rest
    · exact rest

theorem length_string_le (q : Char) (cs : List Char) :
    (match readString q cs with
      | (some text, rest) => (Token.string (String.ofList text), rest)
      | (none, rest) => (Token.badString, rest)).2.length ≤ cs.length := by
  have whole := length_readString_le q cs
  split
  all_goals
    rename_i heq
    rw [heq] at whole
    exact whole

/-- A token takes at least the character that it starts with. -/
theorem length_next_le (c : Char) (cs : List Char) : (next c cs).2.length ≤ cs.length := by
  rw [next.eq_def]
  split
  · exact length_readNumber_cons ‹_›
  split
  · simp
  split
  · rename_i h
    have name := length_readName_cons h
    unfold readIdentLike
    split
    · rename_i heq
      rw [heq] at name
      exact Nat.le_of_succ_le name
    · rename_i heq
      rw [heq] at name
      exact name
  split
  case h_1 => exact length_string_le _ cs
  case h_2 => exact length_string_le _ cs
  case h_3 =>
    split
    · exact length_readName_le cs
    · split
      · exact length_readName_le cs
      · exact Nat.le_refl _
  case h_19 =>
    split
    · exact length_readName_le cs
    · exact Nat.le_refl _
  all_goals simp only [List.length_cons]; omega

theorem length_dropComment_le (cs : List Char) : (dropComment cs).length ≤ cs.length := by
  fun_induction dropComment cs
  case case1 => simp only [List.length_cons]; omega
  case case2 ih => exact Nat.le_succ_of_le ih
  case case3 => exact Nat.le_refl _

/-! ## Tokens in front of a text -/

def Lexes (cs : List Char) (ts : List Token) : Prop :=
  ∀ fuel, cs.length ≤ fuel → readAll fuel cs = ts

theorem isSpace_of_printable (h : Printable c) : isSpace c = false := by
  refine Bool.eq_false_iff.2 fun space => ?_
  unfold isSpace at space
  simp only [Bool.or_eq_true, decide_eq_true_eq] at space
  rcases space with (((rfl | rfl) | rfl) | rfl) | rfl <;> exact absurd h.1 (by decide)

theorem lexes_nil : Lexes [] [] := by
  intro fuel _
  cases fuel <;> rfl

theorem Lexes.tokenize {s : String} (h : Lexes s.toList ts) : tokenize s = ts :=
  h _ (Nat.le_refl _)

/-- One token in front. -/
theorem Lexes.token (h : Lexes rest ts) (hs : isSpace c = false)
    (hc : ∀ more, c = '/' → cs = '*' :: more → False) (hn : next c cs = (t, rest)) :
    Lexes (c :: cs) (t :: ts) := by
  have shorter : rest.length ≤ cs.length := by
    have taken := length_next_le c cs
    rwa [hn] at taken
  intro fuel hf
  cases fuel with
  | zero => simp at hf
  | succ fuel =>
    simp only [List.length_cons] at hf
    rw [readAll.eq_def]
    simp only [hs, Bool.false_eq_true, if_false]
    rw [hn, h fuel (by omega)]

/-- A run of blanks in front. -/
theorem Lexes.blank (h : Lexes (rest.dropWhile isSpace) ts) (hs : isSpace c = true) :
    Lexes (c :: rest) (.space :: ts) := by
  have shorter := (List.dropWhile_suffix isSpace (l := rest)).length_le
  intro fuel hf
  cases fuel with
  | zero => simp at hf
  | succ fuel =>
    simp only [List.length_cons] at hf
    rw [readAll.eq_def]
    simp only [hs, if_true]
    rw [h fuel (by omega)]

/-- A comment in front. -/
theorem Lexes.comment (h : Lexes (dropComment rest) ts) : Lexes ('/' :: '*' :: rest) ts := by
  have shorter := length_dropComment_le rest
  intro fuel hf
  cases fuel with
  | zero => simp at hf
  | succ fuel =>
    simp only [List.length_cons] at hf
    exact h fuel (by omega)

/-- Every text falls into tokens. -/
theorem exists_lexes (cs : List Char) : ∃ ts, Lexes cs ts := by
  induction hn : cs.length using Nat.strongRecOn generalizing cs with
  | ind n ih =>
    subst hn
    cases cs with
    | nil => exact ⟨[], lexes_nil⟩
    | cons c cs =>
      by_cases hs : isSpace c = true
      · have shorter := (List.dropWhile_suffix isSpace (l := cs)).length_le
        obtain ⟨ts, h⟩ := ih _ (Nat.lt_succ_of_le shorter) _ rfl
        exact ⟨_, h.blank hs⟩
      · by_cases hc : ∃ more, c = '/' ∧ cs = '*' :: more
        · obtain ⟨more, rfl, rfl⟩ := hc
          have shorter := length_dropComment_le more
          obtain ⟨ts, h⟩ := ih _ (Nat.lt_succ_of_le (Nat.le_succ_of_le shorter)) _ rfl
          exact ⟨ts, h.comment⟩
        · obtain ⟨ts, h⟩ := ih _ (Nat.lt_succ_of_le (length_next_le c cs)) _ rfl
          refine ⟨_, h.token (by simpa using hs) ?_ rfl⟩
          exact fun more e1 e2 => hc ⟨more, e1, e2⟩

/-- One blank in front of something else. -/
theorem Lexes.space (h : Lexes rest ts) (hr : ∀ c ∈ rest.head?, isSpace c = false) :
    Lexes (' ' :: rest) (.space :: ts) := by
  have kept : rest.dropWhile isSpace = rest := by
    cases rest with
    | nil => rfl
    | cons c rest => simp [hr c rfl]
  exact Lexes.blank (by rwa [kept]) rfl

/-! ## Marks -/

theorem startsNumber_eq_false (hd : isAsciiDigit c = false) (h1 : c ≠ '.') (h2 : c ≠ '+')
    (h3 : c ≠ '-') (cs : List Char) : startsNumber (c :: cs) = false := by
  unfold startsNumber
  split <;> simp_all

theorem startsNumber_digit (hd : isAsciiDigit c = true) (cs : List Char) :
    startsNumber (c :: cs) = true := by
  rw [startsNumber.eq_def]
  split
  · rename_i h
    obtain ⟨rfl, _⟩ := List.cons.inj h
    exact absurd hd (by decide)
  all_goals
    rename_i h
    cases h
    try simp [hd]

theorem startsNumber_dash (hc : c ≠ '.') (cs : List Char) :
    startsNumber ('-' :: c :: cs) = isAsciiDigit c := by
  have dash : isAsciiDigit '-' = false := rfl
  rw [startsNumber.eq_def]
  split <;> rename_i h <;> cases h <;> simp_all

theorem startsEscape_eq_false (hb : c ≠ '\\') (cs : List Char) :
    startsEscape (c :: cs) = false := by
  unfold startsEscape
  split <;> simp_all

theorem startsIdent_eq_false (hn : isNameStart c = false) (h1 : c ≠ '-') (h2 : c ≠ '\\')
    (cs : List Char) : startsIdent (c :: cs) = false := by
  have noEscape := startsEscape_eq_false h2 cs
  unfold startsIdent
  split <;> simp_all

/-- A dash starts an identifier if something follows that does, or a second dash. -/
theorem startsIdent_dash (hb : c ≠ '\\') (cs : List Char) :
    startsIdent ('-' :: c :: cs) = (isNameStart c || c == '-') := by
  have noEscape := startsEscape_eq_false hb cs
  rw [startsIdent.eq_def]
  split <;> rename_i h <;> cases h <;> simp_all

/-- The marks that are a token each, whatever follows. -/
def mark? : Char → Option Token
  | ':' => some .colon
  | '[' => some .lBracket
  | ']' => some .rBracket
  | ')' => some .rParen
  | '=' => some (.delim '=')
  | '>' => some (.delim '>')
  | _ => none

theorem next_mark (h : mark? c = some t) (cs : List Char) : next c cs = (t, cs) := by
  unfold mark? at h
  split at h
  case h_7 => cases h
  all_goals
    cases h
    rw [next.eq_def, startsNumber_eq_false (by decide) (by decide) (by decide) (by decide),
      startsIdent_eq_false (by decide) (by decide) (by decide)]
    rfl

theorem Lexes.mark (h : Lexes rest ts) (hm : mark? c = some t) : Lexes (c :: rest) (t :: ts) := by
  have apart : isSpace c = false ∧ c ≠ '/' := by
    unfold mark? at hm
    split at hm
    case h_7 => cases hm
    all_goals exact ⟨by decide, by decide⟩
  exact h.token apart.1 (fun _ e => absurd e apart.2) (next_mark hm rest)

theorem Lexes.star (h : Lexes rest ts) (hr : ∀ c ∈ rest.head?, c ≠ '=') :
    Lexes ('*' :: rest) (.delim '*' :: ts) := by
  refine h.token (by decide) (fun _ e => absurd e (by decide)) ?_
  rw [next.eq_def, startsNumber_eq_false (by decide) (by decide) (by decide) (by decide),
    startsIdent_eq_false (by decide) (by decide) (by decide)]
  cases rest with
  | nil => rfl
  | cons c rest =>
    have hc := hr c rfl
    simp [hc]

theorem Lexes.containMatch (h : Lexes rest ts) :
    Lexes ('*' :: '=' :: rest) (.containMatch :: ts) := by
  refine h.token (by decide) (fun _ e => absurd e (by decide)) ?_
  rw [next.eq_def, startsNumber_eq_false (by decide) (by decide) (by decide) (by decide),
    startsIdent_eq_false (by decide) (by decide) (by decide)]
  rfl

/-! ## Names -/

section Names

variable {n : List Char}

/-- A character that may stand in a name without an escape. -/
def IsNamePart (c : Char) : Prop :=
  isAsciiLetter c = true ∨ isAsciiDigit c = true ∨ c = '-' ∨ c = '_'

instance : DecidablePred IsNamePart := fun c =>
  inferInstanceAs (Decidable (isAsciiLetter c = true ∨ isAsciiDigit c = true ∨ c = '-' ∨ c = '_'))

/-- A name of ASCII characters that is written without escapes. -/
def IsIdent (n : List Char) : Prop :=
  ∃ c cs, n = c :: cs ∧ (isAsciiLetter c = true ∨ c = '_') ∧ ∀ x ∈ cs, IsNamePart x

theorem isIdent_of_all {n cs : List Char} {c : Char} (hn : n = c :: cs)
    (hc : isAsciiLetter c = true) (h : cs.all (fun x => IsNamePart x) = true) : IsIdent n :=
  ⟨c, cs, hn, .inl hc, fun x hx => of_decide_eq_true (List.all_eq_true.1 h x hx)⟩

theorem IsNamePart.isNameChar (h : IsNamePart c) : isNameChar c = true := by
  unfold Token.isNameChar isNameStart
  rcases h with h | h | rfl | rfl <;> simp_all

theorem IsNamePart.keep (h : IsNamePart c) : keep c = c := by
  have positive : c.toNat ≠ 0 := by
    rcases h with h | h | rfl | rfl
    · have := toNat_of_isAsciiLetter h
      omega
    · have := toNat_of_isAsciiDigit h
      omega
    · decide
    · decide
  rw [Token.keep, if_neg positive]

/-- Nothing that could go on with a name. -/
def EndsName (cs : List Char) : Prop := ∀ c ∈ cs.head?, isNameChar c = false ∧ c ≠ '\\'

theorem readName_stop (h : EndsName rest) : readName rest = ([], rest) := by
  cases rest with
  | nil => rw [readName]
  | cons c rest =>
    obtain ⟨hn, hb⟩ := h c rfl
    rw [readName, hn, startsEscape_eq_false hb]
    simp

theorem readName_append (hn : ∀ c ∈ n, IsNamePart c) (h : EndsName rest) :
    readName (n ++ rest) = (n, rest) := by
  induction n with
  | nil => exact readName_stop h
  | cons c n ih =>
    have hc := hn c List.mem_cons_self
    rw [List.cons_append, readName, hc.isNameChar, ih fun x hx => hn x (List.mem_cons_of_mem _ hx)]
    simp [hc.keep]

theorem IsIdent.parts (h : IsIdent n) : ∀ c ∈ n, IsNamePart c := by
  obtain ⟨c, cs, rfl, hc, hcs⟩ := h
  intro x hx
  rcases List.mem_cons.1 hx with rfl | hx
  · exact hc.imp_right fun e => .inr (.inr e)
  · exact hcs x hx

theorem IsIdent.ne_nil (h : IsIdent n) : n ≠ [] := by
  obtain ⟨c, cs, rfl, _⟩ := h
  exact List.cons_ne_nil c cs

/-- How an identifier starts. -/
theorem IsIdent.head (h : IsIdent n) : ∃ c cs, n = c :: cs ∧ isNameStart c = true ∧
    isAsciiDigit c = false ∧ isSpace c = false ∧ c ≠ '-' ∧ c ≠ '.' ∧ c ≠ '+' ∧ c ≠ '/' := by
  obtain ⟨c, cs, rfl, hc, _⟩ := h
  refine ⟨c, cs, rfl, ?_⟩
  rcases hc with hc | rfl
  · have start : isNameStart c = true := by simp [isNameStart, hc]
    have noSpace := isSpace_of_printable (printable_of_isAsciiLetter hc)
    exact ⟨start, isAsciiDigit_of_isAsciiLetter hc, noSpace, ne_of_test hc rfl, ne_of_test hc rfl,
      ne_of_test hc rfl, ne_of_test hc rfl⟩
  · decide

/-- A name that may stand in a selector as it is: an identifier, or one with a dash in front. -/
inductive IsName : List Char → Prop
  | ident {n : List Char} : IsIdent n → IsName n
  | dashed {c : Char} {cs : List Char} : isAsciiLetter c = true ∨ c = '_' ∨ c = '-' →
      (∀ x ∈ cs, IsNamePart x) → IsName ('-' :: c :: cs)

theorem IsName.parts (h : IsName n) : ∀ c ∈ n, IsNamePart c := by
  cases h with
  | ident h => exact h.parts
  | dashed first rest =>
    refine List.forall_mem_cons.2 ⟨.inr (.inr (.inl rfl)), List.forall_mem_cons.2 ⟨?_, rest⟩⟩
    rcases first with letter | rfl | rfl
    · exact .inl letter
    · exact .inr (.inr (.inr rfl))
    · exact .inr (.inr (.inl rfl))

theorem IsNamePart.printable (h : IsNamePart c) : Printable c := by
  rcases h with h | h | rfl | rfl
  · exact printable_of_isAsciiLetter h
  · exact printable_of_isAsciiDigit h
  · exact ⟨by decide, by decide⟩
  · exact ⟨by decide, by decide⟩

/-- A name is read as an identifier, unless the end mark of a markup comment stands there. -/
theorem IsName.next (hn : IsName n) {rest : List Char} (hr : ∀ c ∈ rest.head?, c ≠ '>') :
    ∃ c cs, n = c :: cs ∧ isSpace c = false ∧ c ≠ '/' ∧
      Token.next c (cs ++ rest) = readIdentLike (n ++ rest) := by
  cases hn with
  | ident hn =>
    obtain ⟨c, cs, rfl, hs, hd, hb, h1, h2, h3, h4⟩ := hn.head
    have starts : startsIdent (c :: (cs ++ rest)) = true := by
      unfold startsIdent
      split <;> simp_all
    refine ⟨c, cs, rfl, hb, h4, ?_⟩
    rw [Token.next.eq_def, startsNumber_eq_false hd h2 h3 h1, starts]
    simp [h1]
  | @dashed c cs first parts =>
    have apart : isAsciiDigit c = false ∧ c ≠ '.' ∧ c ≠ '\\' := by
      rcases first with letter | rfl | rfl
      · exact ⟨isAsciiDigit_of_isAsciiLetter letter, ne_of_test letter rfl, ne_of_test letter rfl⟩
      · decide
      · decide
    have noNumber : startsNumber ('-' :: c :: (cs ++ rest)) = false := by
      rw [startsNumber_dash apart.2.1, apart.1]
    have noMark : ((c :: (cs ++ rest)).take 2 == ['-', '>']) = false := by
      cases cs with
      | cons x cs =>
        have other : x ≠ '>' := by
          rintro rfl
          exact absurd (parts _ List.mem_cons_self) (by decide)
        simp [other]
      | nil =>
        cases rest with
        | nil => simp
        | cons x rest => simp [hr x rfl]
    have starts : startsIdent ('-' :: c :: (cs ++ rest)) = true := by
      rw [startsIdent_dash apart.2.2]
      rcases first with letter | rfl | rfl
      · simp [isNameStart, letter]
      · rfl
      · rfl
    refine ⟨'-', c :: cs, rfl, by decide, by decide, ?_⟩
    rw [Token.next.eq_def, List.cons_append, noNumber, noMark, starts]
    simp

theorem Lexes.ident (h : Lexes rest ts) (hn : IsName n) (hr : EndsName rest)
    (hp : ∀ c ∈ rest.head?, c ≠ '(' ∧ c ≠ '>') :
    Lexes (n ++ rest) (.ident (String.ofList n) :: ts) := by
  obtain ⟨c, cs, hc, hs, hslash, read⟩ := hn.next fun c hc => (hp c hc).2
  have like : readIdentLike (n ++ rest) = (.ident (String.ofList n), rest) := by
    rw [readIdentLike, readName_append hn.parts hr]
    cases rest with
    | nil => rfl
    | cons x rest =>
      have hx := (hp x rfl).1
      split
      · rename_i heq
        exact absurd (List.cons.inj (Prod.mk.inj heq).2).1 hx
      · rename_i heq
        obtain ⟨rfl, rfl⟩ := Prod.mk.inj heq
        rfl
  rw [like] at read
  subst hc
  exact h.token hs (fun _ e => absurd e hslash) read

theorem Lexes.function (h : Lexes rest ts) (hn : IsName n) :
    Lexes (n ++ '(' :: rest) (.function (String.ofList n) :: ts) := by
  have mark : ∀ c ∈ ('(' :: rest).head?, c = '(' := fun c hc => (Option.some.inj hc).symm
  have noMarkup : ∀ c ∈ ('(' :: rest).head?, c ≠ '>' := by
    intro c hc
    rw [mark c hc]
    decide
  obtain ⟨c, cs, hc, hs, hslash, read⟩ := hn.next noMarkup
  have ends : EndsName ('(' :: rest) := by
    intro x hx
    rw [mark x hx]
    exact ⟨by decide, by decide⟩
  have like : readIdentLike (n ++ '(' :: rest) = (.function (String.ofList n), rest) := by
    rw [readIdentLike, readName_append hn.parts ends]
    rfl
  rw [like] at read
  subst hc
  exact h.token hs (fun _ e => absurd e hslash) read

/-! ## Texts of name characters that are no names -/

/-- The tokens that such a text begins with: a number, or a dash alone. -/
def isNoName : Token → Bool
  | .number _ _ | .percentage | .dimension _ _ _ => true
  | .delim c => c = '-'
  | _ => false

theorem isNoName_readNumber (cs : List Char) : (readNumber cs).1.isNoName = true := by
  unfold readNumber
  dsimp only
  split
  · rfl
  · split <;> rfl

/-- How a text of name characters begins that is no name. -/
theorem digit_of_not_isName (parts : ∀ c ∈ n, IsNamePart c) (some : n ≠ []) (bad : ¬ IsName n) :
    ∃ c cs, n = c :: cs ∧ (isAsciiDigit c = true ∨
      c = '-' ∧ (cs = [] ∨ ∃ d ds, cs = d :: ds ∧ isAsciiDigit d = true)) := by
  match n, some with
  | c :: cs, _ =>
    obtain ⟨first, rest⟩ := List.forall_mem_cons.1 parts
    refine ⟨c, cs, rfl, ?_⟩
    rcases first with letter | digit | rfl | rfl
    · exact absurd (.ident ⟨c, cs, rfl, .inl letter, rest⟩) bad
    · exact .inl digit
    · refine .inr ⟨rfl, ?_⟩
      match cs with
      | [] => exact .inl rfl
      | d :: ds =>
        obtain ⟨second, others⟩ := List.forall_mem_cons.1 rest
        rcases second with letter | digit | dash | mark
        · exact absurd (.dashed (.inl letter) others) bad
        · exact .inr ⟨d, ds, rfl, digit⟩
        · exact absurd (.dashed (.inr (.inr dash)) others) bad
        · exact absurd (.dashed (.inr (.inl mark)) others) bad
    · exact absurd (.ident ⟨'_', cs, rfl, .inr rfl, rest⟩) bad

theorem next_dash (hr : EndsName rest) (hd : ∀ c ∈ rest.head?, c ≠ '.') :
    Token.next '-' rest = (.delim '-', rest) := by
  cases rest with
  | nil => decide
  | cons c rest =>
    obtain ⟨noName, noEscape⟩ := hr c rfl
    have apart : isNameStart c = false ∧ isAsciiDigit c = false ∧ c ≠ '-' := by
      simpa [Token.isNameChar, and_assoc] using noName
    have noNumber : startsNumber ('-' :: c :: rest) = false := by
      rw [startsNumber_dash (hd c rfl), apart.2.1]
    have noIdent : startsIdent ('-' :: c :: rest) = false := by
      rw [startsIdent_dash noEscape, apart.1]
      simpa using apart.2.2
    have noMark : ((c :: rest).take 2 == ['-', '>']) = false := by
      cases rest <;> simp [apart.2.2]
    rw [Token.next.eq_def, noNumber, noIdent, noMark]
    rfl

theorem exists_lexes_noName (parts : ∀ c ∈ n, IsNamePart c) (some : n ≠ []) (bad : ¬ IsName n)
    (hr : EndsName rest) (hd : ∀ c ∈ rest.head?, c ≠ '.') :
    ∃ t ts, Lexes (n ++ rest) (t :: ts) ∧ t.isNoName = true := by
  obtain ⟨c, cs, rfl, start⟩ := digit_of_not_isName parts some bad
  obtain ⟨ts, h⟩ := exists_lexes (Token.next c (cs ++ rest)).2
  have noSlash : c ≠ '/' := by
    rintro rfl
    exact absurd (parts '/' List.mem_cons_self) (by decide)
  refine ⟨(Token.next c (cs ++ rest)).1, ts, h.token
    (isSpace_of_printable (parts c List.mem_cons_self).printable) (fun _ e => absurd e noSlash) rfl,
    ?_⟩
  have number (starts : startsNumber (c :: (cs ++ rest)) = true) :
      (Token.next c (cs ++ rest)).1.isNoName = true := by
    rw [Token.next.eq_def, starts]
    exact isNoName_readNumber _
  rcases start with digit | ⟨rfl, rfl | ⟨d, ds, rfl, digit⟩⟩
  · exact number (startsNumber_digit digit _)
  · rw [List.nil_append, next_dash hr hd]
    rfl
  · refine number ?_
    rw [List.cons_append, startsNumber_dash (ne_of_test digit rfl), digit]

end Names

/-! ## Numbers -/

theorem natOf_toDigits (n : Nat) : natOf (Nat.toDigits 10 n) = n := by
  have read := Nat.ofDigitChars_ten_toDigits (n := n)
  rwa [Nat.ofDigitChars_eq_foldl] at read

theorem readNumber_toDigits (n : Nat) (rest : List Char) :
    readNumber (Nat.toDigits 10 n ++ ')' :: rest) =
      (.number false (some (clamp n)), ')' :: rest) := by
  have taken : (Nat.toDigits 10 n ++ ')' :: rest).takeWhile isAsciiDigit = Nat.toDigits 10 n := by
    rw [List.takeWhile_append_of_pos fun _ => isAsciiDigit_of_mem_toDigits]
    simp [isAsciiDigit]
  have dropped : (Nat.toDigits 10 n ++ ')' :: rest).dropWhile isAsciiDigit = ')' :: rest := by
    rw [List.dropWhile_append_of_pos fun _ => isAsciiDigit_of_mem_toDigits]
    simp [isAsciiDigit]
  obtain ⟨d, ds, hd⟩ := List.exists_cons_of_ne_nil (Nat.toDigits_ne_nil (n := n) (b := 10))
  have digit : isAsciiDigit d = true := isAsciiDigit_of_mem_toDigits (n := n) (by simp [hd])
  have unsigned : readSign (d :: (ds ++ ')' :: rest)) =
      (false, false, d :: (ds ++ ')' :: rest)) := by
    unfold readSign
    split
    · exact absurd digit (by simp_all [isAsciiDigit])
    · exact absurd digit (by simp_all [isAsciiDigit])
    · rfl
  have noExponent : dropExponent (')' :: rest) = (false, ')' :: rest) := by
    rcases rest with _ | ⟨s, _ | ⟨d, rest⟩⟩
    · rfl
    · simp [dropExponent]
    · simp [dropExponent]
  have noFraction : dropFraction (')' :: rest) = (false, ')' :: rest) := rfl
  have noUnit : startsIdent (')' :: rest) = false :=
    startsIdent_eq_false (by decide) (by decide) (by decide) rest
  rw [hd, List.cons_append] at taken dropped ⊢
  rw [readNumber, unsigned]
  simp only [taken, dropped, noFraction, noExponent, ← hd]
  simp [noUnit, natOf_toDigits]

theorem Lexes.number (n : Nat) (h : Lexes (')' :: rest) ts) :
    Lexes (Nat.toDigits 10 n ++ ')' :: rest) (.number false (some (clamp n)) :: ts) := by
  have read := readNumber_toDigits n rest
  obtain ⟨d, ds, hd⟩ := List.exists_cons_of_ne_nil (Nat.toDigits_ne_nil (n := n) (b := 10))
  have digit : isAsciiDigit d = true := isAsciiDigit_of_mem_toDigits (n := n) (by simp [hd])
  rw [hd, List.cons_append] at read ⊢
  have point : d ≠ '.' := ne_of_test digit rfl
  have starts : startsNumber (d :: (ds ++ ')' :: rest)) = true := by
    unfold startsNumber
    split <;> simp_all
  have noSpace := isSpace_of_printable (printable_of_isAsciiDigit digit)
  refine h.token noSpace (fun _ e => absurd e (ne_of_test digit rfl)) ?_
  rw [next.eq_def, starts, read]
  rfl

end PageHarvest.Css.Token
