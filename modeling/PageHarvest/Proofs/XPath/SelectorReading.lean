import Mathlib.Data.List.Basic
import PageHarvest.Proofs.XPath.SelectorTokens

/-!
# What a path's selector is read as

A step is read as the compound `Step.parts`, a path as the complex selector `Path.complex`. Each
reader is followed over the tokens of one term or step, for any fuel, and then over all of them with
as much fuel as there are tokens.

* `Path.IsReadable.read?_toCss`: the selector of a path that is readable;
* `Path.read?_toCss`: that of a path of identifiers, whose values strings keep.
-/

namespace PageHarvest.XPath

open Text Css

namespace Step

def nameParts (s : Step) : List Simple := if s.name = "*" then [] else [.type s.name]

/-- The conditions that a step is read as. -/
def parts (s : Step) (root : Bool) : List Simple :=
  s.nameParts ++ ((if root then [.root] else []) ++ s.terms.map (Term.simple s.name))

end Step

def Axis.combinator : Axis → Combinator
  | child => .child
  | descendant => .descendant

/-- The relation to the step in front. -/
def joinStep (left : Css.Complex) (s : Axis × Step) : Css.Complex :=
  .join left s.1.combinator (s.2.parts false)

def Path.complex (p : Path) : Css.Complex :=
  p.rest.foldl joinStep (.compound (p.first.parts (p.anchor = .top)))

section Terms

variable {t : Term} {us : List Term} {e : String} {ts : List Token}

theorem readFunction?_place (fuel : Nat) (e : String) (n : Int) (ts : List Token) :
    readFunction? (fuel + 1) false
        (asciiLower (if e = "*" then "nth-child" else "nth-of-type"))
        (.number false (some n) :: .rParen :: ts) =
      some (.nth 0 n (e != "*") false, ts) := by
  by_cases he : e = "*"
  · have name : asciiLower "nth-child" = "nth-child" := by decide
    rw [if_pos he, name, readFunction?, he]
    rfl
  · have name : asciiLower "nth-of-type" = "nth-of-type" := by decide
    have other : (e != "*") = true := by simpa using he
    rw [if_neg he, name, readFunction?, other]
    rfl

theorem readAttr?_has (a : String) (ts : List Token) :
    readAttr? (.ident a :: .rBracket :: ts) = some (.hasAttr .plain a, ts) := rfl

theorem readAttr?_equals (a v : String) (ts : List Token) :
    readAttr? (.ident a :: .delim '=' :: .string v :: .rBracket :: ts) =
      some (.attr .plain a .equals v .byName, ts) := rfl

theorem readAttr?_contains (a v : String) (ts : List Token) :
    readAttr? (.ident a :: .containMatch :: .string v :: .rBracket :: ts) =
      some (if v = "" then .never else .attr .plain a .contains v .byName, ts) := by
  by_cases hv : v = ""
  · rw [hv]
    rfl
  · have value : neverMatches .contains v = false := by simpa [neverMatches] using hv
    rw [if_neg hv]
    change some (if neverMatches .contains v = true then _ else _, ts) = _
    rw [value]
    rfl

/-- One term in front of others. -/
theorem readConditions?_term (fuel : Nat) (t : Term) (e : String) (ts : List Token) :
    readConditions? (fuel + 1) false (t.tokens e ++ ts) =
      (readConditions? fuel false ts).map fun r => (t.simple e :: r.1, r.2) := by
  cases t with
  | position n =>
    rw [readConditions?.eq_def]
    simp only [Term.tokens, List.cons_append, List.nil_append]
    cases fuel with
    | zero => rfl
    | succ fuel =>
      rw [readFunction?_place]
      simp only [Option.bind_eq_bind, Option.bind_some]
      cases readConditions? (fuel + 1) false ts <;> rfl
  | has a =>
    rw [readConditions?.eq_def]
    simp only [Term.tokens, List.cons_append, List.nil_append, readAttr?_has,
      Option.bind_eq_bind, Option.bind_some]
    cases readConditions? fuel false ts <;> rfl
  | equals a v =>
    rw [readConditions?.eq_def]
    simp only [Term.tokens, List.cons_append, List.nil_append, readAttr?_equals,
      Option.bind_eq_bind, Option.bind_some]
    cases readConditions? fuel false ts <;> rfl
  | contains a v =>
    rw [readConditions?.eq_def]
    simp only [Term.tokens, List.cons_append, List.nil_append, readAttr?_contains,
      Option.bind_eq_bind, Option.bind_some]
    cases readConditions? fuel false ts <;> rfl

/-- The root mark in front of conditions. -/
theorem readConditions?_root (fuel : Nat) (ts : List Token) :
    readConditions? (fuel + 1) false (.colon :: .ident "root" :: ts) =
      (readConditions? fuel false ts).map fun r => (.root :: r.1, r.2) := by
  rw [readConditions?.eq_def]
  have root : pseudoClass? "root" = some .root := rfl
  simp only [root, Option.bind_eq_bind, Option.bind_some]
  cases readConditions? fuel false ts <;> rfl

/-- Conditions end at a blank and at the end of the text. -/
theorem readConditions?_end {fuel : Nat} (h : ∀ t ∈ ts.head?, t = .space) :
    readConditions? (fuel + 1) false ts = some ([], ts) := by
  cases ts with
  | nil => rfl
  | cons t ts =>
    obtain rfl := h t rfl
    rfl

theorem readConditions?_terms {fuel : Nat} (hf : us.length < fuel)
    (h : ∀ t ∈ ts.head?, t = .space) :
    readConditions? fuel false (us.flatMap (Term.tokens e) ++ ts) =
      some (us.map (Term.simple e), ts) := by
  induction us generalizing fuel with
  | nil =>
    obtain ⟨fuel, rfl⟩ := Nat.exists_eq_add_one_of_ne_zero (Nat.ne_of_gt hf)
    exact readConditions?_end h
  | cons t us ih =>
    obtain ⟨fuel, rfl⟩ := Nat.exists_eq_add_one_of_ne_zero (Nat.ne_of_gt (Nat.zero_lt_of_lt hf))
    rw [List.flatMap_cons, List.append_assoc, readConditions?_term, ih (Nat.lt_of_succ_lt_succ hf)]
    rfl

end Terms

/-! ## Steps -/

section Steps

variable {s : Step} {root : Bool} {ts : List Token}

/-- The conditions behind the name of a step. -/
theorem readConditions?_step {fuel : Nat} (hf : s.terms.length + 1 < fuel)
    (h : ∀ t ∈ ts.head?, t = .space) :
    readConditions? fuel false
        (Step.rootTokens root ++ (s.terms.flatMap (Term.tokens s.name) ++ ts)) =
      some ((if root then [.root] else []) ++ s.terms.map (Term.simple s.name), ts) := by
  cases root with
  | false => exact readConditions?_terms (by omega) h
  | true =>
    obtain ⟨fuel, rfl⟩ : ∃ n, fuel = n + 1 := ⟨fuel - 1, by omega⟩
    have terms := readConditions?_terms (e := s.name) (show s.terms.length < fuel by omega) h
    change readConditions? (fuel + 1) false (.colon :: .ident "root" :: (_ ++ ts)) = _
    rw [readConditions?_root, terms]
    rfl

/-- The name of a step, in front of anything but the bar of a prefix. -/
theorem readCompound?_name (fuel : Nat) (s : Step) (h : ts.head? ≠ some (.delim '|')) :
    readCompound? (fuel + 1) false (s.nameToken :: ts) =
      (readConditions? fuel false ts).map fun r => (s.nameParts ++ r.1, r.2) := by
  have bar : ∀ more, ts = .delim '|' :: more → False := fun more e => h (by rw [e]; rfl)
  have read : readType? (s.nameToken :: ts) = some (some (s.nameParts, ts)) := by
    unfold Step.nameToken Step.nameParts
    by_cases star : s.name = "*"
    · rw [if_pos star, if_pos star]
      exact readType?.eq_6 ts (fun _ => bar _) (fun _ _ => bar _) (fun _ => bar _)
    · rw [if_neg star, if_neg star]
      exact readType?.eq_2 _ _ bar
  have kept : skipSpace (s.nameToken :: ts) = s.nameToken :: ts := by
    unfold skipSpace Step.nameToken
    split <;> rfl
  rw [readCompound?, kept, read]
  simp only [Option.bind_eq_bind, Option.bind_some]
  cases readConditions? fuel false ts <;> rfl

/-- No condition of a step begins with the bar of a prefix. -/
theorem head_conditions (h : ∀ t ∈ ts.head?, t = .space) (root : Bool) (e : String)
    (us : List Term) :
    (Step.rootTokens root ++ (us.flatMap (Term.tokens e) ++ ts)).head? ≠ some (.delim '|') := by
  cases root with
  | true => simp [Step.rootTokens]
  | false =>
    cases us with
    | nil =>
      intro e
      cases h _ e
    | cons t us => cases t <;> simp [Step.rootTokens, Term.tokens]

theorem readCompound?_step {fuel : Nat} (hf : s.terms.length + 2 < fuel)
    (h : ∀ t ∈ ts.head?, t = .space) :
    readCompound? fuel false (s.tokens root ++ ts) = some (s.parts root, ts) := by
  obtain ⟨fuel, rfl⟩ : ∃ n, fuel = n + 1 := ⟨fuel - 1, by omega⟩
  rw [Step.tokens, List.cons_append, List.append_assoc,
    readCompound?_name fuel s (head_conditions h root s.name s.terms),
    readConditions?_step (by omega) h]
  rfl

end Steps

/-! ## Paths -/

section Paths

variable {s : Step} {steps : List (Axis × Step)} {ts : List Token}

/-- A token that a step may begin with: it neither ends a selector nor relates to another step. -/
def OpensStep (t : Token) : Prop :=
  t ≠ .space ∧ t ≠ .comma ∧ t ≠ .rParen ∧ t ≠ .delim '>' ∧ t ≠ .delim '+' ∧ t ≠ .delim '~'

theorem opensStep_nameToken (s : Step) : OpensStep s.nameToken := by
  unfold OpensStep Step.nameToken
  split <;> simp

theorem opensStep_of_isNoName {t : Token} (h : t.isNoName = true) : OpensStep t := by
  unfold OpensStep
  refine ⟨?_, ?_, ?_, ?_, ?_, ?_⟩ <;> rintro rfl <;> cases h

/-- The relation in front of a step. -/
theorem readCombinator_axis (axis : Axis) {t : Token} (opens : OpensStep t) (ts : List Token) :
    ∃ rest, readCombinator (axis.tokens ++ t :: ts) = (some axis.combinator, rest) ∧
      skipSpace rest = skipSpace (t :: ts) ∧ rest.head? ≠ some .comma ∧
      rest.head? ≠ some .rParen := by
  obtain ⟨h1, h2, h3, h4, h5, h6⟩ := opens
  cases axis with
  | child => exact ⟨.space :: t :: ts, rfl, rfl, by simp, by simp⟩
  | descendant =>
    refine ⟨t :: ts, ?_, rfl, by simpa using h2, by simpa using h3⟩
    have skipped : skipSpace (Axis.descendant.tokens ++ t :: ts) = t :: ts := by
      change skipSpace (.space :: t :: ts) = t :: ts
      unfold skipSpace
      rw [List.dropWhile_cons, if_pos (beq_self_eq_true _), List.dropWhile_cons,
        if_neg (by simpa using h1)]
    unfold readCombinator
    rw [skipped]
    split <;> simp_all [Axis.tokens, Axis.combinator]

theorem readCompound?_congr {us : List Token} (h : skipSpace ts = skipSpace us) (fuel : Nat)
    (single : Bool) : readCompound? fuel single ts = readCompound? fuel single us := by
  cases fuel with
  | zero => rfl
  | succ fuel => rw [readCompound?, readCompound?, h]

/-- One more step. -/
theorem readJoined?_step (fuel : Nat) (left : Css.Complex) (axis : Axis) {t : Token}
    (opens : OpensStep t) (ts : List Token) :
    readJoined? (fuel + 1) false left (axis.tokens ++ t :: ts) =
      (readCompound? fuel false (t :: ts)).bind fun r =>
        readJoined? fuel false (.join left axis.combinator r.1) r.2 := by
  obtain ⟨rest, read, kept, comma, paren⟩ := readCombinator_axis axis opens ts
  rw [readJoined?, read, ← readCompound?_congr kept]
  simp only
  split
  · simp at comma
  · simp at paren
  · rfl

theorem length_terms_le (e : String) (us : List Term) :
    us.length ≤ (us.flatMap (Term.tokens e)).length := by
  induction us with
  | nil => exact Nat.le_refl 0
  | cons t us ih =>
    have some : 1 ≤ (t.tokens e).length := by cases t <;> simp [Term.tokens]
    rw [List.flatMap_cons, List.length_append, List.length_cons]
    omega

theorem Step.length_tokens_le (s : Step) (root : Bool) :
    s.terms.length + 1 ≤ (s.tokens root).length := by
  have terms := length_terms_le s.name s.terms
  rw [Step.tokens, List.length_cons, List.length_append]
  omega

theorem head_steps (steps : List (Axis × Step)) :
    ∀ t ∈ (steps.flatMap stepTokens).head?, t = .space := by
  cases steps with
  | nil => exact fun _ h => nomatch h
  | cons s steps =>
    obtain ⟨axis, s⟩ := s
    intro t ht
    cases axis <;> exact (Option.some.inj ht).symm

/-- The steps after the first one, up to the end of the text. -/
theorem readJoined?_steps {fuel : Nat} {left : Css.Complex}
    (hf : (steps.flatMap stepTokens).length + 2 < fuel) :
    readJoined? fuel false left (steps.flatMap stepTokens) =
      some (steps.foldl joinStep left, []) := by
  induction steps generalizing fuel left with
  | nil =>
    obtain ⟨fuel, rfl⟩ : ∃ n, fuel = n + 1 := ⟨fuel - 1, by omega⟩
    rfl
  | cons s steps ih =>
    obtain ⟨fuel, rfl⟩ : ∃ n, fuel = n + 1 := ⟨fuel - 1, by omega⟩
    have shape : (s :: steps).flatMap stepTokens =
        s.1.tokens ++ (s.2.tokens false ++ steps.flatMap stepTokens) := by
      rw [List.flatMap_cons, stepTokens, List.append_assoc]
    have terms := s.2.length_tokens_le false
    rw [shape, List.length_append, List.length_append] at hf
    have read : readCompound? fuel false (s.2.tokens false ++ steps.flatMap stepTokens) =
        some (s.2.parts false, steps.flatMap stepTokens) :=
      readCompound?_step (by omega) (head_steps steps)
    rw [shape, Step.tokens, List.cons_append, readJoined?_step _ _ _ (opensStep_nameToken s.2),
      ← List.cons_append, ← Step.tokens, read]
    exact ih (by omega)

theorem readList?_tokens (p : Path) :
    readList? (4 * p.tokens.length + 8) false p.tokens = some ([p.complex], []) := by
  have terms := p.first.length_tokens_le (p.anchor = .top)
  have enough : p.tokens.length = (p.first.tokens (p.anchor = .top)).length +
      (p.rest.flatMap stepTokens).length := by
    rw [Path.tokens, List.length_append]
  have first : readCompound? (4 * p.tokens.length + 7) false p.tokens =
      some (p.first.parts (p.anchor = .top), p.rest.flatMap stepTokens) :=
    readCompound?_step (by omega) (head_steps p.rest)
  have joined : readJoined? (4 * p.tokens.length + 7) false
      (.compound (p.first.parts (p.anchor = .top))) (p.rest.flatMap stepTokens) =
        some (p.complex, []) :=
    readJoined?_steps (by omega)
  rw [readList?, first]
  simp only [Option.bind_eq_bind, Option.bind_some]
  rw [joined]
  rfl

/-- The selector of a path that is readable. -/
theorem Path.IsReadable.read?_toCss {p : Path} (hp : p.IsReadable) :
    Selector.read? p.toCss = some ⟨[p.kept.complex]⟩ := by
  rw [Selector.read?, Path.tokenize_toCss hp]
  simp only [readList?_tokens]

/-- The selector of a path of identifiers, whose values strings keep. -/
theorem Path.read?_toCss {p : Path} (hs : ∀ s ∈ p.steps, s.NamesIdent)
    (hv : ∀ t ∈ p.terms, ∀ c ∈ t.value, isKept c = true) :
    Selector.read? p.toCss = some ⟨[p.complex]⟩ := by
  obtain ⟨readable, kept⟩ := isReadable_of_isKept hs hv
  rw [readable.read?_toCss, kept]

end Paths

/-! ## Values -/

section Values

variable {t : Term}

/-- A line end in the value of a term. -/
def Term.IsBroken (t : Term) : Prop := ∃ c ∈ t.value, Token.isLineEnd c = true

/-- No value holds the null character. -/
def Term.HasNoNull (t : Term) : Prop := ∀ c ∈ t.value, c.toNat ≠ 0

theorem isKept_of_not_broken (h : t.HasNoNull) (hb : ¬ t.IsBroken) :
    ∀ c ∈ t.value, isKept c = true := by
  intro c hc
  have kept : Token.isLineEnd c = false := Bool.eq_false_iff.2 fun hl => hb ⟨c, hc, hl⟩
  have notNull := h c hc
  simp [isKept, kept, notNull]

end Values

end PageHarvest.XPath
