import PageHarvest.Proofs.XPath.SelectorReading
import PageHarvest.Proofs.XPath.Reading

/-!
# Paths that cannot be read from their selectors

The reader of paths takes names that are none in selectors: with a digit in front, with a colon
inside, or a dash alone. It also takes values with line ends. The selector of such a path is not
read, whatever else stands in it; all other paths are read from theirs.

* `exists_unread_attribute`, `exists_unread_term`, `exists_unread_step`: the tokens at the place
  where the reading ends;
* `Path.isSome_read?_toCss`: which selectors are read.
-/

namespace PageHarvest.XPath

open Text Css
open Css.Token (Lexes IsIdent IsName IsNamePart EndsName)

/-- The attribute of a term is named as the reader of paths takes it. -/
def Term.IsNamed (t : Term) : Prop :=
  ∀ a ∈ t.attribute?, IsAttributeName a.toList

/-- The element and the attributes of a step are named as the reader of paths takes them. -/
def Step.IsNamed (s : Step) : Prop :=
  IsElementName s.name.toList ∧ ∀ t ∈ s.terms, t.IsNamed

def Path.IsNamed (p : Path) : Prop := ∀ s ∈ p.steps, s.IsNamed

variable {t : Term} {us : List Term} {e : String} {s : Step} {steps : List (Axis × Step)}
  {ts : List Token}

theorem isAttributeName_of_parts {a : List Char} (some : a ≠ []) (h : ∀ c ∈ a, IsNamePart c) :
    IsAttributeName a := by
  refine ⟨some, fun c hc => ?_⟩
  have part := h c hc
  unfold IsNamePart at part
  simp only [isAttributeChar, Bool.or_eq_true, decide_eq_true_eq]
  tauto

theorem Term.NamesIdent.isNamed (h : t.NamesIdent) : t.IsNamed := by
  intro a ha
  cases t with
  | position n => cases ha
  | has b | equals b v | contains b v =>
    obtain rfl : b = a := Option.some.inj ha
    exact isAttributeName_of_parts (IsIdent.ne_nil h) (IsIdent.parts h)

/-- Identifiers are taken for names. -/
theorem Step.NamesIdent.isNamed (h : s.NamesIdent) : s.IsNamed := by
  refine ⟨h.1.imp (fun star => ?_) fun name => ?_, fun t ht => (h.2 t ht).isNamed⟩
  · rw [star]
    rfl
  · refine ⟨IsIdent.ne_nil name, fun c hc => ?_⟩
    have part := IsIdent.parts name c hc
    unfold IsNamePart at part
    have noStar : c ≠ '*' := by
      rintro rfl
      exact absurd part (by decide)
    refine ⟨?_, noStar⟩
    simp only [isNameChar, Bool.or_eq_true, decide_eq_true_eq]
    tauto

/-! ## Names that the reader of paths takes -/

section Spelled

variable {w : Spelling} {cs : List Char}

theorem Term.Spelled.isNamed (h : t.Spelled w cs) : t.IsNamed := by
  intro b hb
  cases h with
  | position _ _ => cases hb
  | has name _ | equals name _ _ _ | contains name _ _ _ _ =>
    cases hb
    rwa [String.toList_ofList]

theorem TermsSpelled.isNamed (h : TermsSpelled w us cs) : ∀ t ∈ us, t.IsNamed := by
  obtain ⟨_, -, spelled⟩ := h
  induction spelled with
  | nil => exact fun _ ht => absurd ht List.not_mem_nil
  | cons first _ ih => exact List.forall_mem_cons.2 ⟨first.isNamed, ih⟩

theorem PredicatesSpelled.isNamed {ps : List (List Term)} (h : PredicatesSpelled w ps cs) :
    ∀ t ∈ ps.flatten, t.IsNamed := by
  induction h with
  | nil => exact fun _ ht => absurd ht List.not_mem_nil
  | cons _ terms _ ih =>
    intro t ht
    rw [List.flatten_cons, List.mem_append] at ht
    exact ht.elim (terms.isNamed t) (ih t)

theorem Step.Spelled.isNamed (h : s.Spelled w cs) : s.IsNamed := by
  obtain ⟨name, predicates⟩ := h
  exact ⟨by rwa [String.toList_ofList], predicates.isNamed⟩

theorem StepsSpelled.isNamed (h : StepsSpelled w steps cs) : ∀ s ∈ steps, s.2.IsNamed := by
  induction h with
  | nil => exact fun _ hs => absurd hs List.not_mem_nil
  | cons step _ ih => exact List.forall_mem_cons.2 ⟨step.isNamed, ih⟩

theorem Path.Spelled.isNamed {p : Path} (h : p.Spelled w cs) : p.IsNamed := by
  obtain ⟨first, later⟩ := h
  refine List.forall_mem_cons.2 ⟨first.isNamed, fun s hs => ?_⟩
  obtain ⟨u, hu, rfl⟩ := List.mem_map.1 hs
  exact later.isNamed u hu

/-- The names of a path that is read. -/
theorem Path.isNamed_of_read {x : String} {p : Path} (h : Path.read x = .ok p) : p.IsNamed :=
  (Path.spelled_of_read h).1.isNamed

end Spelled

/-! ## Attributes -/

theorem readAttr?_noName {t : Token} (h : t.isNoName = true) (ts : List Token) :
    readAttr? (t :: ts) = none := by
  cases t with
  | delim c =>
    obtain rfl : c = '-' := by simpa [Token.isNoName] using h
    rfl
  | number _ _ | percentage | dimension _ _ _ => rfl
  | _ => cases h

/-- A name in brackets that is none in a selector: nothing there starts a name, or a colon cuts the
name short. -/
theorem exists_unread_attribute {a : List Char} (named : IsAttributeName a) (bad : ¬ IsName a)
    {c : Char} (hc : c = ']' ∨ c = '=' ∨ c = '*') (cs : List Char) :
    ∃ ts, Lexes (a ++ c :: cs) ts ∧ readAttr? ts = none := by
  have noName {n rest : List Char} (parts : ∀ c ∈ n, IsNamePart c) (some : n ≠ [])
      (bad : ¬ IsName n) (ends : EndsName rest) (noDot : ∀ c ∈ rest.head?, c ≠ '.') :
      ∃ ts, Lexes (n ++ rest) ts ∧ readAttr? ts = none := by
    obtain ⟨t, ts, h, first⟩ := Token.exists_lexes_noName parts some bad ends noDot
    exact ⟨t :: ts, h, readAttr?_noName first ts⟩
  have part {c : Char} (h : isAttributeChar c = true) (noColon : c ≠ ':') : IsNamePart c := by
    simp only [isAttributeChar, Bool.or_eq_true, decide_eq_true_eq] at h
    tauto
  obtain ⟨some, chars⟩ := named
  have marks : EndsName (c :: cs) ∧ ∀ x ∈ (c :: cs).head?, x ≠ '.' := by
    rcases hc with rfl | rfl | rfl <;>
      exact ⟨endsName_mark (by decide) (by decide) cs, by simp⟩
  by_cases colon : ':' ∈ a
  · obtain ⟨n, more, rfl, noColon⟩ := List.eq_append_cons_of_mem colon
    have parts : ∀ x ∈ n, IsNamePart x := fun x hx =>
      part (chars x (List.mem_append_left _ hx)) fun e => noColon (e ▸ hx)
    have ends : EndsName (':' :: (more ++ c :: cs)) := endsName_mark (by decide) (by decide) _
    obtain ⟨ts, rest⟩ := Token.exists_lexes (more ++ c :: cs)
    have cut : Lexes (':' :: (more ++ c :: cs)) (.colon :: ts) := rest.mark rfl
    rw [List.append_assoc, List.cons_append]
    rcases eq_or_ne n [] with rfl | notNil
    · exact ⟨_, cut, rfl⟩
    · by_cases name : IsName n
      · exact ⟨_, cut.ident name ends (by simp), rfl⟩
      · exact noName parts notNil name ends (by simp)
  · exact noName (fun x hx => part (chars x hx) fun e => colon (e ▸ hx)) some bad marks.1 marks.2

/-! ## Terms -/

/-- A term that is no condition in a selector. -/
theorem exists_unread_term (named : t.IsNamed) (bad : ¬ t.IsReadable) (e : String)
    (rest : List Char) :
    ∃ ts, Lexes ((t.toCss e).toList ++ rest) (.lBracket :: ts) ∧ readAttr? ts = none := by
  by_cases names : ∀ a ∈ t.attribute?, IsName a.toList
  · have broken : ∃ c ∈ t.value, Token.isLineEnd c = true := by
      by_contra whole
      refine bad ⟨names, fun c hc => Bool.eq_false_iff.2 fun ends => whole ⟨c, hc, ends⟩⟩
    obtain ⟨a, op, ts, hop, h⟩ := Term.lexes_broken names broken rest
    refine ⟨_, h, ?_⟩
    rcases hop with rfl | rfl <;> rfl
  · push Not at names
    obtain ⟨a, ha, bad⟩ := names
    have name := named a ha
    have shape : ∃ c cs, (t.toCss e).toList ++ rest = '[' :: (a.toList ++ c :: cs) ∧
        (c = ']' ∨ c = '=' ∨ c = '*') := by
      cases t with
      | position n => cases ha
      | has a =>
        cases ha
        exact ⟨']', rest, by simp [Term.toCss], .inl rfl⟩
      | equals a v =>
        cases ha
        exact ⟨'=', (quotedValue v).toList ++ ']' :: rest, by simp [Term.toCss], .inr (.inl rfl)⟩
      | contains a v =>
        cases ha
        exact ⟨'*', '=' :: ((quotedValue v).toList ++ ']' :: rest), by simp [Term.toCss],
          .inr (.inr rfl)⟩
    obtain ⟨c, cs, shape, hc⟩ := shape
    obtain ⟨ts, h, unread⟩ := exists_unread_attribute name bad hc cs
    exact ⟨ts, shape ▸ h.mark rfl, unread⟩

theorem readConditions?_unread (h : readAttr? ts = none) (fuel : Nat) :
    readConditions? fuel false (.lBracket :: ts) = none := by
  cases fuel with
  | zero => rfl
  | succ fuel =>
    rw [readConditions?.eq_def]
    simp only [h, Option.bind_eq_bind, Option.bind_none]

/-- Conditions of which one cannot be read. -/
theorem exists_unread_conditions (named : ∀ t ∈ us, t.IsNamed) (bad : ∃ t ∈ us, ¬ t.IsReadable)
    (e : String) (rest : List Char) :
    ∃ ts, Lexes (conditionsText e us ++ rest) ts ∧ ts.head? ≠ some (.delim '|') ∧
      ∀ fuel, readConditions? fuel false ts = none := by
  induction us with
  | nil =>
    obtain ⟨t, ht, _⟩ := bad
    cases ht
  | cons t us ih =>
    have shape : conditionsText e (t :: us) ++ rest =
        (t.toCss e).toList ++ (conditionsText e us ++ rest) := by
      rw [conditionsText, List.flatMap_cons, List.append_assoc]
      rfl
    rw [shape]
    by_cases readable : t.IsReadable
    · have later : ∃ u ∈ us, ¬ u.IsReadable :=
        (List.or_exists_of_exists_mem_cons bad).resolve_left (not_not.2 readable)
      obtain ⟨ts, h, _, unread⟩ := ih (fun u hu => named u (List.mem_cons_of_mem _ hu)) later
      refine ⟨t.kept.tokens e ++ ts, Term.lexes readable h, ?_, fun fuel => ?_⟩
      · cases t <;> simp [Term.kept, Term.tokens]
      · cases fuel with
        | zero => rfl
        | succ fuel => rw [readConditions?_term, unread]; rfl
    · obtain ⟨ts, h, unread⟩ :=
        exists_unread_term (named t List.mem_cons_self) readable e (conditionsText e us ++ rest)
      exact ⟨_, h, by simp, readConditions?_unread unread⟩

/-! ## Steps -/

/-- What is no name does not start a compound. -/
theorem readCompound?_noName {t : Token} (h : t.isNoName = true) (fuel : Nat) (ts : List Token) :
    readCompound? fuel false (t :: ts) = none := by
  have shape : skipSpace (t :: ts) = t :: ts ∧ readType? (t :: ts) = some none ∧
      ∀ fuel, readConditions? (fuel + 1) false (t :: ts) = some ([], t :: ts) := by
    cases t with
    | delim c =>
      obtain rfl : c = '-' := by simpa [Token.isNoName] using h
      exact ⟨rfl, rfl, fun _ => rfl⟩
    | number _ _ | percentage | dimension _ _ _ => exact ⟨rfl, rfl, fun _ => rfl⟩
    | _ => cases h
  cases fuel with
  | zero => rfl
  | succ fuel =>
    rw [readCompound?, shape.1, shape.2.1]
    cases fuel with
    | zero => rfl
    | succ fuel =>
      simp only [Option.bind_eq_bind, Option.bind_some, shape.2.2]
      rfl

theorem Step.IsNamed.head (h : s.IsNamed) :
    s.name.toList ≠ [] ∧ ∀ c ∈ s.name.toList, Token.isSpace c = false :=
  ⟨h.1.ne_nil, fun c hc => Token.isSpace_of_printable (printable_of_isNameChar (h.1.all c hc))⟩

/-- A step that cannot be read. -/
theorem exists_unread_step (named : s.IsNamed) (bad : ¬ s.IsReadable) (root : Bool)
    {rest : List Char} (hr : Follows rest) :
    ∃ t ts, Lexes (s.text root ++ rest) (t :: ts) ∧ OpensStep t ∧
      ∀ fuel, readCompound? fuel false (t :: ts) = none := by
  have shape : s.text root ++ rest = s.name.toList ++
      ((if root then ":root".toList else []) ++ (conditionsText s.name s.terms ++ rest)) := by
    rw [Step.text, List.append_assoc, List.append_assoc]
  rw [shape]
  by_cases name : s.name = "*" ∨ IsName s.name.toList
  · have term : ∃ t ∈ s.terms, ¬ t.IsReadable := by
      by_contra whole
      push Not at whole
      exact bad ⟨name, whole⟩
    obtain ⟨ts, h, bar, unread⟩ := exists_unread_conditions named.2 term s.name rest
    have text := Step.lexes_head name root h (follows_conditions hr s.name s.terms)
    refine ⟨s.nameToken, Step.rootTokens root ++ ts, text, opensStep_nameToken s, fun fuel => ?_⟩
    cases fuel with
    | zero => rfl
    | succ fuel =>
      cases root with
      | false =>
        change readCompound? (fuel + 1) false (s.nameToken :: ts) = none
        rw [readCompound?_name fuel s bar, unread]
        rfl
      | true =>
        change readCompound? (fuel + 1) false (s.nameToken :: .colon :: .ident "root" :: ts) = none
        rw [readCompound?_name fuel s (by simp)]
        cases fuel with
        | zero => rfl
        | succ fuel => rw [readConditions?_root, unread]; rfl
  · obtain ⟨notStar, bad⟩ := not_or.1 name
    have chars : s.name.toList ≠ [] ∧ ∀ c ∈ s.name.toList, isNameChar c = true ∧ c ≠ '*' :=
      named.1.resolve_left fun star => notStar (String.toList_inj.1 star)
    have parts : ∀ c ∈ s.name.toList, IsNamePart c := by
      intro c hc
      obtain ⟨char, noStar⟩ := chars.2 c hc
      simp only [isNameChar, Bool.or_eq_true, decide_eq_true_eq] at char
      unfold IsNamePart
      tauto
    have follows := follows_root root (follows_conditions hr s.name s.terms)
    obtain ⟨t, ts, h, noName⟩ := Token.exists_lexes_noName parts chars.1 bad follows.endsName
      (follows.ne (by decide))
    exact ⟨t, ts, h, opensStep_of_isNoName noName, fun fuel => readCompound?_noName noName fuel ts⟩

/-- Steps of which one cannot be read. -/
theorem exists_unread_steps (named : ∀ s ∈ steps, s.2.IsNamed)
    (bad : ∃ s ∈ steps, ¬ s.2.IsReadable) :
    ∃ ts, Lexes (steps.flatMap stepText) ts ∧ (∀ t ∈ ts.head?, t = .space) ∧
      ∀ fuel left, ts.length + 2 < fuel → readJoined? fuel false left ts = none := by
  induction steps with
  | nil =>
    obtain ⟨s, hm, _⟩ := bad
    cases hm
  | cons s steps ih =>
    obtain ⟨axis, s⟩ := s
    have own : s.IsNamed := named _ List.mem_cons_self
    have spaced : ∀ us : List Token, ∀ t ∈ (axis.tokens ++ us).head?, t = .space := by
      intro us t ht
      cases axis <;> exact (Option.some.inj ht).symm
    have shape : ((axis, s) :: steps).flatMap stepText =
        axis.toCss.toList ++ (s.text false ++ steps.flatMap stepText) := by
      rw [List.flatMap_cons, stepText, List.append_assoc]
    have head := Step.text_head own.head.1 own.head.2 false (steps.flatMap stepText)
    rw [shape]
    by_cases readable : s.IsReadable
    · have later : ∃ s ∈ steps, ¬ s.2.IsReadable :=
        (List.or_exists_of_exists_mem_cons bad).resolve_left (not_not.2 readable)
      obtain ⟨ts, h, next, unread⟩ := ih (fun u hu => named u (List.mem_cons_of_mem _ hu)) later
      have text := Step.lexes readable false h (follows_steps steps)
      refine ⟨_, axis.lexes text head, spaced _, fun fuel left hf => ?_⟩
      obtain ⟨fuel, rfl⟩ : ∃ n, fuel = n + 1 := ⟨fuel - 1, by omega⟩
      have terms := s.kept.length_tokens_le false
      rw [List.length_append, List.length_append] at hf
      have read : readCompound? fuel false (s.kept.tokens false ++ ts) =
          some (s.kept.parts false, ts) :=
        readCompound?_step (by omega) next
      rw [Step.tokens, List.cons_append, readJoined?_step _ _ _ (opensStep_nameToken s.kept),
        ← List.cons_append, ← Step.tokens, read]
      exact unread fuel _ (by omega)
    · obtain ⟨t, ts, h, opens, unread⟩ :=
        exists_unread_step own readable false (follows_steps steps)
      refine ⟨_, axis.lexes h head, spaced _, fun fuel left hf => ?_⟩
      obtain ⟨fuel, rfl⟩ : ∃ n, fuel = n + 1 := ⟨fuel - 1, by omega⟩
      rw [readJoined?_step _ _ _ opens, unread]
      rfl

/-! ## Paths -/

theorem Path.read?_toCss_eq_none {p : Path} (named : p.IsNamed) (bad : ¬ p.IsReadable) :
    Selector.read? p.toCss = none := by
  have first : p.first.IsNamed := named _ List.mem_cons_self
  have unlisted : ∃ ts, Lexes p.toCss.toList ts ∧
      readList? (4 * ts.length + 8) false ts = none := by
    rw [Path.toList_toCss]
    by_cases readable : p.first.IsReadable
    · have rest : ∃ s ∈ p.rest, ¬ s.2.IsReadable := by
        by_contra whole
        push Not at whole
        refine bad fun s hm => ?_
        rcases List.mem_cons.1 hm with rfl | hm
        · exact readable
        · obtain ⟨u, hu, rfl⟩ := List.mem_map.1 hm
          exact whole u hu
      obtain ⟨ts, h, next, unread⟩ := exists_unread_steps
        (fun s hm => named _ (List.mem_cons_of_mem _ (List.mem_map_of_mem hm))) rest
      have terms := p.first.kept.length_tokens_le (p.anchor = .top)
      refine ⟨_, Step.lexes readable (p.anchor = .top) h (follows_steps p.rest), ?_⟩
      rw [readList?, readCompound?_step (by rw [List.length_append]; omega) next]
      simp only [Option.bind_eq_bind, Option.bind_some]
      rw [unread _ _ (by rw [List.length_append]; omega)]
      rfl
    · obtain ⟨t, ts, h, _, unread⟩ := exists_unread_step first readable (p.anchor = .top)
        (follows_steps p.rest)
      refine ⟨_, h, ?_⟩
      rw [readList?, unread]
      rfl
  obtain ⟨ts, h, unread⟩ := unlisted
  rw [Selector.read?, h.tokenize]
  simp only [unread]

/-- The selector of a path is read exactly if the path is readable: its names are names in selectors
and no line ends in its values. -/
theorem Path.isSome_read?_toCss {p : Path} (named : p.IsNamed) :
    (Selector.read? p.toCss).isSome ↔ p.IsReadable := by
  by_cases readable : p.IsReadable
  · rw [readable.read?_toCss]
    simp [readable]
  · rw [read?_toCss_eq_none named readable]
    simp [readable]

end PageHarvest.XPath
