import PageHarvest.Css.Reader
import PageHarvest.Proofs.Css.Lexing
import PageHarvest.XPath.Path

/-!
# The tokens of a path's selector

The selector that `Path.toCss` writes falls into the tokens of the path, if its names are names in
selectors and no line ends in its values. A string replaces the null character, so the tokens are
those of `Path.kept`. A value with a line end makes a broken string.
-/

namespace PageHarvest.XPath

open Text Css
open Css.Token (Lexes IsIdent IsName isIdent_of_all)

/-! ## Values -/

/-- A character that a string keeps: no line ends here, and it is not the null character. -/
def isKept (c : Char) : Bool := !Token.isLineEnd c && c.toNat != 0

/-- What a string keeps of a value without line ends. -/
def keptValue (v : String) : String := String.ofList (v.toList.map Token.keep)

section Values

variable {v rest : List Char} {ts : List Token}

theorem escapeValue_cons (c : Char) (v : List Char) :
    escapeValue (c :: v) = (if c = '\\' ∨ c = '"' then ['\\', c] else [c]) ++ escapeValue v := by
  rw [escapeValue, List.flatMap_cons]
  rfl

/-- An escaped backslash or quote. -/
theorem readString_escaped {c : Char} (h : c = '\\' ∨ c = '"') (cs : List Char) :
    Token.readString '"' ('\\' :: c :: cs) =
      ((Token.readString '"' cs).1.map (c :: ·), (Token.readString '"' cs).2) := by
  have noReturn : ∀ rest, c = '\r' → cs = '\n' :: rest → False := by
    rintro rest rfl _
    exact absurd h (by decide)
  rw [Token.readString.eq_4 _ _ _ noReturn]
  rcases h with rfl | rfl <;>
    simp [Token.isLineEnd, Token.readEscape, Token.hexValue?, Token.keep]

theorem readString_plain {c : Char} (h1 : c ≠ '\\') (h2 : c ≠ '"') (hl : Token.isLineEnd c = false)
    (cs : List Char) :
    Token.readString '"' (c :: cs) =
      ((Token.readString '"' cs).1.map (Token.keep c :: ·), (Token.readString '"' cs).2) := by
  rw [Token.readString, if_neg h2, hl]
  · simp
  all_goals simp [h1]

theorem readString_escapeValue (hv : ∀ c ∈ v, Token.isLineEnd c = false) (rest : List Char) :
    Token.readString '"' (escapeValue v ++ '"' :: rest) = (some (v.map Token.keep), rest) := by
  induction v with
  | nil =>
    change Token.readString '"' ('"' :: rest) = _
    rw [Token.readString]
    · simp
    all_goals simp
  | cons c v ih =>
    have more := ih fun x hx => hv x (List.mem_cons_of_mem _ hx)
    rw [escapeValue_cons]
    by_cases hc : c = '\\' ∨ c = '"'
    · have kept : Token.keep c = c := by rcases hc with rfl | rfl <;> rfl
      rw [if_pos hc]
      simp only [List.cons_append, List.nil_append]
      rw [readString_escaped hc, more, List.map_cons, kept]
      rfl
    · obtain ⟨h1, h2⟩ := not_or.1 hc
      rw [if_neg hc]
      simp only [List.cons_append, List.nil_append]
      rw [readString_plain h1 h2 (hv c List.mem_cons_self), more]
      rfl

/-- A line end breaks a string. -/
theorem readString_broken (hv : ∃ c ∈ v, Token.isLineEnd c = true) (rest : List Char) :
    (Token.readString '"' (escapeValue v ++ rest)).1 = none := by
  induction v with
  | nil =>
    obtain ⟨c, hc, _⟩ := hv
    cases hc
  | cons c v ih =>
    rw [escapeValue_cons]
    by_cases hc : c = '\\' ∨ c = '"'
    · have later : ∃ x ∈ v, Token.isLineEnd x = true := by
        obtain ⟨x, hx, hl⟩ := hv
        rcases List.mem_cons.1 hx with rfl | hx
        · rcases hc with rfl | rfl <;> exact absurd hl (by decide)
        · exact ⟨x, hx, hl⟩
      rw [if_pos hc]
      simp only [List.cons_append, List.nil_append]
      rw [readString_escaped hc, ih later]
      rfl
    · obtain ⟨h1, h2⟩ := not_or.1 hc
      rw [if_neg hc]
      simp only [List.cons_append, List.nil_append]
      cases hl : Token.isLineEnd c
      · have later : ∃ x ∈ v, Token.isLineEnd x = true := by
          obtain ⟨x, hx, hx'⟩ := hv
          rcases List.mem_cons.1 hx with rfl | hx
          · rw [hl] at hx'
            cases hx'
          · exact ⟨x, hx, hx'⟩
        rw [readString_plain h1 h2 hl, ih later]
        rfl
      · rw [Token.readString, if_neg h2, if_pos hl]
        all_goals simp [h1]

theorem next_quote (cs : List Char) :
    Token.next '"' cs =
      match Token.readString '"' cs with
      | (some text, rest) => (.string (String.ofList text), rest)
      | (none, rest) => (.badString, rest) := by
  rw [Token.next.eq_def,
    Token.startsNumber_eq_false (by decide) (by decide) (by decide) (by decide),
    Token.startsIdent_eq_false (by decide) (by decide) (by decide)]
  rfl

theorem lexes_quotedValue {v : String} (h : Lexes rest ts)
    (hv : ∀ c ∈ v.toList, Token.isLineEnd c = false) :
    Lexes ((quotedValue v).toList ++ rest) (.string (keptValue v) :: ts) := by
  have shape : (quotedValue v).toList ++ rest = '"' :: (escapeValue v.toList ++ '"' :: rest) := by
    simp [quotedValue]
  rw [shape]
  refine h.token (by decide) (fun _ e => absurd e (by decide)) ?_
  rw [next_quote, readString_escapeValue hv]
  rfl

/-- A string of characters that are kept. -/
theorem keptValue_eq {v : String} (hv : ∀ c ∈ v.toList, isKept c = true) : keptValue v = v := by
  have kept : v.toList.map Token.keep = v.toList := by
    refine (List.map_congr_left fun c hc => ?_).trans (List.map_id _)
    have notNull : c.toNat ≠ 0 := by simpa [isKept] using (Bool.and_eq_true_iff.1 (hv c hc)).2
    rw [Token.keep, if_neg notNull, id]
  rw [keptValue, kept, String.ofList_toList]

theorem lexes_broken {v : String} (hv : ∃ c ∈ v.toList, Token.isLineEnd c = true)
    (rest : List Char) : ∃ ts, Lexes ((quotedValue v).toList ++ rest) (.badString :: ts) := by
  have shape : (quotedValue v).toList ++ rest = '"' :: (escapeValue v.toList ++ '"' :: rest) := by
    simp [quotedValue]
  have broken := readString_broken hv ('"' :: rest)
  obtain ⟨ts, h⟩ := Token.exists_lexes (Token.next '"' (escapeValue v.toList ++ '"' :: rest)).2
  rw [shape]
  refine ⟨ts, h.token (by decide) (fun _ e => absurd e (by decide)) ?_⟩
  rw [next_quote]
  split
  · rename_i heq
    rw [heq] at broken
    cases broken
  · rfl

end Values

/-! ## Terms -/

namespace Term

/-- The value that a test compares with. -/
def value : Term → List Char
  | equals _ v | contains _ v => v.toList
  | _ => []

/-- The attribute that a test is on. -/
def attribute? : Term → Option String
  | position _ => none
  | has a | equals a _ | contains a _ => some a

def NamesIdent : Term → Prop
  | position _ => True
  | has a | equals a _ | contains a _ => IsIdent a.toList

/-- The term is a condition in a selector. -/
def IsReadable (t : Term) : Prop :=
  (∀ a ∈ t.attribute?, IsName a.toList) ∧ ∀ c ∈ t.value, Token.isLineEnd c = false

/-- The term with what strings keep. -/
def kept : Term → Term
  | position n => .position n
  | has a => .has a
  | equals a v => .equals a (keptValue v)
  | contains a v => .contains a (keptValue v)

theorem isReadable_of_isKept {t : Term} (names : t.NamesIdent)
    (hv : ∀ c ∈ t.value, isKept c = true) : t.IsReadable := by
  refine ⟨fun a ha => .ident ?_, fun c hc => ?_⟩
  · cases t with
    | position n => cases ha
    | _ =>
      cases ha
      exact names
  · have kept := (Bool.and_eq_true_iff.1 (hv c hc)).1
    rwa [Bool.not_eq_true'] at kept

theorem kept_eq {t : Term} (hv : ∀ c ∈ t.value, isKept c = true) : t.kept = t := by
  cases t with
  | equals a v => rw [kept, keptValue_eq hv]
  | contains a v => rw [kept, keptValue_eq hv]
  | _ => rfl

def tokens (element : String) : Term → List Token
  | position n =>
    [.colon, .function (if element = "*" then "nth-child" else "nth-of-type"),
      .number false (some (Token.clamp n)), .rParen]
  | has a => [.lBracket, .ident a, .rBracket]
  | equals a v => [.lBracket, .ident a, .delim '=', .string v, .rBracket]
  | contains a v => [.lBracket, .ident a, .containMatch, .string v, .rBracket]

/-- The condition that a term is read as. -/
def simple (element : String) : Term → Simple
  | position n => .nth 0 (Token.clamp n) (element != "*") false
  | has a => .hasAttr .plain a
  | equals a v => .attr .plain a .equals v .byName
  | contains a v => if v = "" then .never else .attr .plain a .contains v .byName

end Term

section Terms

variable {t : Term} {us : List Term} {e a : String} {rest : List Char} {ts : List Token}

theorem endsName_mark {c : Char} (h : Token.isNameChar c = false) (hb : c ≠ '\\')
    (cs : List Char) : Token.EndsName (c :: cs) := by
  intro x hx
  obtain rfl : c = x := Option.some.inj hx
  exact ⟨h, hb⟩

/-- A name in brackets. -/
theorem lexes_attribute {c : Char} {cs : List Char} (h : Lexes (c :: cs) ts) (ha : IsName a.toList)
    (hc : Token.isNameChar c = false) (hb : c ≠ '\\') (hp : c ≠ '(' ∧ c ≠ '>') :
    Lexes ('[' :: (a.toList ++ c :: cs)) (.lBracket :: .ident a :: ts) := by
  have name := h.ident ha (endsName_mark hc hb cs) (by simpa using hp)
  rw [String.ofList_toList] at name
  exact name.mark rfl

theorem Term.lexes (hr : t.IsReadable) (h : Lexes rest ts) :
    Lexes ((t.toCss e).toList ++ rest) (t.kept.tokens e ++ ts) := by
  obtain ⟨hn, hv⟩ := hr
  cases t with
  | position n =>
    have number := ((h.mark (c := ')') rfl).number n)
    by_cases he : e = "*"
    · have shape : ((Term.position n).toCss e).toList ++ rest =
          ':' :: ("nth-child".toList ++ '(' :: (Nat.toDigits 10 n ++ ')' :: rest)) := by
        simp [Term.toCss, he]
      rw [shape, Term.kept, Term.tokens, if_pos he]
      have split : "nth-child".toList = 'n' :: "th-child".toList := rfl
      have name : IsIdent "nth-child".toList := isIdent_of_all split rfl rfl
      exact (number.function (.ident name)).mark rfl
    · have shape : ((Term.position n).toCss e).toList ++ rest =
          ':' :: ("nth-of-type".toList ++ '(' :: (Nat.toDigits 10 n ++ ')' :: rest)) := by
        simp [Term.toCss, he]
      rw [shape, Term.kept, Term.tokens, if_neg he]
      have split : "nth-of-type".toList = 'n' :: "th-of-type".toList := rfl
      have name : IsIdent "nth-of-type".toList := isIdent_of_all split rfl rfl
      exact (number.function (.ident name)).mark rfl
  | has a =>
    have shape : ((Term.has a).toCss e).toList ++ rest = '[' :: (a.toList ++ ']' :: rest) := by
      simp [Term.toCss]
    rw [shape]
    exact lexes_attribute (h.mark rfl) (hn a rfl) (by decide) (by decide) (by decide)
  | equals a v =>
    have shape : ((Term.equals a v).toCss e).toList ++ rest =
        '[' :: (a.toList ++ '=' :: ((quotedValue v).toList ++ ']' :: rest)) := by
      simp [Term.toCss]
    rw [shape]
    exact lexes_attribute ((lexes_quotedValue (h.mark rfl) hv).mark rfl) (hn a rfl) (by decide)
      (by decide) (by decide)
  | contains a v =>
    have shape : ((Term.contains a v).toCss e).toList ++ rest =
        '[' :: (a.toList ++ '*' :: '=' :: ((quotedValue v).toList ++ ']' :: rest)) := by
      simp [Term.toCss]
    rw [shape]
    exact lexes_attribute (lexes_quotedValue (h.mark rfl) hv).containMatch (hn a rfl) (by decide)
      (by decide) (by decide)

/-- A test with a line end in its value. -/
theorem Term.lexes_broken (hn : ∀ a ∈ t.attribute?, IsName a.toList)
    (hv : ∃ c ∈ t.value, Token.isLineEnd c = true) (rest : List Char) :
    ∃ a op ts, (op = .delim '=' ∨ op = .containMatch) ∧
      Lexes ((t.toCss e).toList ++ rest) (.lBracket :: .ident a :: op :: .badString :: ts) := by
  cases t with
  | position n =>
    obtain ⟨c, hc, _⟩ := hv
    cases hc
  | has a =>
    obtain ⟨c, hc, _⟩ := hv
    cases hc
  | equals a v =>
    have shape : ((Term.equals a v).toCss e).toList ++ rest =
        '[' :: (a.toList ++ '=' :: ((quotedValue v).toList ++ ']' :: rest)) := by
      simp [Term.toCss]
    obtain ⟨ts, h⟩ := XPath.lexes_broken hv (']' :: rest)
    rw [shape]
    exact ⟨a, .delim '=', ts, .inl rfl,
      lexes_attribute (h.mark rfl) (hn a rfl) (by decide) (by decide) (by decide)⟩
  | contains a v =>
    have shape : ((Term.contains a v).toCss e).toList ++ rest =
        '[' :: (a.toList ++ '*' :: '=' :: ((quotedValue v).toList ++ ']' :: rest)) := by
      simp [Term.toCss]
    obtain ⟨ts, h⟩ := XPath.lexes_broken hv (']' :: rest)
    rw [shape]
    exact ⟨a, .containMatch, ts, .inr rfl,
      lexes_attribute h.containMatch (hn a rfl) (by decide) (by decide) (by decide)⟩

end Terms

/-! ## Steps -/

namespace Step

def terms (s : Step) : List Term := s.predicates.flatten

def NamesIdent (s : Step) : Prop :=
  (s.name = "*" ∨ IsIdent s.name.toList) ∧ ∀ t ∈ s.terms, t.NamesIdent

/-- The step is a compound in a selector. -/
def IsReadable (s : Step) : Prop :=
  (s.name = "*" ∨ IsName s.name.toList) ∧ ∀ t ∈ s.terms, t.IsReadable

def kept (s : Step) : Step := ⟨s.name, s.predicates.map (·.map Term.kept)⟩

theorem terms_kept (s : Step) : s.kept.terms = s.terms.map Term.kept := by
  rw [terms, terms, kept, List.map_flatten]

def nameToken (s : Step) : Token := if s.name = "*" then .delim '*' else .ident s.name

/-- The condition of the element at the top, if it stands behind the name of a step. -/
def rootTokens (root : Bool) : List Token := if root then [.colon, .ident "root"] else []

def tokens (s : Step) (root : Bool) : List Token :=
  s.nameToken :: (rootTokens root ++ s.terms.flatMap (Term.tokens s.name))

end Step

def Axis.tokens : Axis → List Token
  | child => [.space, .delim '>', .space]
  | descendant => [.space]

def stepTokens (s : Axis × Step) : List Token := s.1.tokens ++ s.2.tokens false

def Path.tokens (p : Path) : List Token :=
  p.first.tokens (p.anchor = .top) ++ p.rest.flatMap stepTokens

def Path.steps (p : Path) : List Step := p.first :: p.rest.map Prod.snd

/-- The path can be read from its selector. -/
def Path.IsReadable (p : Path) : Prop := ∀ s ∈ p.steps, s.IsReadable

def Path.kept (p : Path) : Path :=
  ⟨p.anchor, p.first.kept, p.rest.map fun s => (s.1, s.2.kept)⟩

def Path.terms (p : Path) : List Term := p.steps.flatMap Step.terms

section Steps

variable {s : Step} {us : List Term} {e : String} {rest : List Char} {ts : List Token}

def conditionsText (e : String) (us : List Term) : List Char :=
  us.flatMap fun t => (t.toCss e).toList

/-- The text of a step in the selector of a path. -/
def Step.text (s : Step) (root : Bool) : List Char :=
  s.name.toList ++ ((if root then ":root".toList else []) ++ conditionsText s.name s.terms)

def stepText (s : Axis × Step) : List Char := s.1.toCss.toList ++ s.2.text false

theorem Path.toList_toCss (p : Path) :
    p.toCss.toList = p.first.text (p.anchor = .top) ++ p.rest.flatMap stepText := by
  have conditions : ∀ s : Step, s.conditions.toList = conditionsText s.name s.terms := by
    intro s
    rw [Step.conditions, String.toList_join, List.flatMap_map]
    rfl
  have root : (if p.anchor = .top then ":root" else "").toList =
      if decide (p.anchor = .top) = true then ":root".toList else [] := by
    by_cases h : p.anchor = .top <;> simp [h]
  have later : ∀ s : Axis × Step,
      (s.1.toCss ++ s.2.name ++ s.2.conditions).toList = stepText s := by
    intro s
    simp [stepText, Step.text, conditions]
  rw [Path.toCss]
  simp only [String.toList_append, String.toList_join, List.flatMap_map, conditions, root, later,
    Step.text, List.append_assoc]

/-- What may follow a name in a selector. -/
def Follows (cs : List Char) : Prop := ∀ c ∈ cs.head?, c = ':' ∨ c = '[' ∨ c = ' '

theorem Follows.endsName (h : Follows rest) : Token.EndsName rest := by
  intro c hc
  rcases h c hc with rfl | rfl | rfl <;> exact ⟨by decide, by decide⟩

theorem Follows.marks (h : Follows rest) : ∀ c ∈ rest.head?, c ≠ '(' ∧ c ≠ '>' := by
  intro c hc
  rcases h c hc with rfl | rfl | rfl <;> decide

theorem Follows.ne {x : Char} (h : Follows rest) (hx : x ≠ ':' ∧ x ≠ '[' ∧ x ≠ ' ') :
    ∀ c ∈ rest.head?, c ≠ x := by
  rintro c hc rfl
  rcases h c hc with e | e | e
  · exact hx.1 e
  · exact hx.2.1 e
  · exact hx.2.2 e

theorem toCss_head (t : Term) (e : String) (cs : List Char) :
    ∃ c more, (t.toCss e).toList ++ cs = c :: more ∧ (c = ':' ∨ c = '[') := by
  cases t with
  | position n =>
    by_cases he : e = "*"
    · exact ⟨':', _, by simp [Term.toCss, he]; rfl, .inl rfl⟩
    · exact ⟨':', _, by simp [Term.toCss, he]; rfl, .inl rfl⟩
  | has a => exact ⟨'[', _, by simp [Term.toCss]; rfl, .inr rfl⟩
  | equals a v => exact ⟨'[', _, by simp [Term.toCss]; rfl, .inr rfl⟩
  | contains a v => exact ⟨'[', _, by simp [Term.toCss]; rfl, .inr rfl⟩

theorem follows_conditions (h : Follows rest) (e : String) (us : List Term) :
    Follows (conditionsText e us ++ rest) := by
  cases us with
  | nil => exact h
  | cons t us =>
    rw [conditionsText, List.flatMap_cons, List.append_assoc]
    obtain ⟨c, more, hc, hm⟩ := toCss_head t e (us.flatMap (fun t => (t.toCss e).toList) ++ rest)
    rw [hc]
    intro x hx
    obtain rfl : c = x := Option.some.inj hx
    exact hm.imp_right .inl

theorem lexes_conditions (h : Lexes rest ts) (hr : ∀ t ∈ us, t.IsReadable) :
    Lexes (conditionsText e us ++ rest) ((us.map Term.kept).flatMap (Term.tokens e) ++ ts) := by
  induction us with
  | nil => exact h
  | cons t us ih =>
    have more := ih fun u hu => hr u (List.mem_cons_of_mem _ hu)
    rw [conditionsText, List.flatMap_cons, List.map_cons, List.flatMap_cons, List.append_assoc,
      List.append_assoc]
    exact Term.lexes (hr t List.mem_cons_self) more

theorem follows_root (root : Bool) (h : Follows rest) :
    Follows ((if root then ":root".toList else []) ++ rest) := by
  cases root with
  | false => exact h
  | true =>
    intro c hc
    obtain rfl : ':' = c := Option.some.inj hc
    exact .inl rfl

theorem lexes_root (root : Bool) (h : Lexes rest ts) (hr : Follows rest) :
    Lexes ((if root then ":root".toList else []) ++ rest) (Step.rootTokens root ++ ts) := by
  cases root with
  | false => exact h
  | true =>
    have split : "root".toList = 'r' :: "oot".toList := rfl
    have name : IsIdent "root".toList := isIdent_of_all split rfl rfl
    exact (h.ident (.ident name) hr.endsName hr.marks).mark rfl

/-- The name of a step and the mark of the root, in front of conditions. -/
theorem Step.lexes_head (hs : s.name = "*" ∨ IsName s.name.toList) (root : Bool)
    (h : Lexes rest ts) (hr : Follows rest) :
    Lexes (s.name.toList ++ ((if root then ":root".toList else []) ++ rest))
      (s.nameToken :: (rootTokens root ++ ts)) := by
  have marked := lexes_root root h hr
  have follows := follows_root root hr
  unfold Step.nameToken
  by_cases star : s.name = "*"
  · rw [star, if_pos rfl]
    exact marked.star (follows.ne (by decide))
  · have ident := hs.resolve_left star
    have named := marked.ident ident follows.endsName follows.marks
    rw [String.ofList_toList] at named
    rw [if_neg star]
    exact named

theorem Step.lexes (hs : s.IsReadable) (root : Bool) (h : Lexes rest ts) (hr : Follows rest) :
    Lexes (s.text root ++ rest) (s.kept.tokens root ++ ts) := by
  rw [Step.text, Step.tokens, Step.terms_kept, List.append_assoc, List.append_assoc,
    List.cons_append, List.append_assoc]
  exact Step.lexes_head hs.1 root (lexes_conditions h hs.2) (follows_conditions hr _ _)

theorem follows_steps (steps : List (Axis × Step)) : Follows (steps.flatMap stepText) := by
  cases steps with
  | nil => exact fun _ h => nomatch h
  | cons s steps =>
    have blank : ∃ more, s.1.toCss.toList = ' ' :: more := by
      cases s.1 with
      | child => exact ⟨['>', ' '], rfl⟩
      | descendant => exact ⟨[], rfl⟩
    obtain ⟨more, hm⟩ := blank
    intro c hc
    rw [List.flatMap_cons, stepText, hm] at hc
    obtain rfl : ' ' = c := Option.some.inj hc
    exact .inr (.inr rfl)

/-- A step begins with its name, and so with something other than a blank. -/
theorem Step.text_head (some : s.name.toList ≠ [])
    (hs : ∀ c ∈ s.name.toList, Token.isSpace c = false) (root : Bool) (cs : List Char) :
    ∀ c ∈ (s.text root ++ cs).head?, Token.isSpace c = false := by
  obtain ⟨x, more, hx⟩ := List.exists_cons_of_ne_nil some
  rw [Step.text, List.append_assoc, hx]
  intro c hc
  obtain rfl : x = c := Option.some.inj hc
  exact hs x (hx ▸ List.mem_cons_self)

theorem Step.IsReadable.head (hs : s.IsReadable) :
    s.name.toList ≠ [] ∧ ∀ c ∈ s.name.toList, Token.isSpace c = false := by
  rcases hs.1 with star | name
  · have single : s.name.toList = ['*'] := by
      rw [star]
      rfl
    rw [single]
    refine ⟨List.cons_ne_nil _ _, fun c hc => ?_⟩
    rw [List.mem_singleton.1 hc]
    rfl
  · refine ⟨?_, fun c hc => Token.isSpace_of_printable (name.parts c hc).printable⟩
    generalize s.name.toList = n at name
    cases name with
    | ident ident => exact IsIdent.ne_nil ident
    | dashed _ _ => exact List.cons_ne_nil _ _

theorem Axis.lexes (axis : Axis) {cs : List Char} (h : Lexes cs ts)
    (hc : ∀ c ∈ cs.head?, Token.isSpace c = false) :
    Lexes (axis.toCss.toList ++ cs) (axis.tokens ++ ts) := by
  cases axis with
  | child =>
    have mark := (h.space hc).mark (c := '>') rfl
    refine mark.space fun c e => ?_
    obtain rfl : '>' = c := Option.some.inj e
    rfl
  | descendant => exact h.space hc

theorem lexes_steps {steps : List (Axis × Step)} (hs : ∀ s ∈ steps, s.2.IsReadable) :
    Lexes (steps.flatMap stepText)
      ((steps.map fun s => (s.1, s.2.kept)).flatMap stepTokens) := by
  induction steps with
  | nil => exact Token.lexes_nil
  | cons s steps ih =>
    have readable := hs s List.mem_cons_self
    have more := ih fun u hu => hs u (List.mem_cons_of_mem _ hu)
    have step := Step.lexes readable false more (follows_steps steps)
    rw [List.flatMap_cons, List.map_cons, List.flatMap_cons, stepText, stepTokens,
      List.append_assoc, List.append_assoc]
    exact s.1.lexes step (Step.text_head readable.head.1 readable.head.2 false _)

end Steps

/-! ## Paths -/

theorem Path.tokenize_toCss {p : Path} (hp : p.IsReadable) :
    Token.tokenize p.toCss = p.kept.tokens := by
  have later : ∀ s ∈ p.rest, s.2.IsReadable := fun s hm =>
    hp s.2 (List.mem_cons_of_mem _ (List.mem_map_of_mem hm))
  have whole := Step.lexes (hp p.first List.mem_cons_self) (p.anchor = .top) (lexes_steps later)
    (follows_steps p.rest)
  rw [← Path.toList_toCss] at whole
  exact whole.tokenize

/-- Identifiers, and values that strings keep. -/
theorem Path.isReadable_of_isKept {p : Path} (hs : ∀ s ∈ p.steps, s.NamesIdent)
    (hv : ∀ t ∈ p.terms, ∀ c ∈ t.value, isKept c = true) : p.IsReadable ∧ p.kept = p := by
  have kept : ∀ s ∈ p.steps, ∀ t ∈ s.terms, ∀ c ∈ t.value, isKept c = true :=
    fun s hm t ht => hv t (List.mem_flatMap.2 ⟨s, hm, ht⟩)
  have step_kept : ∀ s ∈ p.steps, s.kept = s := by
    intro s hm
    have predicates : s.predicates.map (·.map Term.kept) = s.predicates := by
      refine (List.map_congr_left fun ts hts => ?_).trans (List.map_id _)
      refine (List.map_congr_left fun t ht => ?_).trans (List.map_id _)
      exact Term.kept_eq (kept s hm t (List.mem_flatten.2 ⟨ts, hts, ht⟩))
    rw [Step.kept, predicates]
  refine ⟨fun s hm => ⟨(hs s hm).1.imp_right .ident, fun t ht => ?_⟩, ?_⟩
  · exact Term.isReadable_of_isKept ((hs s hm).2 t ht) (kept s hm t ht)
  · have rest : (p.rest.map fun s => (s.1, s.2.kept)) = p.rest := by
      refine (List.map_congr_left fun s hm => ?_).trans (List.map_id _)
      rw [step_kept s.2 (List.mem_cons_of_mem _ (List.mem_map_of_mem hm))]
      rfl
    rw [Path.kept, step_kept p.first List.mem_cons_self, rest]

end PageHarvest.XPath
