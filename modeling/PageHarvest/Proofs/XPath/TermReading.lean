import PageHarvest.Proofs.XPath.Passing

/-!
# What the reader of predicates takes

The reader takes the predicates with the lenient spelling of terms, if the positions among these are
from one on, fit 64 bits and come before the tests (`accepted`). For each reader one lemma says
what it makes of a spelled text, and one that what it takes is spelled.

* `Term.Spelled.readTerm?`, `spelled_of_readTerm?`: a spelled term is read as itself where it may
  stand, and as nothing elsewhere;
* `PredicatesSpelled.readPredicates`, `spelled_of_readPredicates`: the same for the predicates of a
  step in front of any text;
* `breaks_of_readPredicates`: the reader breaks off only in a predicate that has a character of
  several bytes outside quotes.
-/

namespace PageHarvest.XPath

open Text

/-! ## The parts of a term -/

section Parts

variable {n : Nat} {a v cs : List Char}

theorem printable_of_isNameChar {c : Char} (h : isNameChar c = true) : Printable c := by
  unfold isNameChar at h
  simp only [Bool.or_eq_true, decide_eq_true_eq] at h
  rcases h with (((h | h) | rfl) | rfl) | rfl
  · exact printable_of_isAsciiLetter h
  · exact printable_of_isAsciiDigit h
  all_goals exact ⟨by decide, by decide⟩

theorem IsAttributeName.trimmed (h : IsAttributeName a) : Trimmed ('@' :: a) := by
  refine trimmed_of_all fun c hc => ?_
  rcases List.mem_cons.1 hc with rfl | hc
  · decide
  · exact (printable_of_isAttributeChar (h.2 c hc)).not_blank

theorem IsAttributeName.not_mem {x : Char} (h : IsAttributeName a)
    (hx : isAttributeChar x = false) (hat : x ≠ '@') : x ∉ '@' :: a := by
  intro hm
  rcases List.mem_cons.1 hm with rfl | hm
  · exact hat rfl
  · exact ne_of_test (h.2 x hm) hx rfl

theorem attributeName?_eq_some {name : String} :
    attributeName? cs = some name ↔
      ∃ a, IsAttributeName a ∧ cs = '@' :: a ∧ name = String.ofList a := by
  unfold attributeName? IsAttributeName
  split
  · rename_i a
    rw [Option.ite_none_right_eq_some, Bool.and_eq_true, Bool.not_eq_true',
      List.isEmpty_eq_false_iff, List.all_eq_true, Option.some.injEq]
    constructor
    · rintro ⟨named, rfl⟩
      exact ⟨a, named, rfl, rfl⟩
    · rintro ⟨_, named, shape, rfl⟩
      obtain rfl := (List.cons.inj shape).2
      exact ⟨named, rfl⟩
  · rename_i other
    exact ⟨nofun, fun ⟨a, _, shape, _⟩ => absurd shape (other a)⟩

theorem Enclosed.trimmed (h : Enclosed v cs) : Trimmed cs := by
  obtain ⟨hq⟩ := h
  rcases isQuote_iff.1 hq with rfl | rfl <;> exact trimmed_of_ends (by decide) (by decide)

theorem between_eq_some {q : Char} :
    (dropFront? [q] cs).bind (dropBack? [q]) = some v ↔ cs = q :: (v ++ [q]) := by
  rw [Option.bind_eq_some_iff]
  constructor
  · rintro ⟨rest, front, back⟩
    rw [dropFront?_eq_some.1 front, dropBack?_eq_some.1 back]
    rfl
  · rintro rfl
    exact ⟨v ++ [q], dropFront?_append [q] _, dropBack?_append [q] v⟩

theorem unquote?_eq_some : unquote? cs = some v ↔ Enclosed v cs := by
  have shape (cs : List Char) : unquote? cs =
      ((dropFront? ['\''] cs).bind (dropBack? ['\''])).orElse
        fun _ => (dropFront? ['"'] cs).bind (dropBack? ['"']) := rfl
  rw [shape]
  constructor
  · intro h
    cases single : (dropFront? ['\''] cs).bind (dropBack? ['\'']) with
    | none =>
      rw [single] at h
      rw [between_eq_some.1 h]
      exact .mk (by decide)
    | some w =>
      rw [single] at h
      obtain rfl := Option.some.inj h
      rw [between_eq_some.1 single]
      exact .mk (by decide)
  · rintro ⟨hq⟩
    rcases isQuote_iff.1 hq with rfl | rfl
    · rw [between_eq_some.2 rfl]
      rfl
    · have noSingle : dropFront? ['\''] ('"' :: (v ++ ['"'])) = none := rfl
      rw [noSingle, between_eq_some.2 rfl]
      rfl

theorem Digits.all (h : Digits n cs) : ∀ c ∈ cs, isAsciiDigit c = true := by
  obtain ⟨_, digits⟩ := h
  exact digits

theorem Signed.chars (h : Signed n cs) : ∀ c ∈ cs, isAsciiDigit c = true ∨ c = '+' := by
  cases h with
  | bare digits => exact fun c hc => .inl (digits.all c hc)
  | plus digits =>
    exact fun c hc => (List.mem_cons.1 hc).elim .inr fun hc => .inl (digits.all c hc)

theorem Signed.trimmed (h : Signed n cs) : Trimmed cs := by
  refine trimmed_of_all fun c hc => ?_
  rcases h.chars c hc with digit | rfl
  · exact (printable_of_isAsciiDigit digit).not_blank
  · decide

theorem Signed.at_not_mem (h : Signed n cs) : '@' ∉ cs := by
  intro hm
  rcases h.chars _ hm with digit | plus
  · exact ne_of_test digit rfl rfl
  · exact absurd plus (by decide)

/-- A number of 64 bits in digits only. -/
def unsigned? (ds : List Char) : Option Nat :=
  if ds.isEmpty || !ds.all isAsciiDigit then none
  else if decimal ds < Nat.pow 2 64 then some (decimal ds) else none

theorem Digits.unsigned? (h : Digits n cs) :
    unsigned? cs = if n < Nat.pow 2 64 then some n else none := by
  obtain ⟨some, digits⟩ := h
  rw [XPath.unsigned?, List.all_eq_true.2 digits, List.isEmpty_eq_false_iff.2 some]
  rfl

theorem digits_of_unsigned? (h : unsigned? cs = some n) : Digits n cs ∧ n < Nat.pow 2 64 := by
  unfold unsigned? at h
  split at h
  · cases h
  · rename_i digits
    split at h
    · rename_i fits
      obtain rfl := Option.some.inj h
      simp only [Bool.or_eq_true, List.isEmpty_iff, Bool.not_eq_true', not_or, Bool.not_eq_false,
        List.all_eq_true] at digits
      exact ⟨.mk digits.1 digits.2, fits⟩
    · cases h

theorem position?_plus (cs : List Char) : position? ('+' :: cs) = unsigned? cs := rfl

theorem position?_eq_unsigned? (h : cs.head? ≠ some '+') : position? cs = unsigned? cs := by
  rw [position?.eq_def]
  split
  · exact absurd rfl h
  · rfl

theorem Signed.position? (h : Signed n cs) :
    position? cs = if n < Nat.pow 2 64 then some n else none := by
  cases h with
  | bare digits =>
    have plus : cs.head? ≠ some '+' := fun e =>
      ne_of_test (digits.all _ (List.mem_of_mem_head? e)) rfl rfl
    rw [position?_eq_unsigned? plus, digits.unsigned?]
  | plus digits => rw [position?_plus, digits.unsigned?]

theorem signed_of_position? (h : position? cs = some n) : Signed n cs ∧ n < Nat.pow 2 64 := by
  by_cases plus : cs.head? = some '+'
  · obtain ⟨ds, rfl⟩ := List.head?_eq_some_iff.1 plus
    exact (digits_of_unsigned? h).imp_left .plus
  · rw [position?_eq_unsigned? plus] at h
    exact (digits_of_unsigned? h).imp_left .bare

end Parts

/-! ## Terms -/

/-- Whether the reader takes a term. `filtered` tells whether a test stands in front of it. -/
def Term.accepted (filtered : Bool) : Term → Bool
  | position n => !filtered && n != 0 && n < Nat.pow 2 64
  | _ => true

/-- Whether the reader takes the terms of a step. -/
def accepted : Bool → List Term → Bool
  | _, [] => true
  | filtered, t :: ts => t.accepted filtered && accepted (filtered || t.isTest) ts

theorem accepted_append (filtered : Bool) (ts us : List Term) :
    accepted filtered (ts ++ us) =
      (accepted filtered ts && accepted (filtered || ts.any Term.isTest) us) := by
  induction ts generalizing filtered with
  | nil => simp [accepted]
  | cons t ts ih => simp [accepted, ih, Bool.and_assoc, Bool.or_assoc]

theorem Term.accepted_of_isTest {t : Term} (h : t.isTest = true) (filtered : Bool) :
    t.accepted filtered = true := by
  cases t with
  | position n => cases h
  | has a | equals a v | contains a v => rfl

section Terms

variable {w : Spelling} {t : Term} {ts : List Term} {cs ds : List Char}

theorem trimmed_callText (name value : List Char) : Trimmed (callText name value) := by
  have shape : callText name value =
      'c' :: ("ontains(".toList ++ (name ++ ',' :: value) ++ [')']) := rfl
  rw [shape]
  exact trimmed_of_ends (by decide) (by decide)

namespace Term.Spelled

/-- Blanks around a term do not matter. -/
theorem of_padded (h : t.Spelled w cs) (hp : Padded cs ds) : t.Spelled w ds := by
  cases h with
  | position number padded => exact .position number (padded.trans hp)
  | has name padded => exact .has name (padded.trans hp)
  | contains name value padded padded' call =>
    exact .contains name value padded padded' (call.trans hp)
  | @equals a v quoted front back name value padded padded' =>
    obtain ⟨b, b', hb, hb', rfl⟩ := hp
    have shape : b ++ (front ++ '=' :: back ++ b') = b ++ front ++ '=' :: (back ++ b') := by simp
    rw [shape]
    exact .equals name value (padded.blank_append hb) (padded'.append_blank hb')

theorem trimChars (h : t.Spelled .lenient cs) : t.Spelled .lenient (trimChars cs) := by
  cases h with
  | position number padded =>
    rw [trimChars_eq_iff.2 ⟨Signed.trimmed number, padded⟩]
    exact .position number (.refl _)
  | has name padded =>
    rw [trimChars_eq_iff.2 ⟨name.trimmed, padded⟩]
    exact .has name (.refl _)
  | contains name value padded padded' call =>
    rw [trimChars_eq_iff.2 ⟨trimmed_callText _ _, call⟩]
    exact .contains name value padded padded' (.refl _)
  | @equals a v quoted front back name value padded padded' =>
    obtain ⟨b₁, b₂, h1, h2, rfl⟩ := padded
    obtain ⟨b₃, b₄, h3, h4, rfl⟩ := padded'
    have shape : b₁ ++ ('@' :: a ++ b₂) ++ '=' :: (b₃ ++ (quoted ++ b₄)) =
        b₁ ++ (('@' :: a ++ b₂) ++ '=' :: (b₃ ++ quoted) ++ b₄) := by simp
    have trimmed : Trimmed (('@' :: a ++ b₂) ++ '=' :: (b₃ ++ quoted)) := by
      obtain ⟨hq⟩ := value
      rename_i q
      have ends : ('@' :: a ++ b₂) ++ '=' :: (b₃ ++ q :: (v ++ [q])) =
          '@' :: (a ++ b₂ ++ '=' :: (b₃ ++ q :: v) ++ [q]) := by simp
      rw [ends]
      rcases isQuote_iff.1 hq with rfl | rfl <;> exact trimmed_of_ends (by decide) (by decide)
    rw [shape, trimChars_eq h1 trimmed h4 (by simp)]
    exact .equals name value (Padded.refl _ |>.append_blank h2) (Padded.refl _ |>.blank_append h3)

theorem at_mem (h : t.Spelled w cs) (test : t.isTest = true) : '@' ∈ cs := by
  cases h with
  | position _ _ => cases test
  | has _ padded => exact padded.mem List.mem_cons_self
  | equals _ _ padded _ => exact List.mem_append_left _ (padded.mem List.mem_cons_self)
  | contains _ _ padded _ call =>
    have inside := padded.mem List.mem_cons_self
    exact call.mem (by simp [callText_eq, inside])

end Term.Spelled

theorem dropFront?_contains_at (cs : List Char) :
    dropFront? "contains(".toList ('@' :: cs) = none :=
  rfl

/-- What the reader makes of a test. -/
theorem Term.Spelled.attributeTerm? (h : t.Spelled .lenient cs) (trimmed : Trimmed cs)
    (test : t.isTest = true) : attributeTerm? cs = some t := by
  cases h with
  | position _ _ => cases test
  | @has a _ name padded =>
    obtain rfl := padded.eq_of_trimmed name.trimmed trimmed
    have noEquals := splitOnce?_eq_none (name.not_mem (x := '=') (by decide) (by decide))
    rw [XPath.attributeTerm?, dropFront?_contains_at]
    simp [noEquals, attributeName?_eq_some.2 ⟨a, name, rfl, rfl⟩]
  | @equals a v quoted front back name value padded padded' =>
    have cut := splitOnce?_append
      (padded.not_mem (name.not_mem (x := '=') (by decide) (by decide)) (by decide)) back
    have noCall : dropFront? "contains(".toList (front ++ '=' :: back) = none := by
      obtain ⟨b, b', hb, _, rfl⟩ := padded
      cases b with
      | nil => exact dropFront?_contains_at _
      | cons c b =>
        have noBlank := trimmed.head c rfl
        rw [hb c List.mem_cons_self] at noBlank
        cases noBlank
    rw [XPath.attributeTerm?, noCall, Option.bind_none, cut]
    simp [trimChars_eq_iff.2 ⟨name.trimmed, padded⟩,
      trimChars_eq_iff.2 ⟨Enclosed.trimmed value, padded'⟩,
      attributeName?_eq_some.2 ⟨a, name, rfl, rfl⟩, unquote?_eq_some.2 value]
  | @contains a v quoted front back _ name value padded padded' call =>
    obtain rfl := call.eq_of_trimmed (trimmed_callText _ _) trimmed
    have cut := splitOnce?_append
      (padded.not_mem (name.not_mem (x := ',') (by decide) (by decide)) (by decide)) back
    rw [XPath.attributeTerm?, callText_eq, List.append_assoc, dropFront?_append, Option.bind_some,
      dropBack?_append]
    simp [cut, trimChars_eq_iff.2 ⟨name.trimmed, padded⟩,
      trimChars_eq_iff.2 ⟨Enclosed.trimmed value, padded'⟩,
      attributeName?_eq_some.2 ⟨a, name, rfl, rfl⟩, unquote?_eq_some.2 value]

/-- The name and the value of a test, as the reader finds them. -/
theorem exists_of_test {make : String → String → Term} {front back : List Char}
    (h : (do
      let name ← attributeName? (trimChars front)
      let value ← unquote? (trimChars back)
      return make name (String.ofList value)) = some t) :
    ∃ a v quoted, IsAttributeName a ∧ Enclosed v quoted ∧ Padded ('@' :: a) front ∧
      Padded quoted back ∧ t = make (String.ofList a) (String.ofList v) := by
  simp only [Option.bind_eq_bind, Option.bind_eq_some_iff, Option.pure_def, Option.some.injEq] at h
  obtain ⟨name, read, v, unquoted, rfl⟩ := h
  obtain ⟨a, named, shape, rfl⟩ := attributeName?_eq_some.1 read
  exact ⟨a, v, _, named, unquote?_eq_some.1 unquoted, shape ▸ padded_trimChars front,
    padded_trimChars back, rfl⟩

theorem spelled_of_attributeTerm? (h : attributeTerm? cs = some t) :
    t.Spelled .lenient cs ∧ t.isTest = true := by
  unfold attributeTerm? at h
  split at h
  · rename_i args call
    obtain ⟨rest, front, back⟩ := Option.bind_eq_some_iff.1 call
    obtain ⟨⟨front', back'⟩, cut, test⟩ := Option.bind_eq_some_iff.1 h
    obtain ⟨a, v, quoted, named, value, padded, padded', rfl⟩ := exists_of_test test
    have shape : cs = callText front' back' := by
      rw [dropFront?_eq_some.1 front, dropBack?_eq_some.1 back, (splitOnce?_eq_some.1 cut).1]
      exact (List.append_assoc _ _ _).symm
    exact ⟨.contains named value padded padded' (shape ▸ .refl _), rfl⟩
  · split at h
    · rename_i front back cut
      obtain ⟨a, v, quoted, named, value, padded, padded', rfl⟩ := exists_of_test h
      rw [(splitOnce?_eq_some.1 cut).1]
      exact ⟨.equals named value padded padded', rfl⟩
    · obtain ⟨name, read, rfl⟩ := Option.map_eq_some_iff.1 h
      obtain ⟨a, named, rfl, rfl⟩ := attributeName?_eq_some.1 read
      exact ⟨.has named (.refl _), rfl⟩

/-- What the reader makes of a term, apart from where it stands. -/
theorem Term.Spelled.readTerm? (h : t.Spelled .lenient cs) (filtered : Bool) :
    readTerm? filtered cs = if t.accepted filtered then some t else none := by
  have spelled := h.trimChars
  have trimmed := trimmed_trimChars cs
  rw [XPath.readTerm?]
  generalize Text.trimChars cs = core at spelled trimmed
  -- every test has an `@` and no number has one, so neither is taken for the other
  by_cases test : t.isTest = true
  · have noNumber : position? core = none := Option.eq_none_iff_forall_ne_some.2 fun n hn =>
      (signed_of_position? hn).1.at_not_mem (spelled.at_mem test)
    rw [noNumber, Term.accepted_of_isTest test, if_pos rfl]
    exact spelled.attributeTerm? trimmed test
  · cases spelled with
    | @position n ds _ number padded =>
      obtain rfl := padded.eq_of_trimmed (Signed.trimmed number) trimmed
      have noTest : XPath.attributeTerm? core = none :=
        Option.eq_none_iff_forall_ne_some.2 fun u hu =>
          Signed.at_not_mem number ((spelled_of_attributeTerm? hu).elim Term.Spelled.at_mem)
      rw [Signed.position? number, Term.accepted]
      by_cases fits : n < Nat.pow 2 64
      · cases filtered <;> by_cases zero : n = 0 <;> simp [fits, zero]
      · simp [fits, noTest]
    | has _ _ | equals _ _ _ _ | contains _ _ _ _ _ => exact absurd rfl test

theorem spelled_of_readTerm? {filtered : Bool} (h : readTerm? filtered cs = some t) :
    t.Spelled .lenient cs ∧ t.accepted filtered = true := by
  unfold readTerm? at h
  dsimp only at h
  split at h
  · rename_i n number
    obtain ⟨signed, fits⟩ := signed_of_position? number
    split at h
    · cases h
    · rename_i taken
      obtain rfl := Option.some.inj h
      rw [Bool.not_eq_true, Bool.or_eq_false_iff, beq_eq_false_iff_ne] at taken
      refine ⟨.position signed (padded_trimChars cs), ?_⟩
      simp [Term.accepted, taken, fits]
  · obtain ⟨spelled, test⟩ := spelled_of_attributeTerm? h
    exact ⟨spelled.of_padded (padded_trimChars cs), Term.accepted_of_isTest test filtered⟩

/-- What the reader makes of the pieces of a predicate. -/
theorem readTerms?_spelled {pieces : List (List Char)}
    (h : List.Forall₂ (Term.Spelled .lenient) ts pieces) (filtered : Bool) :
    readTerms? filtered pieces = if accepted filtered ts then some ts else none := by
  induction h generalizing filtered with
  | nil => rfl
  | @cons t piece ts pieces ht _ ih =>
    rw [readTerms?, ht.readTerm?, accepted]
    cases ha : t.accepted filtered
    · simp
    · cases hr : accepted (filtered || t.isTest) ts <;> simp [ih, hr]

theorem spelled_of_readTerms? {pieces : List (List Char)} {filtered : Bool}
    (h : readTerms? filtered pieces = some ts) :
    List.Forall₂ (Term.Spelled .lenient) ts pieces ∧ accepted filtered ts = true := by
  induction pieces generalizing filtered ts with
  | nil =>
    obtain rfl := Option.some.inj h
    exact ⟨.nil, rfl⟩
  | cons piece pieces ih =>
    simp only [readTerms?, Option.bind_eq_bind, Option.bind_eq_some_iff, Option.pure_def,
      Option.some.injEq] at h
    obtain ⟨t, first, ts, rest, rfl⟩ := h
    obtain ⟨spelled, taken⟩ := spelled_of_readTerm? first
    obtain ⟨others, takes⟩ := ih rest
    exact ⟨.cons spelled others, by rw [accepted, taken, takes]; rfl⟩

end Terms

/-! ## Predicates -/

/-- The text goes on with a predicate that has a character of several bytes outside quotes. -/
def Breaks (cs : List Char) : Prop :=
  ∃ predicate back : List Char, cs = '[' :: (predicate ++ ']' :: back) ∧ Closed none predicate ∧
    ¬ AsciiOutside none predicate

section Predicates

variable {ts : List Term} {ps : List (List Term)} {cs rest : List Char} {filtered : Bool}

theorem orUnsupported_eq_ok {α : Type} {x : Option α} {a : α} (h : orUnsupported x = .ok a) :
    x = some a := by
  cases x with
  | none => cases h
  | some b => rw [Except.ok.inj h]

theorem orUnsupported_ne_cut {α : Type} {x : Option α} :
    orUnsupported x ≠ .error .cutInsideCharacter := by
  cases x <;> simp [orUnsupported]

theorem readPredicates_of_head_ne (h : rest.head? ≠ some '[') (fuel : Nat) (filtered : Bool) :
    readPredicates fuel filtered rest = .ok ([], rest) :=
  readPredicates.eq_2 _ _ _ fun _ ds _ same => h (by rw [same]; rfl)

theorem readPredicates_of_breaks (h : Breaks rest) (fuel : Nat) (filtered : Bool) :
    readPredicates (fuel + 1) filtered rest = .error .cutInsideCharacter := by
  obtain ⟨predicate, back, rfl, closed, strays⟩ := h
  have cut := (splitAnd_eq_error closed (e := .cutInsideCharacter)).2 ⟨rfl, strays⟩
  rw [readPredicates, readPredicate?_append closed]
  simp [orUnsupported, bind, Except.bind, cut]

/-- What the reader makes of spelled predicates in front of a text. -/
theorem PredicatesSpelled.readPredicates (h : PredicatesSpelled .lenient ps cs) (fuel : Nat)
    (filtered : Bool) (rest : List Char) :
    readPredicates (ps.length + fuel) filtered (cs ++ rest) =
      if accepted filtered ps.flatten then
        (XPath.readPredicates fuel (filtered || ps.flatten.any Term.isTest) rest).map
          fun r => (ps ++ r.1, r.2)
      else .error .unsupported := by
  -- each predicate takes one unit of fuel, whatever its length
  induction h generalizing filtered with
  | nil =>
    rw [List.length_nil, Nat.zero_add, List.nil_append, List.flatten_nil, accepted, if_pos rfl,
      List.any_nil, Bool.or_false]
    cases XPath.readPredicates fuel filtered rest <;> rfl
  | @cons ts ps cs ds closed terms _ ih =>
    obtain ⟨pieces, cut, spelled⟩ := terms
    have shape : '[' :: (cs ++ ']' :: ds) ++ rest = '[' :: (cs ++ ']' :: (ds ++ rest)) := by simp
    have enough : (ts :: ps).length + fuel = ps.length + fuel + 1 := by
      rw [List.length_cons]
      omega
    rw [shape, enough, XPath.readPredicates, readPredicate?_append closed, List.flatten_cons,
      accepted_append, List.any_append, ← Bool.or_assoc]
    simp only [bind, Except.bind, orUnsupported, cut.splitAnd, readTerms?_spelled spelled]
    cases accepted filtered ts
    · rfl
    · simp only [if_true, ih, Bool.true_and]
      cases accepted (filtered || ts.any Term.isTest) ps.flatten
      · rfl
      · cases XPath.readPredicates fuel _ rest <;> rfl

/-- One predicate in front of others. -/
theorem spelled_cons {text front : List Char} {pieces : List (List Char)}
    (read : readPredicate? none cs = some (text, rest)) (cut : splitAnd none text = .ok pieces)
    (terms : readTerms? filtered pieces = some ts)
    (others : PredicatesSpelled .lenient ps front)
    (taken : accepted (filtered || ts.any Term.isTest) ps.flatten = true) :
    PredicatesSpelled .lenient (ts :: ps) ('[' :: (text ++ ']' :: front)) ∧
      accepted filtered (ts :: ps).flatten = true := by
  have closed := (readPredicate?_eq_some.1 read).2
  obtain ⟨spelled, first⟩ := spelled_of_readTerms? terms
  refine ⟨.cons closed ⟨pieces, (splitAnd_eq_ok closed).1 cut, spelled⟩ others, ?_⟩
  rw [List.flatten_cons, accepted_append, first, taken]
  rfl

theorem spelled_of_readPredicates {fuel : Nat}
    (h : readPredicates fuel filtered cs = .ok (ps, rest)) :
    ∃ front, cs = front ++ rest ∧ PredicatesSpelled .lenient ps front ∧
      accepted filtered ps.flatten = true := by
  induction fuel generalizing filtered cs ps with
  | zero =>
    obtain ⟨rfl, rfl⟩ := Prod.mk.inj (Except.ok.inj h)
    exact ⟨[], rfl, .nil, rfl⟩
  | succ fuel ih =>
    unfold readPredicates at h
    split at h
    · rename_i same
      obtain rfl := Nat.succ.inj same
      obtain ⟨⟨text, more⟩, read, h⟩ := bind_eq_ok.1 h
      obtain ⟨pieces, cut, h⟩ := bind_eq_ok.1 h
      obtain ⟨terms, parsed, h⟩ := bind_eq_ok.1 h
      obtain ⟨⟨others, after⟩, later, h⟩ := bind_eq_ok.1 h
      obtain ⟨rfl, rfl⟩ := Prod.mk.inj (Except.ok.inj h)
      obtain ⟨front, rfl, spelled, taken⟩ := ih later
      have predicate := orUnsupported_eq_ok read
      refine ⟨_, ?_, spelled_cons predicate cut (orUnsupported_eq_ok parsed) spelled taken⟩
      rw [(readPredicate?_eq_some.1 predicate).1]
      simp
    · obtain ⟨rfl, rfl⟩ := Prod.mk.inj (Except.ok.inj h)
      exact ⟨[], rfl, .nil, rfl⟩

/-- The reader breaks off behind predicates that it takes. -/
theorem breaks_of_readPredicates {fuel : Nat}
    (h : readPredicates fuel filtered cs = .error .cutInsideCharacter) :
    ∃ ps front rest, cs = front ++ rest ∧ PredicatesSpelled .lenient ps front ∧
      accepted filtered ps.flatten = true ∧ Breaks rest := by
  induction fuel generalizing filtered cs with
  | zero => cases h
  | succ fuel ih =>
    unfold readPredicates at h
    split at h
    · rename_i same
      obtain rfl := Nat.succ.inj same
      obtain read | ⟨⟨text, more⟩, read, inside⟩ := bind_eq_error.1 h
      · exact absurd read orUnsupported_ne_cut
      have predicate := orUnsupported_eq_ok read
      obtain ⟨rfl, closed⟩ := readPredicate?_eq_some.1 predicate
      obtain strays | ⟨pieces, cut, inside⟩ := bind_eq_error.1 inside
      · have breaks := ((splitAnd_eq_error closed).1 strays).2
        exact ⟨[], [], _, rfl, .nil, rfl, text, more, rfl, closed, breaks⟩
      obtain parsed | ⟨terms, parsed, behind⟩ := bind_eq_error.1 inside
      · exact absurd parsed orUnsupported_ne_cut
      obtain later | ⟨_, _, none⟩ := bind_eq_error.1 behind
      · obtain ⟨ps, front, rest, rfl, spelled, taken, breaks⟩ := ih later
        obtain ⟨first, takes⟩ :=
          spelled_cons predicate cut (orUnsupported_eq_ok parsed) spelled taken
        exact ⟨terms :: ps, _, rest, by simp, first, takes, breaks⟩
      · cases none
    · cases h

end Predicates

end PageHarvest.XPath
