import PageHarvest.Proofs.Text.Printable
import PageHarvest.Proofs.XPath.Spelled

/-!
# Written paths are spelled

A written path has the documented spelling. What there is to show is that the scans for brackets and
joints find nothing in a written term: it `Passes`, that is, outside quotes it has neither
brackets nor characters of several bytes, and no blank in front of the letter a joint goes on with.
-/

namespace PageHarvest.XPath

open Text

/-- A character that both scans pass by outside of quotes. -/
def isInert (c : Char) : Bool := isAscii c && !isQuote c && c != '[' && c != ']'

/-- Texts that neither scan stops at, whatever follows them but the letter `a`. -/
def Passes : List Char → Prop :=
  Outside (fun c cs => isInert c = true ∧ (c = ' ' → cs.head? ≠ some 'a')) none

theorem isInert_ascii {c : Char} (h : isInert c = true) : isAscii c = true := by
  simp only [isInert, Bool.and_eq_true] at h
  exact h.1.1.1

theorem isInert_quote {c : Char} (h : isInert c = true) : isQuote c = false := by
  simp only [isInert, Bool.and_eq_true] at h
  simpa using h.1.1.2

theorem isInert_ne {c : Char} (h : isInert c = true) : c ≠ '[' ∧ c ≠ ']' := by
  simp only [isInert, Bool.and_eq_true, bne_iff_ne] at h
  exact ⟨h.1.2, h.2⟩

/-! ## Characters -/

theorem printable_of_isAttributeChar {c : Char} (h : isAttributeChar c = true) : Printable c := by
  unfold isAttributeChar at h
  simp only [Bool.or_eq_true, decide_eq_true_eq] at h
  rcases h with (((h | h) | rfl) | rfl) | rfl
  · exact printable_of_isAsciiLetter h
  · exact printable_of_isAsciiDigit h
  all_goals exact ⟨by decide, by decide⟩

theorem isInert_of_printable {c : Char} (hp : Printable c) (h1 : c ≠ '\'') (h2 : c ≠ '"')
    (h3 : c ≠ '[') (h4 : c ≠ ']') : isInert c = true := by
  simp [isInert, hp.isAscii, isQuote, h1, h2, h3, h4]

theorem isInert_of_isAttributeChar {c : Char} (h : isAttributeChar c = true) :
    isInert c = true ∧ c ≠ ' ' :=
  ⟨isInert_of_printable (printable_of_isAttributeChar h) (ne_of_test h rfl) (ne_of_test h rfl)
    (ne_of_test h rfl) (ne_of_test h rfl), ne_of_test h rfl⟩

theorem isInert_of_isAsciiDigit {c : Char} (h : isAsciiDigit c = true) :
    isInert c = true ∧ c ≠ ' ' :=
  ⟨isInert_of_printable (printable_of_isAsciiDigit h) (ne_of_test h rfl) (ne_of_test h rfl)
    (ne_of_test h rfl) (ne_of_test h rfl), ne_of_test h rfl⟩

theorem Blanks.allBlank {b : List Char} (h : Blanks b) : AllBlank b := by
  intro c hc
  rcases h c hc with rfl | rfl | rfl | rfl <;> decide

theorem isInert_of_blanks {b : List Char} (hb : Blanks b) :
    ∀ c ∈ b, isInert c = true ∧ c ≠ 'a' := by
  intro c hc
  rcases hb c hc with rfl | rfl | rfl | rfl <;> exact ⟨by decide, by decide⟩

/-! ## Texts that pass -/

section Passing

variable {t : Term} {ts : List Term} {a v cs ds b b' : List Char}

theorem head_ne_append {x : Char} (h : cs.head? ≠ some x) (h' : ds.head? ≠ some x) :
    (cs ++ ds).head? ≠ some x := by
  cases cs with
  | nil => exact h'
  | cons c cs => exact h

theorem Passes.cons {c : Char} (hc : isInert c = true) (hs : c = ' ' → cs.head? ≠ some 'a')
    (h : Passes cs) : Passes (c :: cs) :=
  .bare (isInert_quote hc) ⟨hc, hs⟩ h

theorem Passes.append (h : Passes cs) (hd : Passes ds) (ha : ds.head? ≠ some 'a') :
    Passes (cs ++ ds) :=
  Outside.append h hd fun _ _ ⟨hc, hs⟩ => ⟨hc, fun e => head_ne_append (hs e) ha⟩

theorem Passes.closed (h : Passes cs) : Closed none cs :=
  h.imp fun _ _ hc => isInert_ne hc.1

theorem Passes.uncut (h : Passes cs) {back : List Char} (ha : back.head? ≠ some 'a') :
    Uncut back none cs := by
  refine h.imp fun c cs ⟨hc, hs⟩ => ⟨isInert_ascii hc, ?_⟩
  rintro ⟨rest, same⟩
  obtain ⟨blank, same⟩ := List.cons.inj same
  have goes : (cs ++ back).head? = some 'a' := by rw [← same]; rfl
  exact head_ne_append (hs blank.symm) ha goes

/-- Characters without a space among them. -/
theorem passes_of_all (h : ∀ c ∈ cs, isInert c = true ∧ c ≠ ' ') : Passes cs :=
  (outside_of_all fun c hc => ⟨isInert_quote (h c hc).1, h c hc⟩).imp
    fun _ _ hc => ⟨hc.1, fun e => absurd e hc.2⟩

theorem passes_of_text (h : cs.all (fun c => isInert c && c != ' ') = true) : Passes cs :=
  passes_of_all fun c hc => by simpa using List.all_eq_true.1 h c hc

theorem Blanks.head_ne (h : Blanks cs) : cs.head? ≠ some 'a' := by
  intro e
  exact (isInert_of_blanks h 'a' (List.mem_of_mem_head? e)).2 rfl

theorem passes_of_blanks (hb : Blanks b) : Passes b := by
  induction b with
  | nil => exact .nil
  | cons c b ih =>
    have rest : Blanks b := fun x hx => hb x (List.mem_cons_of_mem _ hx)
    exact .cons (isInert_of_blanks hb c List.mem_cons_self).1 (fun _ => rest.head_ne) (ih rest)

theorem passes_quoted (h : Quoted v cs) : Passes cs := by
  obtain ⟨hq, hv⟩ := h
  exact .value hq hv .nil

theorem isQuote_iff {q : Char} : isQuote q = true ↔ q = '\'' ∨ q = '"' := by
  simp [isQuote]

theorem Quoted.head_ne (h : Quoted v cs) : cs.head? ≠ some 'a' := by
  obtain ⟨hq, _⟩ := h
  rcases isQuote_iff.1 hq with rfl | rfl <;> simp

theorem IsAttributeName.passes (h : IsAttributeName a) : Passes ('@' :: a) :=
  .cons (by decide) (fun e => absurd e (by decide))
    (passes_of_all fun c hc => isInert_of_isAttributeChar (h.2 c hc))

namespace Term.Written

/-- No term begins with the letter that ends a joint's blank. -/
theorem head_ne (h : t.Written cs) : cs.head? ≠ some 'a' := by
  cases h with
  | position hne hd =>
    obtain ⟨d, ds, rfl⟩ := List.exists_cons_of_ne_nil hne
    have hc : d ≠ 'a' := ne_of_test (hd d List.mem_cons_self) rfl
    simpa using hc
  | has _ => simp
  | equals _ _ _ _ => simp
  | contains _ _ _ _ _ _ => simp

theorem passes (h : t.Written cs) : Passes cs := by
  cases h with
  | position _ hd => exact passes_of_all fun c hc => isInert_of_isAsciiDigit (hd c hc)
  | has ha => exact ha.passes
  | equals ha hq hb hb' =>
    refine (ha.passes.append (passes_of_blanks hb) (Blanks.head_ne hb)).append ?_ (by simp)
    refine .cons (by decide) (fun e => absurd e (by decide)) ?_
    exact (passes_of_blanks hb').append (passes_quoted hq) hq.head_ne
  | @contains a v cs b₁ b₂ b₃ b₄ ha hq h1 h2 h3 h4 =>
    have name : Passes (b₁ ++ '@' :: a ++ b₂) :=
      ((passes_of_blanks h1).append ha.passes (by simp)).append (passes_of_blanks h2) h2.head_ne
    have value : Passes (b₃ ++ cs ++ b₄) :=
      ((passes_of_blanks h3).append (passes_quoted hq) hq.head_ne).append (passes_of_blanks h4)
        h4.head_ne
    have comma : Passes (',' :: (b₃ ++ cs ++ b₄)) :=
      .cons (by decide) (fun e => absurd e (by decide)) value
    have call : Passes "contains(".toList := passes_of_text rfl
    have close : Passes [')'] := passes_of_text rfl
    refine (call.append (name.append comma (by simp)) ?_).append close (by simp)
    exact head_ne_append (head_ne_append (head_ne_append h1.head_ne (by simp)) h2.head_ne) (by simp)

theorem passes_padded (h : t.Written cs) (hb : Blanks b) (hb' : Blanks b') :
    Passes (b ++ (cs ++ b')) :=
  (passes_of_blanks hb).append (h.passes.append (passes_of_blanks hb') hb'.head_ne)
    (head_ne_append h.head_ne hb'.head_ne)

theorem spelled (h : t.Written cs) (hb : Blanks b) (hb' : Blanks b') :
    t.Spelled .documented (b ++ (cs ++ b')) := by
  have padded (cs : List Char) {b b' : List Char} (hb : Blanks b) (hb' : Blanks b') :
      Padded cs (b ++ (cs ++ b')) := ⟨b, b', hb.allBlank, hb'.allBlank, rfl⟩
  cases h with
  | position some digits => exact .position (Digits.mk some digits) (padded _ hb hb')
  | has name => exact .has name (padded _ hb hb')
  | @equals a v cs b₁ b₂ name value h1 h2 =>
    have shape : b ++ ('@' :: a ++ b₁ ++ '=' :: (b₂ ++ cs) ++ b') =
        b ++ ('@' :: a ++ b₁) ++ '=' :: (b₂ ++ (cs ++ b')) := by simp
    rw [shape]
    exact .equals name value (padded _ hb h1) (padded _ h2 hb')
  | @contains a v cs b₁ b₂ b₃ b₄ name value h1 h2 h3 h4 =>
    have shape : "contains(".toList ++ (b₁ ++ '@' :: a ++ b₂ ++ ',' :: (b₃ ++ cs ++ b₄)) ++ [')'] =
        callText (b₁ ++ ('@' :: a ++ b₂)) (b₃ ++ (cs ++ b₄)) := by
      rw [callText_eq]
      simp only [List.append_assoc]
    rw [shape]
    exact .contains name value (padded _ h1 h2) (padded _ h3 h4) (padded _ hb hb')

end Term.Written

end Passing

/-! ## Predicates, steps and paths -/

section Paths

variable {ts : List Term} {ps : List (List Term)} {s : Step} {steps : List (Axis × Step)}
  {cs ds : List Char}

theorem TermsWritten.closed (h : TermsWritten ts cs) : Closed none cs := by
  induction h with
  | one term hb hb' => exact (term.passes_padded hb hb').closed
  | more term hb hb' _ ih =>
    exact (term.passes_padded hb hb').closed.append (closed_joint.append ih)

theorem TermsWritten.spelled (h : TermsWritten ts cs) : TermsSpelled .documented ts cs := by
  induction h with
  | one term hb hb' =>
    have uncut : Uncut [] none _ := (term.passes_padded hb hb').uncut (by simp)
    exact ⟨_, .last uncut, .cons (term.spelled hb hb') .nil⟩
  | @more t ts cs ds b b' term hb hb' _ ih =>
    obtain ⟨pieces, cut, spelled⟩ := ih
    have uncut : Uncut (joint ++ ds) none _ :=
      (term.passes_padded hb hb').uncut (by simp [joint])
    exact ⟨_, .more uncut cut, .cons (term.spelled hb hb') spelled⟩

theorem PredicatesWritten.spelled (h : PredicatesWritten ps cs) :
    PredicatesSpelled .documented ps cs := by
  induction h with
  | nil => exact .nil
  | cons terms _ ih => exact .cons terms.closed terms.spelled ih

theorem Step.Written.spelled (h : s.Written cs) : s.Spelled .documented cs := by
  obtain ⟨name, predicates⟩ := h
  exact .mk name predicates.spelled

theorem StepsWritten.spelled (h : StepsWritten steps ds) : StepsSpelled .documented steps ds := by
  induction h with
  | nil => exact .nil
  | child step _ ih => exact .cons step.spelled ih
  | descendant step _ ih => exact .cons step.spelled ih

end Paths

end PageHarvest.XPath
