import PageHarvest.Proofs.XPath.Agreement

/-!
# The selectors of written paths

`Path.Selector p cs` says that the characters `cs` are the selector of the path `p`, independently
of how selectors are put together: the names with ` > ` or a space between them, `:root` behind the
first name of a path from the top, and one condition for each term, with values in double quotes.

A written path whose steps have their positions in front of their tests has this selector and no
other outcome (`toCss_translates`), whatever stands in its values.
-/

namespace PageHarvest.XPath

/-- Backslashes and double quotes have a backslash in front. -/
inductive Escaped : List Char → List Char → Prop
  | nil : Escaped [] []
  | marked {c : Char} {v w : List Char} : c = '\\' ∨ c = '"' → Escaped v w →
      Escaped (c :: v) ('\\' :: c :: w)
  | plain {c : Char} {v w : List Char} : c ≠ '\\' → c ≠ '"' → Escaped v w →
      Escaped (c :: v) (c :: w)

/-- The condition for a term on an element named `e`. -/
inductive Term.Selector (e : String) : Term → List Char → Prop
  | child {n : Nat} : e = "*" →
      Selector e (.position n) (":nth-child(".toList ++ (Nat.toDigits 10 n ++ [')']))
  | ofType {n : Nat} : e ≠ "*" →
      Selector e (.position n) (":nth-of-type(".toList ++ (Nat.toDigits 10 n ++ [')']))
  | has {a : String} : Selector e (.has a) ('[' :: (a.toList ++ [']']))
  | equals {a v : String} {w : List Char} : Escaped v.toList w →
      Selector e (.equals a v) ('[' :: (a.toList ++ ('=' :: '"' :: (w ++ ['"', ']']))))
  | contains {a v : String} {w : List Char} : Escaped v.toList w →
      Selector e (.contains a v)
        ('[' :: (a.toList ++ ('*' :: '=' :: '"' :: (w ++ ['"', ']']))))

inductive TermsSelector (e : String) : List Term → List Char → Prop
  | nil : TermsSelector e [] []
  | cons {t : Term} {ts : List Term} {cs ds : List Char} : t.Selector e cs →
      TermsSelector e ts ds → TermsSelector e (t :: ts) (cs ++ ds)

/-- A name with its conditions, and `mark` in between. -/
inductive Step.Selector (mark : List Char) (s : Step) : List Char → Prop
  | mk {cs : List Char} : TermsSelector s.name s.terms cs →
      Selector mark s (s.name.toList ++ (mark ++ cs))

inductive StepsSelector : List (Axis × Step) → List Char → Prop
  | nil : StepsSelector [] []
  | child {s : Step} {rest : List (Axis × Step)} {cs ds : List Char} : s.Selector [] cs →
      StepsSelector rest ds → StepsSelector ((.child, s) :: rest) (" > ".toList ++ (cs ++ ds))
  | descendant {s : Step} {rest : List (Axis × Step)} {cs ds : List Char} : s.Selector [] cs →
      StepsSelector rest ds → StepsSelector ((.descendant, s) :: rest) (" ".toList ++ (cs ++ ds))

inductive Path.Selector : Path → List Char → Prop
  | top {s : Step} {rest : List (Axis × Step)} {cs ds : List Char} :
      s.Selector ":root".toList cs → StepsSelector rest ds → Selector ⟨.top, s, rest⟩ (cs ++ ds)
  | within {a : Anchor} {s : Step} {rest : List (Axis × Step)} {cs ds : List Char} : a ≠ .top →
      s.Selector [] cs → StepsSelector rest ds → Selector ⟨a, s, rest⟩ (cs ++ ds)

/-- The positions of a step come first, and each can be counted to. -/
def Step.IsOrdered (s : Step) : Prop :=
  ∃ (ns : List Nat) (tests : List Term), s.terms = ns.map Term.position ++ tests ∧
    (∀ n ∈ ns, 0 < n ∧ n < Nat.pow 2 64) ∧ ∀ t ∈ tests, t.isTest = true

/-! ## One selector for each path -/

section Selector

variable {t : Term} {ts : List Term} {e : String} {s : Step} {steps : List (Axis × Step)}
  {p : Path} {v cs : List Char}

theorem escaped_iff : Escaped v cs ↔ cs = escapeValue v := by
  constructor
  · intro h
    induction h with
    | nil => rfl
    | marked mark _ ih =>
      rw [ih, escapeValue_cons, if_pos mark]
      rfl
    | plain noSlash noQuote _ ih =>
      rw [ih, escapeValue_cons, if_neg (not_or.2 ⟨noSlash, noQuote⟩)]
      rfl
  · rintro rfl
    induction v with
    | nil => exact .nil
    | cons c v ih =>
      rw [escapeValue_cons]
      by_cases mark : c = '\\' ∨ c = '"'
      · rw [if_pos mark]
        exact .marked mark ih
      · rw [if_neg mark]
        exact .plain (fun h => mark (.inl h)) (fun h => mark (.inr h)) ih

theorem Term.selector_iff : t.Selector e cs ↔ cs = (t.toCss e).toList := by
  constructor
  · intro h
    cases h with
    | child star => simp [Term.toCss, star]
    | ofType noStar => simp [Term.toCss, noStar]
    | has => simp [Term.toCss]
    | equals value | contains value => simp [Term.toCss, quotedValue, escaped_iff.1 value]
  · rintro rfl
    cases t with
    | position n =>
      by_cases star : e = "*"
      · simpa [Term.toCss, star] using Selector.child (n := n) star
      · simpa [Term.toCss, star] using Selector.ofType (n := n) star
    | has a => simpa [Term.toCss] using Selector.has (e := e) (a := a)
    | equals a v =>
      simpa [Term.toCss, quotedValue] using
        Selector.equals (e := e) (a := a) (escaped_iff.2 rfl)
    | contains a v =>
      simpa [Term.toCss, quotedValue] using
        Selector.contains (e := e) (a := a) (escaped_iff.2 rfl)

theorem termsSelector_iff : TermsSelector e ts cs ↔ cs = conditionsText e ts := by
  constructor
  · intro h
    induction h with
    | nil => rfl
    | cons first _ ih => rw [Term.selector_iff.1 first, ih]; rfl
  · rintro rfl
    induction ts with
    | nil => exact .nil
    | cons t ts ih => exact .cons (Term.selector_iff.2 rfl) ih

theorem Step.selector_iff (root : Bool) :
    s.Selector (if root then ":root".toList else []) cs ↔ cs = s.text root := by
  constructor
  · rintro ⟨terms⟩
    rw [termsSelector_iff.1 terms]
    rfl
  · rintro rfl
    exact .mk (termsSelector_iff.2 rfl)

theorem stepsSelector_iff : StepsSelector steps cs ↔ cs = steps.flatMap stepText := by
  constructor
  · intro h
    induction h with
    | nil => rfl
    | child step _ ih | descendant step _ ih =>
      rw [(Step.selector_iff false).1 step, ih, ← List.append_assoc]
      rfl
  · rintro rfl
    induction steps with
    | nil => exact .nil
    | cons s steps ih =>
      obtain ⟨axis, s⟩ := s
      rw [List.flatMap_cons, stepText, List.append_assoc]
      cases axis with
      | child => exact .child ((Step.selector_iff false).2 rfl) ih
      | descendant => exact .descendant ((Step.selector_iff false).2 rfl) ih

theorem Path.selector_iff : p.Selector cs ↔ cs = p.toCss.toList := by
  rw [Path.toList_toCss]
  constructor
  · intro h
    cases h with
    | top first later =>
      rw [(Step.selector_iff true).1 first, stepsSelector_iff.1 later]
      rfl
    | within noTop first later =>
      rw [(Step.selector_iff false).1 first, stepsSelector_iff.1 later]
      simp [noTop]
  · rintro rfl
    obtain ⟨a, s, rest⟩ := p
    by_cases top : a = .top
    · subst top
      exact .top ((Step.selector_iff true).2 rfl) (stepsSelector_iff.2 rfl)
    · have first := (Step.selector_iff (s := s) false).2 rfl
      simpa [top] using Selector.within top first (stepsSelector_iff.2 rfl)

end Selector

/-! ## Steps that are taken -/

section Ordered

variable {s : Step} {ns : List Nat} {tests : List Term}

theorem accepted_of_tests (h : ∀ t ∈ tests, t.isTest = true) (filtered : Bool) :
    accepted filtered tests = true := by
  induction tests generalizing filtered with
  | nil => rfl
  | cons t tests ih =>
    obtain ⟨first, rest⟩ := List.forall_mem_cons.1 h
    rw [accepted, Term.accepted_of_isTest first, ih rest]
    rfl

theorem accepted_of_positions (h : ∀ n ∈ ns, 0 < n ∧ n < Nat.pow 2 64) :
    accepted false (ns.map Term.position) = true := by
  induction ns with
  | nil => rfl
  | cons n ns ih =>
    obtain ⟨⟨some, fits⟩, rest⟩ := List.forall_mem_cons.1 h
    have first : (Term.position n).accepted false = true := by
      simpa [Term.accepted, Nat.pos_iff_ne_zero.1 some] using fits
    rw [List.map_cons, accepted, first]
    exact ih rest

theorem Step.IsOrdered.accepted (h : s.IsOrdered) : s.accepted = true := by
  obtain ⟨ns, tests, terms, positions, isTest⟩ := h
  unfold Step.terms at terms
  rw [Step.accepted, terms, accepted_append, accepted_of_positions positions,
    accepted_of_tests isTest]
  rfl

end Ordered

/-- A written path with its positions in front has exactly the selector that it should have. -/
theorem toCss_translates {p : Path} {x : String} (written : p.Written x.toList)
    (ordered : ∀ s ∈ p.steps, s.IsOrdered) :
    ∃ css, toCss x = .ok css ∧ ∀ cs, p.Selector cs ↔ cs = css.toList := by
  have taken : p.accepted = true := Path.accepted_iff.2 fun s hs => (ordered s hs).accepted
  exact ⟨p.toCss, (toCss_eq_ok written).2 ⟨taken, rfl⟩, fun cs => Path.selector_iff⟩

/-- The values of two steps hold brackets, a joint, the other quote, marks of tests and a character
of several bytes. -/
theorem toCss_translates_marks :
    toCss "/a[2][@b='] and \"\\']//*[1 and contains(@c:d, \"é',=[\")]" =
      .ok "a:root:nth-of-type(2)[b=\"] and \\\"\\\\\"] *:nth-child(1)[c:d*=\"é',=[\"]" := by
  have none : Blanks [] := fun _ h => absurd h List.not_mem_nil
  have blank : Blanks [' '] := fun c hc => .inl (List.mem_singleton.1 hc)
  have digit (d : Char) (h : Text.isAsciiDigit d = true) :
      Term.Written (.position (decimal [d])) [d] :=
    .position (List.cons_ne_nil d []) (by simpa using h)
  have equals := Term.Written.equals (a := ['b'])
    ⟨List.cons_ne_nil _ _, List.all_eq_true.1 rfl⟩
    (.mk (v := [']', ' ', 'a', 'n', 'd', ' ', '"', '\\']) (q := '\'') rfl (by decide)) none none
  have contains := Term.Written.contains (a := ['c', ':', 'd'])
    ⟨List.cons_ne_nil _ _, List.all_eq_true.1 rfl⟩
    (.mk (v := ['é', '\'', ',', '=', '[']) (q := '"') rfl (by decide)) none none blank none
  have first : Step.Written _ _ := .mk (n := ['a']) (.inr ⟨List.cons_ne_nil _ _, by simp; decide⟩)
    (.cons (.one (digit '2' rfl) none none) (.cons (.one equals none none) .nil))
  have second : Step.Written _ _ := .mk (n := ['*']) (.inl rfl)
    (.cons (.more (digit '1' rfl) none none (.one contains none none)) .nil)
  have written := Path.Written.mk (a := .top) first (.descendant second .nil) none.allBlank
    none.allBlank
  obtain ⟨css, ok, same⟩ := toCss_translates
    (x := "/a[2][@b='] and \"\\']//*[1 and contains(@c:d, \"é',=[\")]") written fun s hs => by
      rcases List.mem_cons.1 hs with rfl | hs
      · exact ⟨[2], [_], rfl, by decide, List.forall_mem_singleton.2 rfl⟩
      · obtain rfl := List.mem_singleton.1 hs
        exact ⟨[1], [_], rfl, by decide, List.forall_mem_singleton.2 rfl⟩
  have shown : "a:root:nth-of-type(2)[b=\"] and \\\"\\\\\"] *:nth-child(1)[c:d*=\"é',=[\"]" = css :=
    String.toList_inj.1 ((same _).1 (Path.selector_iff.2 rfl))
  rw [ok, shown]

end PageHarvest.XPath
