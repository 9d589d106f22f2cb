import PageHarvest.Proofs.XPath.TermReading

/-!
# What the reader of paths takes

The reader takes the texts with the lenient spelling of a path whose steps it takes (`accepted`).

* `Path.read_spelled`, `Path.spelled_of_read`: a spelled path is read as itself or is `unsupported`,
  and what is read is a spelled path;
* `Path.read_breaks`, `Path.breaksOff_of_read`: the reader breaks off in the first predicate with a
  character of several bytes outside quotes, if it takes what stands in front of it;
* `Path.read_written`, `toCss_eq_ok`: what that means for written paths;
* `toCss_outcome`: what becomes of a text.
-/

namespace PageHarvest.XPath

open Text

/-! ## Steps -/

def Step.accepted (s : Step) : Bool := XPath.accepted false s.predicates.flatten

section Steps

variable {w : Spelling} {n : List Char} {s : Step} {steps : List (Axis × Step)}
  {ps : List (List Term)} {cs ds rest : List Char} {fuel : Nat}

theorem IsElementName.all (h : IsElementName n) : ∀ c ∈ n, isNameChar c = true := by
  rcases h with rfl | ⟨_, h⟩
  · intro c hc
    rw [List.mem_singleton.1 hc]
    rfl
  · exact fun c hc => (h c hc).1

theorem IsElementName.ne_nil (h : IsElementName n) : n ≠ [] := by
  rcases h with rfl | ⟨h, _⟩
  · exact List.cons_ne_nil _ _
  · exact h

/-- A star stands alone. -/
theorem IsElementName.star (h : IsElementName n) : (n.contains '*' && n != ['*']) = false := by
  rcases h with rfl | ⟨_, h⟩
  · rfl
  · have noStar : '*' ∉ n := fun hm => (h '*' hm).2 rfl
    simp [noStar]

theorem isElementName_of_taken (chars : ∀ c ∈ n, isNameChar c = true)
    (h : (n.isEmpty || (n.contains '*' && n != ['*'])) = false) : IsElementName n := by
  simp only [Bool.or_eq_false_iff, List.isEmpty_eq_false_iff, Bool.and_eq_false_iff,
    bne_eq_false_iff_eq] at h
  obtain ⟨some, noStar | star⟩ := h
  · refine .inr ⟨some, fun c hc => ⟨chars c hc, ?_⟩⟩
    rintro rfl
    simp [hc] at noStar
  · exact .inl star

theorem PredicatesSpelled.head (h : PredicatesSpelled w ps cs) : ∀ c ∈ cs.head?, c = '[' := by
  cases h with
  | nil => exact fun _ h => nomatch h
  | cons _ _ _ => simp

theorem PredicatesSpelled.length_le (h : PredicatesSpelled w ps cs) : ps.length ≤ cs.length := by
  induction h with
  | nil => exact Nat.le_refl _
  | cons _ _ _ ih =>
    simp only [List.length_cons, List.length_append]
    omega

theorem StepsSpelled.head (h : StepsSpelled w steps ds) : ∀ c ∈ ds.head?, c = '/' := by
  cases h with
  | nil => exact fun _ h => nomatch h
  | @cons axis => cases axis <;> simp [Axis.mark]

theorem Step.Spelled.head (h : s.Spelled w cs) :
    ∃ c more, cs = c :: more ∧ isNameChar c = true := by
  obtain ⟨hn, _⟩ := h
  obtain ⟨c, n, rfl⟩ := List.exists_cons_of_ne_nil hn.ne_nil
  exact ⟨c, _, rfl, hn.all c List.mem_cons_self⟩

theorem Breaks.head (h : Breaks rest) : ∀ c ∈ rest.head?, c = '[' := by
  obtain ⟨_, _, rfl, _⟩ := h
  simp

/-- What the reader makes of a step in front of a text that does not go on with its name. -/
theorem Step.Spelled.readStep_append (h : s.Spelled .lenient cs)
    (hr : ∀ c ∈ rest.head?, isNameChar c = false) :
    ∃ fuel, rest.length ≤ fuel ∧ readStep (cs ++ rest) =
      if s.accepted then
        (readPredicates fuel (s.predicates.flatten.any Term.isTest) rest).map
          fun r => (⟨s.name, s.predicates ++ r.1⟩, r.2)
      else .error .unsupported := by
  obtain ⟨hn, hp⟩ := h
  rename_i n cs ps
  have stop : ∀ c ∈ (cs ++ rest).head?, isNameChar c = false := by
    intro c hc
    cases cs with
    | nil => exact hr c hc
    | cons x cs =>
      rw [hp.head c hc]
      rfl
  obtain ⟨taken, dropped⟩ := takeWhile_append hn.all stop
  have named : n.isEmpty = false := by simpa using hn.ne_nil
  have enough : (cs ++ rest).length = ps.length + (cs.length - ps.length + rest.length) := by
    have := hp.length_le
    rw [List.length_append]
    omega
  refine ⟨cs.length - ps.length + rest.length, by omega, ?_⟩
  rw [readStep, List.append_assoc, taken, dropped]
  simp only [named, hn.star, Bool.or_self, Bool.false_eq_true, if_false]
  rw [enough, hp.readPredicates, Step.accepted, Bool.false_or]
  cases XPath.accepted false ps.flatten
  · rfl
  · simp only [if_true]
    cases readPredicates _ (ps.flatten.any Term.isTest) rest <;> rfl

/-- What the reader makes of a step that the next step, or the end of the path, follows. -/
theorem Step.Spelled.readStep (h : s.Spelled .lenient cs) (hr : ∀ c ∈ rest.head?, c = '/') :
    readStep (cs ++ rest) = if s.accepted then .ok (s, rest) else .error .unsupported := by
  obtain ⟨fuel, _, read⟩ := h.readStep_append fun c hc => (hr c hc).symm ▸ rfl
  have bracket : rest.head? ≠ some '[' := fun e => absurd (hr _ e) (by decide)
  rw [read, readPredicates_of_head_ne bracket]
  simp [Except.map]

theorem Step.Spelled.readStep_breaks (h : s.Spelled .lenient cs) (taken : s.accepted = true)
    (hr : Breaks rest) : XPath.readStep (cs ++ rest) = .error .cutInsideCharacter := by
  obtain ⟨fuel, enough, read⟩ := h.readStep_append fun c hc => (hr.head c hc).symm ▸ rfl
  cases fuel with
  | zero =>
    obtain ⟨_, _, rfl, _⟩ := hr
    simp at enough
  | succ fuel =>
    rw [read, if_pos taken, readPredicates_of_breaks hr]
    rfl

theorem spelled_of_readStep (h : readStep cs = .ok (s, rest)) :
    ∃ front, cs = front ++ rest ∧ s.Spelled .lenient front ∧ s.accepted = true := by
  unfold readStep at h
  dsimp only at h
  split at h
  · cases h
  · rename_i name
    obtain ⟨⟨ps, after⟩, read, h⟩ := bind_eq_ok.1 h
    obtain ⟨rfl, rfl⟩ := Prod.mk.inj (Except.ok.inj h)
    obtain ⟨front, shape, spelled, taken⟩ := spelled_of_readPredicates read
    have named := isElementName_of_taken (fun c hc => List.mem_takeWhile_imp hc)
      (Bool.eq_false_iff.2 name)
    refine ⟨_, ?_, .mk named spelled, taken⟩
    rw [List.append_assoc, ← shape, List.takeWhile_append_dropWhile]

theorem breaks_of_readStep (h : readStep cs = .error .cutInsideCharacter) :
    ∃ s front rest, cs = front ++ rest ∧ Step.Spelled .lenient s front ∧ s.accepted = true ∧
      Breaks rest := by
  unfold readStep at h
  dsimp only at h
  split at h
  · cases h
  · rename_i name
    obtain read | ⟨_, _, none⟩ := bind_eq_error.1 h
    · obtain ⟨ps, front, rest, shape, spelled, taken, breaks⟩ := breaks_of_readPredicates read
      have named := isElementName_of_taken (fun c hc => List.mem_takeWhile_imp hc)
        (Bool.eq_false_iff.2 name)
      refine ⟨_, _, rest, ?_, .mk named spelled, taken, breaks⟩
      rw [List.append_assoc, ← shape, List.takeWhile_append_dropWhile]
    · cases none

/-! The steps after the first one. -/

theorem readSteps_mark (axis : Axis) (h : ∀ c ∈ cs.head?, c ≠ '/') (fuel : Nat) :
    readSteps (fuel + 1) (axis.mark ++ cs) = (do
      let (s, rest) ← XPath.readStep cs
      return (axis, s) :: (← readSteps fuel rest)) := by
  cases axis with
  | child =>
    refine readSteps.eq_3 _ _ fun rest same => h '/' ?_ rfl
    rw [show cs = '/' :: rest from same]
    rfl
  | descendant => rfl

/-- The reader goes on at the mark of an axis only. -/
theorem readSteps_cases (fuel : Nat) (cs : List Char) :
    cs = [] ∨ readSteps fuel cs = .error .unsupported ∨
      ∃ fuel' axis more, cs = Axis.mark axis ++ more ∧ fuel = fuel' + 1 ∧
        readSteps fuel cs = (do
          let (s, rest) ← XPath.readStep more
          return (axis, s) :: (← readSteps fuel' rest)) := by
  rw [readSteps.eq_def]
  split
  · exact .inl rfl
  · exact .inr (.inr ⟨_, .descendant, _, rfl, rfl, rfl⟩)
  · exact .inr (.inr ⟨_, .child, _, rfl, rfl, rfl⟩)
  · exact .inr (.inl rfl)

theorem StepsSpelled.readSteps (h : StepsSpelled .lenient steps ds) (hf : ds.length ≤ fuel) :
    readSteps fuel ds =
      if steps.all fun s => s.2.accepted then .ok steps else .error .unsupported := by
  induction h generalizing fuel with
  | nil => rw [XPath.readSteps.eq_1]; rfl
  | @cons axis s rest cs ds step later ih =>
    obtain ⟨c, more, rfl, name⟩ := step.head
    have slash : ∀ x ∈ (c :: more ++ ds).head?, x ≠ '/' := by
      rintro x ⟨⟩
      exact ne_of_test name rfl
    cases fuel with
    | zero => simp at hf
    | succ fuel =>
      simp only [List.length_append, List.length_cons] at hf
      rw [readSteps_mark axis slash, step.readStep later.head]
      cases taken : s.accepted
      · simp [taken, bind, Except.bind]
      · simp only [if_true, bind, Except.bind, ih (by omega : ds.length ≤ fuel)]
        cases takes : rest.all fun s => s.2.accepted <;> simp [taken, takes, pure, Except.pure]

theorem StepsSpelled.readSteps_breaks (h : StepsSpelled .lenient steps ds) (some : steps ≠ [])
    (taken : (steps.all fun s => s.2.accepted) = true) (hr : Breaks rest) (hf : ds.length ≤ fuel) :
    XPath.readSteps fuel (ds ++ rest) = .error .cutInsideCharacter := by
  induction h generalizing fuel with
  | nil => exact absurd rfl some
  | @cons axis s others cs ds step later ih =>
    obtain ⟨c, more, rfl, name⟩ := step.head
    have slash : ∀ x ∈ (c :: more ++ (ds ++ rest)).head?, x ≠ '/' := by
      rintro x ⟨⟩
      exact ne_of_test name rfl
    rw [List.all_cons, Bool.and_eq_true] at taken
    cases fuel with
    | zero => simp at hf
    | succ fuel =>
      simp only [List.length_append, List.length_cons] at hf
      rw [List.append_assoc, List.append_assoc, readSteps_mark axis slash]
      cases later with
      | nil =>
        rw [List.nil_append, step.readStep_breaks taken.1 hr]
        rfl
      | @cons axis' s' others cs' ds step' later =>
        have next : ∀ x ∈ (axis'.mark ++ (cs' ++ ds) ++ rest).head?, x = '/' := by
          cases axis' <;> simp [Axis.mark]
        rw [step.readStep next, if_pos taken.1]
        simp only [bind, Except.bind]
        rw [ih (List.cons_ne_nil _ _) taken.2 (by omega)]

theorem spelled_of_readSteps (h : readSteps fuel cs = .ok steps) :
    StepsSpelled .lenient steps cs ∧ (steps.all fun s => s.2.accepted) = true := by
  induction fuel generalizing cs steps with
  | zero =>
    cases cs with
    | nil =>
      obtain rfl := Except.ok.inj h
      exact ⟨.nil, rfl⟩
    | cons c cs => simp [XPath.readSteps] at h
  | succ fuel ih =>
    obtain rfl | unsupported | ⟨fuel', axis, more, rfl, same, read⟩ := readSteps_cases (fuel + 1) cs
    · rw [XPath.readSteps.eq_1] at h
      obtain rfl := Except.ok.inj h
      exact ⟨.nil, rfl⟩
    · rw [unsupported] at h
      cases h
    · obtain rfl := Nat.succ.inj same
      rw [read] at h
      obtain ⟨⟨s, rest⟩, first, h⟩ := bind_eq_ok.1 h
      obtain ⟨others, later, h⟩ := bind_eq_ok.1 h
      obtain rfl := Except.ok.inj h
      obtain ⟨front, rfl, spelled, taken⟩ := spelled_of_readStep first
      obtain ⟨rest, takes⟩ := ih later
      exact ⟨.cons spelled rest, by rw [List.all_cons, taken, takes]; rfl⟩

theorem breaks_of_readSteps (h : readSteps fuel cs = .error .cutInsideCharacter) :
    ∃ steps front rest, cs = front ++ rest ∧ StepsSpelled .lenient steps front ∧ steps ≠ [] ∧
      (steps.all fun s => s.2.accepted) = true ∧ Breaks rest := by
  induction fuel generalizing cs with
  | zero => cases cs <;> simp [XPath.readSteps] at h
  | succ fuel ih =>
    obtain rfl | unsupported | ⟨fuel', axis, more, rfl, same, read⟩ := readSteps_cases (fuel + 1) cs
    · rw [XPath.readSteps.eq_1] at h
      cases h
    · rw [unsupported] at h
      cases h
    · obtain rfl := Nat.succ.inj same
      rw [read] at h
      obtain broken | ⟨⟨s, rest⟩, first, behind⟩ := bind_eq_error.1 h
      · obtain ⟨s, front, rest, rfl, spelled, taken, breaks⟩ := breaks_of_readStep broken
        refine ⟨[(axis, s)], _, rest, ?_, .cons spelled .nil, List.cons_ne_nil _ _, ?_, breaks⟩
        · simp
        · simp [taken]
      · obtain later | ⟨_, _, none⟩ := bind_eq_error.1 behind
        · obtain ⟨steps, after, rest', rfl, spelled, _, takes, breaks⟩ := ih later
          obtain ⟨front, rfl, step, taken⟩ := spelled_of_readStep first
          refine ⟨(axis, s) :: steps, _, rest', ?_, .cons step spelled, List.cons_ne_nil _ _, ?_,
            breaks⟩
          · simp
          · rw [List.all_cons, taken, takes]
            rfl
        · cases none

end Steps

/-! ## Paths -/

def Path.accepted (p : Path) : Bool := p.first.accepted && p.rest.all fun s => s.2.accepted

/-- The text goes on, behind a path that the reader takes, with a predicate that breaks it off. -/
def BreaksOff (cs : List Char) : Prop :=
  ∃ p front rest, cs = front ++ rest ∧ Path.Spelled .lenient p front ∧ p.accepted = true ∧
    Breaks rest

section Paths

variable {p : Path} {x : String} {cs : List Char}

theorem readAnchor?_text {a : Anchor} {c : Char} (h : isNameChar c = true) (cs : List Char) :
    readAnchor? (a.text ++ c :: cs) = some (a, c :: cs) := by
  cases a with
  | top =>
    refine readAnchor?.eq_3 (c :: cs) fun rest e => ?_
    exact ne_of_test h rfl (List.cons.inj e).1
  | anywhere => rfl
  | inside => rfl

theorem text_of_readAnchor? {a : Anchor} {rest : List Char} (h : readAnchor? cs = some (a, rest)) :
    cs = a.text ++ rest := by
  unfold readAnchor? at h
  split at h
  · cases h; rfl
  · cases h; rfl
  · cases h; rfl
  · cases h

/-- What the reader makes of a spelled path. -/
theorem Path.read_spelled (h : p.Spelled .lenient (trimChars x.toList)) :
    Path.read x = if p.accepted then .ok p else .error .unsupported := by
  rw [Path.read]
  generalize trimChars x.toList = text at h
  obtain ⟨first, later⟩ := h
  obtain ⟨c, more, rfl, name⟩ := first.head
  rw [List.cons_append, readAnchor?_text name, Path.accepted, ← List.cons_append]
  simp only [orUnsupported, bind, Except.bind, first.readStep later.head]
  rename_i s rest _
  cases taken : s.accepted
  · rfl
  · simp only [if_true, later.readSteps (Nat.le_refl _)]
    cases takes : rest.all fun s => s.2.accepted <;> rfl

theorem Path.spelled_of_read (h : Path.read x = .ok p) :
    p.Spelled .lenient (trimChars x.toList) ∧ p.accepted = true := by
  obtain ⟨⟨a, text⟩, anchor, h⟩ := bind_eq_ok.1 h
  obtain ⟨⟨s, rest⟩, first, h⟩ := bind_eq_ok.1 h
  obtain ⟨steps, later, h⟩ := bind_eq_ok.1 h
  obtain rfl := Except.ok.inj h
  obtain ⟨front, rfl, spelled, taken⟩ := spelled_of_readStep first
  obtain ⟨others, takes⟩ := spelled_of_readSteps later
  rw [text_of_readAnchor? (orUnsupported_eq_ok anchor), Path.accepted, taken, takes]
  exact ⟨.mk spelled others, rfl⟩

theorem Path.read_breaks (h : BreaksOff (trimChars x.toList)) :
    Path.read x = .error .cutInsideCharacter := by
  obtain ⟨p, front, rest, shape, spelled, taken, breaks⟩ := h
  cases spelled with
  | @mk a s steps cs ds first later =>
    obtain ⟨c, more, rfl, name⟩ := first.head
    have anchored : readAnchor? (a.text ++ (c :: more ++ ds) ++ rest) =
        some (a, c :: more ++ (ds ++ rest)) := by
      rw [List.append_assoc, List.append_assoc, List.cons_append]
      exact readAnchor?_text name _
    rw [Path.accepted, Bool.and_eq_true] at taken
    rw [Path.read, shape, anchored]
    simp only [orUnsupported, bind, Except.bind]
    -- the broken predicate belongs to the first step, or to the last of the others
    by_cases none : steps = []
    · subst none
      cases later with
      | nil => rw [List.nil_append, first.readStep_breaks taken.1 breaks]
    · have next : ∀ x ∈ (ds ++ rest).head?, x = '/' := by
        cases later with
        | nil => exact absurd rfl none
        | @cons axis => cases axis <;> simp [Axis.mark]
      rw [first.readStep next, if_pos taken.1]
      simp only
      rw [later.readSteps_breaks none taken.2 breaks (by simp)]

theorem Path.breaksOff_of_read (h : Path.read x = .error .cutInsideCharacter) :
    BreaksOff (trimChars x.toList) := by
  obtain anchor | ⟨⟨a, text⟩, anchor, inside⟩ := bind_eq_error.1 h
  · exact absurd anchor orUnsupported_ne_cut
  rw [text_of_readAnchor? (orUnsupported_eq_ok anchor)]
  obtain broken | ⟨⟨s, rest⟩, first, behind⟩ := bind_eq_error.1 inside
  · obtain ⟨s, front, rest, rfl, spelled, taken, breaks⟩ := breaks_of_readStep broken
    refine ⟨⟨a, s, []⟩, _, rest, ?_, .mk spelled .nil, ?_, breaks⟩
    · simp
    · rw [Path.accepted, taken]
      rfl
  · obtain later | ⟨_, _, none⟩ := bind_eq_error.1 behind
    · obtain ⟨steps, after, rest', rfl, others, _, takes, breaks⟩ := breaks_of_readSteps later
      obtain ⟨front, rfl, spelled, taken⟩ := spelled_of_readStep first
      refine ⟨⟨a, s, steps⟩, _, rest', ?_, .mk spelled others, ?_, breaks⟩
      · simp
      · rw [Path.accepted, taken, takes]
        rfl
    · cases none

end Paths

/-! ## Written paths -/

section Written

variable {w : Spelling} {p : Path} {s : Step} {steps : List (Axis × Step)} {ps : List (List Term)}
  {cs ds : List Char}

/-! A path ends in the last character of a name or in a bracket. -/

theorem last_append (hne : ds ≠ []) (h : ∀ c ∈ ds.getLast?, isBlank c = false) :
    ∀ c ∈ (cs ++ ds).getLast?, isBlank c = false := by
  intro c hc
  have own : (cs ++ ds).getLast? = ds.getLast? := by
    rw [List.getLast?_append, List.getLast?_eq_some_getLast hne, Option.some_or]
  exact h c (own ▸ hc)

theorem last_append_of_last (h : ∀ c ∈ cs.getLast?, isBlank c = false)
    (h' : ∀ c ∈ ds.getLast?, isBlank c = false) :
    ∀ c ∈ (cs ++ ds).getLast?, isBlank c = false := by
  by_cases hne : ds = []
  · rw [hne, List.append_nil]
    exact h
  · exact last_append hne h'

theorem PredicatesSpelled.last (h : PredicatesSpelled w ps cs) :
    ∀ c ∈ cs.getLast?, isBlank c = false := by
  induction h with
  | nil => exact fun _ h => nomatch h
  | @cons ts ps cs ds _ _ _ ih =>
    have shape : '[' :: (cs ++ ']' :: ds) = '[' :: cs ++ ([']'] ++ ds) := by simp
    rw [shape]
    refine last_append (by simp) (last_append_of_last ?_ ih)
    rintro _ ⟨⟩
    rfl

theorem Step.Spelled.last (h : s.Spelled w cs) : ∀ c ∈ cs.getLast?, isBlank c = false := by
  obtain ⟨hn, hp⟩ := h
  refine last_append_of_last (fun c hc => ?_) hp.last
  exact (printable_of_isNameChar (hn.all c (List.mem_of_getLast? hc))).not_blank

theorem Step.Spelled.ne_nil (h : s.Spelled w cs) : cs ≠ [] := by
  obtain ⟨c, more, rfl, _⟩ := h.head
  exact List.cons_ne_nil c more

theorem StepsSpelled.last (h : StepsSpelled w steps ds) : ∀ c ∈ ds.getLast?, isBlank c = false := by
  induction h with
  | nil => exact fun _ h => nomatch h
  | cons step _ ih => exact last_append (by simp [step.ne_nil]) (last_append_of_last step.last ih)

theorem Path.Spelled.trimmed (h : p.Spelled w cs) : Trimmed cs ∧ cs ≠ [] := by
  obtain ⟨first, later⟩ := h
  rename_i a s rest cs ds
  refine ⟨⟨fun x hx => ?_, ?_⟩, by simp [first.ne_nil]⟩
  · cases a <;> obtain rfl := Option.some.inj hx <;> decide
  · exact last_append (by simp [first.ne_nil]) (last_append_of_last first.last later.last)

theorem Path.Written.spelled (h : p.Written cs) : p.Spelled .documented (trimChars cs) := by
  obtain ⟨first, later, hb, hb'⟩ := h
  rename_i a s rest cs ds b b'
  have spelled : Path.Spelled .documented ⟨a, s, rest⟩ (a.text ++ (cs ++ ds)) :=
    .mk first.spelled later.spelled
  rwa [trimChars_eq hb spelled.trimmed.1 hb' spelled.trimmed.2]

/-- What the reader makes of a path. -/
theorem Path.read_written {x : String} (h : p.Written x.toList) :
    Path.read x = if p.accepted then .ok p else .error .unsupported :=
  Path.read_spelled (h.spelled.within Spelling.documented_within_lenient)

/-- A written path has a selector exactly if the reader takes all of its steps. -/
theorem toCss_eq_ok {x css : String} (h : p.Written x.toList) :
    toCss x = .ok css ↔ p.accepted = true ∧ css = p.toCss := by
  rw [toCss, readPath, Path.read_written h]
  cases p.accepted
  · simp [Except.mapError, Except.map]
  · simp [Except.mapError, Except.map, eq_comm]

end Written

/-! ## Which texts are taken for paths

A text has a selector exactly if it is the lenient spelling of a path whose steps the reader takes.
The documented spelling is narrower: a term such as `@x='1' or @y='2'` is one test for the value
`1' or @y='2`, since a value only has to stand between two quotes. All other texts are unsupported,
but for those with a character of several bytes outside quotes in a predicate, at which the reader
breaks off. -/

section Texts

variable {x : String} {p : Path}

theorem toCss_eq_ok_iff_read {css : String} :
    toCss x = .ok css ↔ ∃ p, Path.read x = .ok p ∧ css = p.toCss := by
  rw [toCss, readPath, map_eq_ok]
  cases Path.read x <;> simp [Except.mapError, eq_comm]

theorem toCss_eq_error_iff_read {e : Problem} :
    toCss x = .error (e.fault x) ↔ Path.read x = .error e := by
  rw [toCss, readPath]
  cases Path.read x with
  | ok p => simp [Except.mapError, Except.map]
  | error other =>
    cases other <;> cases e <;> simp [Except.mapError, Except.map, Problem.fault]

theorem read_eq_ok_iff :
    Path.read x = .ok p ↔ p.Spelled .lenient (trimChars x.toList) ∧ p.accepted = true := by
  refine ⟨Path.spelled_of_read, fun ⟨spelled, taken⟩ => ?_⟩
  rw [Path.read_spelled spelled, if_pos taken]

theorem read_eq_cut_iff :
    Path.read x = .error .cutInsideCharacter ↔ BreaksOff (trimChars x.toList) :=
  ⟨Path.breaksOff_of_read, Path.read_breaks⟩

theorem read_eq_unsupported_iff :
    Path.read x = .error .unsupported ↔
      (∀ p, Path.read x ≠ .ok p) ∧ Path.read x ≠ .error .cutInsideCharacter := by
  cases Path.read x with
  | ok p => simp
  | error problem => cases problem <;> simp

end Texts

end PageHarvest.XPath
