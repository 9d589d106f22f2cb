import PageHarvest.Proofs.Fallible
import PageHarvest.Proofs.Schema.Locating
import PageHarvest.Proofs.Schema.Nesting
import PageHarvest.Schema.Check

/-!
# What a passed check promises

A schema that passes its check has rules on top that can be located, and none of its rules is nested
deeper than allowed. The check counts the depth below rules of every kind. Of several pages it wants
a selector for the next one that is not empty. A check without warnings promises more: of each rule,
its selector is read or its XPath is a path, and its attribute is named where its kind wants one.
-/

namespace PageHarvest

namespace Rule

/-- The rule stands at a depth that is allowed, and so do those nested in it. -/
inductive Fits (maxDepth : Nat) : Nat → Rule → Prop
  | mk {depth : Nat} {r : Rule} : depth ≤ maxDepth →
      (∀ child ∈ r.children, Fits maxDepth (depth + 1) child) → Fits maxDepth depth r

theorem Fits.depth_le {maxDepth depth : Nat} {r : Rule} : r.Fits maxDepth depth → depth ≤ maxDepth
  | .mk h _ => h

theorem Fits.children {maxDepth depth : Nat} {r : Rule} :
    r.Fits maxDepth depth → ∀ child ∈ r.children, child.Fits maxDepth (depth + 1)
  | .mk _ h => h

variable {maxDepth : Nat}

/-- A rule passes its check if it is shallow enough and passes by itself, and its children pass. Its
warnings are on the rule by itself, on its children together, and on each of them. -/
theorem check_eq_ok {depth : Nat} {isChild : Bool} {r : Rule} {ws : List Warning}
    (h : r.check maxDepth depth isChild = .ok ws) :
    depth ≤ maxDepth ∧ ∃ own below, r.checkOwn isChild = .ok own ∧
      checkAll maxDepth (depth + 1) true r.children = .ok below ∧
      ws = own ++ r.checkSiblings ++ below := by
  cases r
  unfold check at h
  by_cases deep : maxDepth < depth
  · rw [if_pos deep] at h
    cases h
  · rw [if_neg deep] at h
    obtain ⟨own, ho, h⟩ := bind_eq_ok.1 h
    obtain ⟨below, hb, h⟩ := bind_eq_ok.1 h
    exact ⟨Nat.le_of_not_lt deep, own, below, ho, hb, (Except.ok.inj h).symm⟩

theorem checkAll_cons_eq_ok {depth : Nat} {isChild : Bool} {r : Rule} {rest : List Rule}
    {ws : List Warning} (h : checkAll maxDepth depth isChild (r :: rest) = .ok ws) :
    ∃ first later, r.check maxDepth depth isChild = .ok first ∧
      checkAll maxDepth depth isChild rest = .ok later ∧ ws = first ++ later := by
  unfold checkAll at h
  obtain ⟨first, hf, h⟩ := bind_eq_ok.1 h
  obtain ⟨later, hl, h⟩ := bind_eq_ok.1 h
  exact ⟨first, later, hf, hl, (Except.ok.inj h).symm⟩

theorem check_of_checkAll {depth : Nat} {isChild : Bool} {rs : List Rule} {ws : List Warning}
    (h : checkAll maxDepth depth isChild rs = .ok ws) :
    ∀ r ∈ rs, ∃ own, r.check maxDepth depth isChild = .ok own ∧ own ⊆ ws := by
  induction rs generalizing ws with
  | nil => exact fun _ hr => absurd hr List.not_mem_nil
  | cons r rest ih =>
    obtain ⟨first, later, hf, hl, rfl⟩ := checkAll_cons_eq_ok h
    intro q hq
    rcases List.mem_cons.1 hq with rfl | hq
    · exact ⟨first, hf, List.subset_append_left first later⟩
    · obtain ⟨own, ho, sub⟩ := ih hl q hq
      exact ⟨own, ho, List.subset_append_of_subset_right first sub⟩

/-- The warnings on one rule of a tree are among those of the check of the tree. -/
theorem checkOwn_of_check {r q : Rule} (hq : q ∈ r.tree) {depth : Nat} {isChild : Bool}
    {ws : List Warning} (h : r.check maxDepth depth isChild = .ok ws) :
    ∃ isChild own, q.checkOwn isChild = .ok own ∧ own ⊆ ws := by
  induction r using Rule.induct generalizing depth isChild ws with
  | step r ih =>
    obtain ⟨_, own, below, ho, hb, rfl⟩ := check_eq_ok h
    rcases mem_tree.1 hq with rfl | nested
    · exact ⟨isChild, own, ho, fun w hw => List.mem_append_left _ (List.mem_append_left _ hw)⟩
    · obtain ⟨child, hc, hq⟩ := mem_trees.1 nested
      obtain ⟨ws, passed, sub⟩ := check_of_checkAll hb child hc
      obtain ⟨isChild', own', ho', sub'⟩ := ih child hc hq passed
      exact ⟨isChild', own', ho', fun w hw => List.mem_append_right _ (sub (sub' hw))⟩

theorem fits_of_check {r : Rule} {depth : Nat} {isChild : Bool} {ws : List Warning}
    (h : r.check maxDepth depth isChild = .ok ws) : r.Fits maxDepth depth := by
  induction r using Rule.induct generalizing depth isChild ws with
  | step r ih =>
    obtain ⟨shallow, _, below, _, hb, _⟩ := check_eq_ok h
    refine .mk shallow fun child hc => ?_
    obtain ⟨ws, passed, _⟩ := check_of_checkAll hb child hc
    exact ih child hc passed

theorem isPageLevel_eq (k : RuleKind) :
    k.isPageLevel = [.links, .images, .metadata, .screenshot].contains k := by
  cases k <;> rfl

/-- A rule on top that passes its check can be located. -/
theorem isUnlocatable_of_check {depth : Nat} {r : Rule} {ws : List Warning}
    (h : r.check maxDepth depth false = .ok ws) : r.isUnlocatable = false := by
  obtain ⟨_, own, _, ho, _⟩ := check_eq_ok h
  unfold checkOwn at ho
  by_cases blank : Text.isBlankText r.name = true
  · rw [if_pos blank] at ho
    cases ho
  · rw [if_neg blank] at ho
    obtain ⟨located, hl, _⟩ := bind_eq_ok.1 ho
    rw [isUnlocatable, ← isPageLevel_eq]
    cases level : r.kind.isPageLevel with
    | true => simp
    | false =>
      refine Bool.and_eq_false_imp.2 fun lacks => ?_
      rw [checkLocator.eq_def, locator?_eq_none.2 lacks, level] at hl
      cases hl

end Rule

/-- The check of a schema is that of its id, of its rules, and of the rules together. -/
theorem Schema.check_eq_ok {maxDepth : Nat} {s : Schema} {ws : List Warning}
    (h : s.check maxDepth = .ok ws) :
    ∃ below, Rule.checkAll maxDepth 1 false s.rules = .ok below ∧ below ⊆ ws := by
  unfold check at h
  by_cases blank : Text.isBlankText s.id = true
  · rw [if_pos blank] at h
    cases h
  · rw [if_neg blank] at h
    obtain ⟨below, hb, h⟩ := bind_eq_ok.1 h
    refine ⟨below, hb, fun w hw => ?_⟩
    have rules {front paging : List Warning} (all : Except.ok (front ++ below ++ paging) =
        (Except.ok ws : Except Fault _)) : w ∈ ws := by
      obtain rfl := Except.ok.inj all
      exact List.mem_append_left _ (List.mem_append_right _ hw)
    cases pages : s.pagination with
    | none =>
      rw [pages] at h
      exact rules h
    | some p =>
      rw [pages] at h
      obtain ⟨paging, _, h⟩ := bind_eq_ok.1 h
      exact rules h

/-- The rules of a schema that passes its check. -/
theorem Schema.rules_of_check {maxDepth : Nat} {s : Schema} {ws : List Warning}
    (h : s.check maxDepth = .ok ws) :
    ∀ r ∈ s.rules, r.Fits maxDepth 1 ∧ r.isUnlocatable = false := by
  obtain ⟨below, hb, _⟩ := check_eq_ok h
  intro r hr
  obtain ⟨own, ho, _⟩ := Rule.check_of_checkAll hb r hr
  exact ⟨Rule.fits_of_check ho, Rule.isUnlocatable_of_check ho⟩

/-! ## Going from page to page -/

/-- The check of a policy for several pages warns of an empty selector for the next page, and of a
missing one. -/
theorem Pagination.mem_of_check {p : Pagination} {ws : List Warning} (h : p.check = .ok ws)
    (several : 1 < p.maxPages.getD 1) (empty : p.nextSelector.getD "" = "") :
    .noNextSelector ∈ ws := by
  unfold check at h
  by_cases noPages : p.maxPages = some 0
  · rw [if_pos noPages] at h
    cases h
  · rw [if_neg noPages] at h
    obtain rfl := Except.ok.inj h
    rw [if_pos ⟨several, empty⟩]
    exact List.mem_append_left _ (List.mem_append_left _ List.mem_cons_self)

/-- The policy of a schema that passes its check passes its own. -/
theorem Schema.paging_of_check {maxDepth : Nat} {s : Schema} {ws : List Warning}
    (h : s.check maxDepth = .ok ws) {p : Pagination} (paged : s.pagination = some p) :
    ∃ own, p.check = .ok own ∧ own ⊆ ws := by
  unfold check at h
  by_cases blank : Text.isBlankText s.id = true
  · rw [if_pos blank] at h
    cases h
  · rw [if_neg blank, paged] at h
    obtain ⟨below, _, h⟩ := bind_eq_ok.1 h
    obtain ⟨own, passed, h⟩ := bind_eq_ok.1 h
    obtain rfl := Except.ok.inj h
    exact ⟨own, passed, List.subset_append_right _ _⟩

/-! ## Checks without warnings -/

/-- What a check finds nothing to say of: a selector that is read, an XPath that is a path, and an
attribute that is named. Of an XPath it does not read the selector. -/
structure Rule.IsClean (r : Rule) : Prop where
  selector : ∀ text, r.locator? = some (.css text) → (Css.Selector.read? text).isSome
  xpath : ∀ path, r.locator? = some (.xpath path) → ∃ css, XPath.toCss path = .ok css
  named : r.kind = .attribute → r.attributeName.filter (· != "") ≠ none

theorem Rule.isClean_of_checkOwn {r : Rule} {isChild : Bool} (h : r.checkOwn isChild = .ok []) :
    r.IsClean := by
  unfold checkOwn at h
  by_cases blank : Text.isBlankText r.name = true
  · rw [if_pos blank] at h
    cases h
  · rw [if_neg blank] at h
    obtain ⟨located, hl, h⟩ := bind_eq_ok.1 h
    have none := Except.ok.inj h
    rw [List.append_eq_nil_iff, List.append_eq_nil_iff, List.append_eq_nil_iff] at none
    obtain ⟨⟨⟨_, rfl⟩, _⟩, complete⟩ := none
    unfold checkLocator at hl
    refine ⟨fun text ht => ?_, fun path hp => ?_, fun kind unnamed => ?_⟩
    · rw [ht] at hl
      dsimp only at hl
      by_contra unread
      rw [if_neg unread] at hl
      cases hl
    · rw [hp] at hl
      dsimp only at hl
      split at hl
      · exact ⟨_, ‹_›⟩
      · cases hl
      · cases hl
    · have empty : r.attributeName.getD "" = "" := by
        cases name : r.attributeName with
        | none => rfl
        | some a =>
          rw [name] at unnamed
          simpa using unnamed
      rw [checkAttribute, if_pos ⟨kind, empty⟩] at complete
      cases complete

/-- Without warnings, there is nothing to say of any rule, however deep it is nested. -/
theorem Schema.isClean_of_check {maxDepth : Nat} {s : Schema} (h : s.check maxDepth = .ok []) :
    ∀ r ∈ Rule.trees s.rules, r.IsClean := by
  obtain ⟨below, hb, none⟩ := check_eq_ok h
  intro q hq
  obtain ⟨r, hr, hq⟩ := Rule.mem_trees.1 hq
  obtain ⟨ws, passed, sub⟩ := Rule.check_of_checkAll hb r hr
  obtain ⟨isChild, own, ho, sub'⟩ := Rule.checkOwn_of_check hq passed
  obtain rfl : own = [] := List.subset_nil.1 fun w hw => none (sub (sub' hw))
  exact Rule.isClean_of_checkOwn ho

end PageHarvest
