import PageHarvest.Extraction.Engine
import PageHarvest.Proofs.Text.Trimming

/-!
# Which rules can be located

A rule has a target inside any scope. Without a scope it has one exactly if it has a selector or an
XPath of more than blanks, or is of a kind that looks for the same on every page.
-/

namespace PageHarvest

namespace Rule

/-- Whether a rule has neither a selector nor an XPath of more than blanks. -/
def lacksLocator (r : Rule) : Bool :=
  r.selector.all Text.isBlankText && r.xpath.all Text.isBlankText

/-- Whether nothing says where a rule on top is to look. -/
def isUnlocatable (r : Rule) : Bool :=
  r.lacksLocator && !([.links, .images, .metadata, .screenshot].contains r.kind)

variable {r : Rule} {f : Fault}

theorem nonBlank?_eq_none {s : Option String} :
    nonBlank? s = none ↔ s.all Text.isBlankText = true := by
  cases s with
  | none => simp [nonBlank?]
  | some s => simp [nonBlank?, Option.filter, Text.trim_eq_empty_iff]

theorem locator?_eq_none : r.locator? = none ↔ r.lacksLocator = true := by
  rw [locator?, lacksLocator, Bool.and_eq_true, ← nonBlank?_eq_none, ← nonBlank?_eq_none]
  cases nonBlank? r.selector with
  | none => simp
  | some s => simp

/-- The target of a rule without a locator. -/
theorem target_of_lacksLocator (lacks : r.lacksLocator = true) (scope : Option Handle) :
    r.target scope =
      match r.kind, scope with
      | .links, _ => .ok (.located (.css "a[href]"))
      | .images, _ => .ok (.located (.css "img"))
      | .metadata, _ | .screenshot, _ => .ok .wholePage
      | _, some h => .ok (.scope h)
      | _, none => .error (.noSelector r.name) := by
  rw [target.eq_def, locator?_eq_none.2 lacks]
  cases r.kind <;> cases scope <;> rfl

/-- Only a rule on top may have no target. -/
theorem target_eq_error_iff {scope : Option Handle} :
    r.target scope = .error f ↔
      scope = none ∧ r.isUnlocatable = true ∧ f = .noSelector r.name := by
  by_cases lacks : r.lacksLocator = true
  · rw [target_of_lacksLocator lacks, isUnlocatable, lacks]
    cases r.kind <;> cases scope <;> simp [eq_comm]
  · obtain ⟨l, hl⟩ := Option.ne_none_iff_exists'.1 (mt locator?_eq_none.1 lacks)
    have located : r.target scope = .ok (.located l) := by
      rw [target.eq_def, hl]
      rfl
    simp [located, isUnlocatable, lacks]

theorem ensureLocatable_eq :
    r.ensureLocatable = if r.isUnlocatable then .error (.noSelector r.name) else .ok () := by
  unfold ensureLocatable
  by_cases h : r.isUnlocatable = true
  · rw [if_pos h, target_eq_error_iff.2 ⟨rfl, h, rfl⟩]
    rfl
  · rw [if_neg h]
    cases ht : r.target none with
    | error f => exact absurd (target_eq_error_iff.1 ht).2.1 h
    | ok t => rfl

theorem ensureLocatable_eq_ok : r.ensureLocatable = .ok () ↔ r.isUnlocatable = false := by
  rw [ensureLocatable_eq]
  by_cases h : r.isUnlocatable = true <;> simp [h]

end Rule

/-- The first rule that cannot be located is a fault of the schema. -/
theorem Schema.ensureLocatable_eq (s : Schema) :
    s.ensureLocatable =
      match s.rules.find? Rule.isUnlocatable with
      | some r => .error (.noSelector r.name)
      | none => .ok () := by
  unfold ensureLocatable
  induction s.rules with
  | nil => rfl
  | cons r rest ih =>
    show (do r.ensureLocatable; rest.forM Rule.ensureLocatable) = _
    rw [Rule.ensureLocatable_eq]
    by_cases h : r.isUnlocatable = true
    · rw [if_pos h, List.find?_cons_of_pos h]
      rfl
    · rw [if_neg h, List.find?_cons_of_neg h, ← ih]
      rfl

end PageHarvest
