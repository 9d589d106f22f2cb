import PageHarvest.Proofs.Extraction.Calls
import PageHarvest.Proofs.Extraction.Telling

/-!
# Rules made optional

To mark rules optional changes what is said of a page and nothing else. Rules and their marked
versions ask the same of the page, in the same order, and come to the same values; the errors of the
marked ones are among the errors of the others, in the same order. What is gone is what the marks
are about: with names that stand once, no error is on an optional rule or on a list at or below
one.

* `Rule.Marked`: rules with more marks, at any depth;
* `Report.Fewer`: reports that differ in item errors that one of them lacks;
* `extract_marked`: a schema and its marked version, on any page.
-/

namespace PageHarvest

open Text

/-- The second rule is the first one with some more rules in its tree marked optional. -/
inductive Rule.Marked : Rule → Rule → Prop
  | mk (r : Rule) {optional : Bool} {children : List Rule} : (r.optional = true → optional = true) →
      List.Forall₂ Marked r.children children → Marked r { r with optional, children }

/-- The same schema with more rules marked optional. -/
structure Schema.Marked (s s' : Schema) : Prop where
  same : s' = { s with rules := s'.rules }
  rules : List.Forall₂ Rule.Marked s.rules s'.rules

variable {σ α β : Type}

namespace Rule.Marked

variable {r r' : Rule}

theorem name_eq (h : r.Marked r') : r'.name = r.name := by
  cases h
  rfl

theorem optional (h : r.Marked r') : r.optional = true → r'.optional = true := by
  cases h with
  | mk _ own _ => exact own

theorem isUnlocatable_eq (h : r.Marked r') : r'.isUnlocatable = r.isUnlocatable := by
  cases h
  rfl

end Rule.Marked

/-! ## Reports -/

/-- The second outcome has the value of the first one, and some of its item errors. -/
structure Outcome.Fewer (o o' : Outcome α) : Prop where
  value : o'.value = o.value
  itemErrors : o'.itemErrors.Sublist o.itemErrors

/-- The second report asks the same of the page, and tells fewer item errors. -/
def Report.Fewer (o o' : Report σ α) : Prop := ∀ page,
  (o'.runIn page).2 = (o.runIn page).2 ∧ (o.runIn page).1.Fewer (o'.runIn page).1

namespace Report.Fewer

variable {o o' : Report σ α}

theorem refl (o : Report σ α) : o.Fewer o := fun _ => ⟨rfl, rfl, List.Sublist.refl _⟩

theorem bind {k k' : α → Report σ β} (h : o.Fewer o') (hk : ∀ x, (k x).Fewer (k' x)) :
    Fewer (o >>= k) (o' >>= k') := by
  intro page
  obtain ⟨state, value, errors⟩ := h page
  cases hv : (o.runIn page).1.value with
  | ok x =>
    obtain ⟨state', value', errors'⟩ := hk x (o.runIn page).2
    rw [runIn_bind_ok hv, runIn_bind_ok (value.trans hv), state]
    exact ⟨state', value', errors.append errors'⟩
  | error f =>
    rw [runIn_bind_error hv, runIn_bind_error (value.trans hv)]
    exact ⟨state, rfl, errors⟩

theorem tryCatch {k k' : Fault → Report σ α} (h : o.Fewer o') (hk : ∀ f, (k f).Fewer (k' f)) :
    Fewer (MonadExcept.tryCatch o k) (MonadExcept.tryCatch o' k') := by
  intro page
  obtain ⟨state, value, errors⟩ := h page
  cases hv : (o.runIn page).1.value with
  | ok x =>
    rw [runIn_tryCatch_ok hv, runIn_tryCatch_ok (value.trans hv)]
    exact ⟨state, value, errors⟩
  | error f =>
    obtain ⟨state', value', errors'⟩ := hk f (o.runIn page).2
    rw [runIn_tryCatch_error hv, runIn_tryCatch_error (value.trans hv), state]
    exact ⟨state', value', errors.append errors'⟩

theorem inTurn {ι : Type} {k k' : ι → Report σ α} (hk : ∀ x, (k x).Fewer (k' x)) (xs : List ι) :
    Fewer (.inTurn (xs.map k)) (.inTurn (xs.map k')) := by
  induction xs with
  | nil => exact refl _
  | cons x xs ih => exact (hk x).bind fun v => ih.bind fun vs => refl _

/-- An optional child has no item errors; one that is not was not optional before. -/
theorem asField {o o' : Report σ Json} (h : o.Fewer o') {child child' : Rule}
    (marked : child.Marked child') (list : String) (i : Nat) :
    (o.asField list i child).Fewer (o'.asField list i child') := by
  intro page
  obtain ⟨state, value, errors⟩ := h page
  refine ⟨state, congrArg Outcome.fieldValue value, ?_⟩
  show List.Sublist (ite _ _ _) (ite _ _ _)
  by_cases optional : child'.optional = true
  · rw [if_pos optional]
    exact List.nil_sublist _
  · have before : ¬ child.optional = true := mt marked.optional optional
    have own : Outcome.ownErrors list i child' (o'.runIn page).1.value =
        Outcome.ownErrors list i child (o.runIn page).1.value := by
      rw [value]
      unfold Outcome.ownErrors
      rw [marked.name_eq]
    rw [if_neg optional, if_neg before]
    exact errors.append (own ▸ List.Sublist.refl _)

/-- That a rule is marked shows in the call. -/
theorem asCall {o o' : Report σ Json} (h : o.Fewer o') (r r' : Rule) (scope : Option Handle)
    (depth : Nat) : (o.asCall r scope depth).Fewer (o'.asCall r' scope depth) := fun page =>
  ⟨(h page).1, (h page).2.value, (h page).2.itemErrors⟩

end Report.Fewer

namespace Walker

variable {w : Walker σ}

/-- A rule and its marked version look at the same places. -/
theorem reportAttempt_fewer {r : Rule} {optional : Bool} {children : List Rule}
    {scope : Option Handle} {depth : Nat} {reading reading' : Target → Report σ Json}
    (h : ∀ t, (reading t).Fewer (reading' t)) :
    (w.reportAttempt r scope depth reading).Fewer
      (w.reportAttempt { r with optional, children } scope depth reading') := by
  have target : Rule.target { r with optional, children } scope = r.target scope := rfl
  have fallback : Rule.fallback? { r with optional, children } = r.fallback? := rfl
  unfold reportAttempt
  by_cases deep : w.settings.maxRuleDepth < depth
  · rw [if_pos deep, if_pos deep]
    exact .refl _
  · rw [if_neg deep, if_neg deep, target, fallback]
    cases r.target scope with
    | error f => exact .refl _
    | ok t =>
      refine .bind (.tryCatch (h t) fun first => ?_) fun v => .refl _
      cases r.fallback? with
      | none => exact .refl _
      | some l => exact .tryCatch (h _) fun _ => .refl _

theorem reportFields_fewer (list : String) {depth : Nat} {children children' : List Rule}
    (marked : List.Forall₂ Rule.Marked children children')
    (each : ∀ child ∈ children, ∀ {child'}, child.Marked child' → ∀ h,
      (w.report child (some h) depth).Fewer (w.report child' (some h) depth))
    (i : Nat) (h : Handle) (fields : Entries Json) :
    (w.reportFields list children i h depth fields).Fewer
      (w.reportFields list children' i h depth fields) := by
  induction marked generalizing fields with
  | nil => exact .refl _
  | @cons child child' rest rest' first marked ih =>
    have own := (each child List.mem_cons_self first h).asField first list i
    rw [reportFields, reportFields, first.name_eq]
    exact .bind own fun v => ih (fun q hq => each q (List.mem_cons_of_mem _ hq)) _

/-- A rule and its marked version come to the same, and the marked one tells fewer item errors. -/
theorem report_fewer {r r' : Rule} (marked : r.Marked r') (scope : Option Handle) (depth : Nat) :
    (w.report r scope depth).Fewer (w.report r' scope depth) := by
  induction r using Rule.induct generalizing r' scope depth with
  | step r ih =>
    cases marked with
    | @mk _ optional children _ marked =>
      rw [report_eq, report_eq]
      refine .asCall (reportAttempt_fewer fun t => ?_) _ _ scope depth
      have empty : children.isEmpty = r.children.isEmpty := by
        rw [Bool.eq_iff_iff, List.isEmpty_iff, List.isEmpty_iff, ← List.length_eq_zero_iff,
          ← List.length_eq_zero_iff, marked.length_eq]
      unfold reading
      dsimp only
      by_cases list : r.kind ≠ .list
      · rw [if_pos list, if_pos list]
        exact .refl _
      · rw [if_neg list, if_neg list, empty]
        refine .bind (.refl _) fun items => ?_
        by_cases none : r.children.isEmpty = true
        · rw [if_pos none, if_pos none]
          exact .refl _
        · rw [if_neg none, if_neg none]
          refine .bind (.inTurn (fun item => ?_) _) fun _ => .refl _
          have fields := reportFields_fewer r.name marked
            (fun child hc _ marked h => ih child hc marked (some h) (depth + 1)) item.2 item.1 []
          exact fields.bind fun _ => .refl _

theorem reports_fewer {rules rules' : List Rule} (marked : List.Forall₂ Rule.Marked rules rules')
    (page : σ) :
    ((w.reports rules').run page).2 = ((w.reports rules).run page).2 ∧
      List.Forall₂ (fun told told' => told.1.Marked told'.1 ∧ told.2.Fewer told'.2)
        ((w.reports rules).run page).1 ((w.reports rules').run page).1 := by
  induction marked generalizing page with
  | nil => exact ⟨rfl, .nil⟩
  | @cons r r' rest rest' first _ ih =>
    obtain ⟨state, fewer⟩ := report_fewer (w := w) first none 1 page
    obtain ⟨last, later⟩ := ih ((w.report r none 1).runIn page).2
    have step : (w.reports (r' :: rest')).run page =
        ((r', ((w.report r' none 1).runIn page).1) ::
          ((w.reports rest').run ((w.report r' none 1).runIn page).2).1,
          ((w.reports rest').run ((w.report r' none 1).runIn page).2).2) := rfl
    rw [step, state]
    exact ⟨last, .cons ⟨first, fewer⟩ later⟩

end Walker

/-- Marked rules leave fewer errors in a result. -/
theorem Rule.errorsOf_sublist {r r' : Rule} {o o' : Outcome Json} (marked : r.Marked r')
    (fewer : o.Fewer o') : (r'.errorsOf o').Sublist (r.errorsOf o) := by
  unfold errorsOf
  by_cases optional : r'.optional = true
  · rw [if_pos optional]
    exact List.nil_sublist _
  · rw [if_neg optional, if_neg (mt marked.optional optional), fewer.value, marked.name_eq]
    cases o.value with
    | ok v => exact fewer.itemErrors
    | error f => exact fewer.itemErrors.cons_cons _

theorem Outcome.Fewer.orNull_eq {o o' : Outcome Json} (h : o.Fewer o') : o'.orNull = o.orNull := by
  unfold orNull
  rw [h.value]

/-! ## What marks are about -/

namespace Rule

/-- A line that a rule on top leaves is on no list at or below an optional rule. -/
theorem Leaves.required_above {rules : List Rule} {r above : Rule} {line : ErrorLine}
    (leaves : r.Leaves line) (distinct : DistinctNames rules) (hr : r ∈ rules)
    (ha : above ∈ trees rules) (below : line.subject ∈ above.tree) : above.optional = false := by
  obtain ⟨required, ⟨f, rfl⟩ | recorded⟩ := leaves
  · rw [distinct.eq_of_above hr ha below]
    exact required
  · induction recorded generalizing rules with
    | field _ _ _ =>
      rw [distinct.eq_of_above hr ha below]
      exact required
    | @nested r child line _ hc requiredChild inner ih =>
      have within : line.subject ∈ r.tree :=
        mem_tree.2 (.inr (mem_trees.2 ⟨child, hc, inner.subject_mem⟩))
      rcases distinct.above_cases hr within ha below with rfl | ha
      · exact required
      · exact ih (distinct.nested hr).2 hc ha below requiredChild

/-- What an error is not: one on an optional rule on top, on an optional child of a list, or on a
list at or below an optional rule. -/
structure SparesOptional (rules : List Rule) (e : String) : Prop where
  top : ∀ r ∈ rules, r.optional = true →
    startsWith e (r.name ++ ": ") = false ∧ startsWith e (r.name ++ "[") = false
  child : ∀ list ∈ trees rules, ∀ child ∈ list.children, child.optional = true →
    ∀ i, startsWith e (itemHead list.name i child.name) = false
  below : ∀ r ∈ trees rules, r.optional = true → ∀ list ∈ r.tree,
    ∀ i field, startsWith e (itemHead list.name i field) = false

theorem Leaves.sparesOptional {rules : List Rule} {r : Rule} {line : ErrorLine}
    (leaves : r.Leaves line) (distinct : DistinctNames rules) (usual : UsualNames rules)
    (hr : r ∈ rules) : SparesOptional rules line.text := by
  have subject : line.subject ∈ trees rules := mem_trees.2 ⟨r, hr, leaves.subject_mem⟩
  have failed : line.failed ∈ trees rules := mem_trees.2 ⟨r, hr, leaves.failed_mem⟩
  have apart : ∀ above ∈ trees rules, above.optional = true → ∀ list ∈ above.tree,
      (startsWith line.text (list.name ++ ":") || startsWith line.text (list.name ++ "[")) =
        false := by
    intro above ha optional list hl
    refine Bool.eq_false_iff.2 fun found => ?_
    have known : list ∈ trees rules := mem_trees_trans ha hl
    have same : list = line.subject := distinct.eq_of_name known subject
      ((ErrorLine.errorsFor_iff (usual _ subject) (usual _ known)).1 found)
    rw [leaves.required_above distinct hr ha (same ▸ hl)] at optional
    cases optional
  have longer (text front rest : String) (h : startsWith text front = false) :
      startsWith text (front ++ rest) = false := by
    refine Bool.eq_false_iff.2 fun found => Bool.eq_false_iff.1 h ?_
    rw [startsWith_iff, String.toList_append] at found
    exact startsWith_iff.2 ((List.prefix_append _ _).trans found)
  refine ⟨fun r' hr' optional => ?_, fun list hl child hc optional i => ?_,
    fun above ha optional list hl i field => ?_⟩
  · obtain ⟨colon, bracket⟩ := Bool.or_eq_false_iff.1
      (apart r' (mem_trees_of_mem hr') optional r' r'.mem_tree_self)
    have shape : r'.name ++ ": " = r'.name ++ ":" ++ " " := by rw [String.append_assoc]; rfl
    exact ⟨shape ▸ longer _ _ _ colon, bracket⟩
  · refine Bool.eq_false_iff.2 fun found => ?_
    have known : child ∈ trees rules := mem_trees_of_child hl hc
    obtain ⟨_, child', f, rfl, -, same⟩ := (ErrorLine.itemHead_iff _ (usual _ subject)
      (usual _ failed) (usual _ hl) (usual _ known)).1 found
    rcases leaves.2 with ⟨_, ⟨⟩⟩ | recorded
    obtain ⟨_, _, _, _, ⟨⟩, _, _, _, required⟩ := recorded.exists_item
    have same : child' = child := distinct.eq_of_name failed known same
    rw [same, optional] at required
    cases required
  · have shape : itemHead list.name i field =
        list.name ++ "[" ++ (toString i ++ "]." ++ field ++ ": ") := by
      simp only [itemHead, String.append_assoc]
    rw [shape]
    exact longer _ _ _ (Bool.or_eq_false_iff.1 (apart above ha optional list hl)).2

end Rule

/-! ## Extractions -/

namespace Schema

theorem find?_isUnlocatable_eq {rules rules' : List Rule}
    (marked : List.Forall₂ Rule.Marked rules rules') :
    (rules'.find? Rule.isUnlocatable).map Rule.name =
      (rules.find? Rule.isUnlocatable).map Rule.name := by
  induction marked with
  | nil => rfl
  | cons first _ ih =>
    rw [List.find?_cons, List.find?_cons, first.isUnlocatable_eq]
    split
    · exact congrArg some first.name_eq
    · exact ih

/-- The values of rules by name, and their errors. -/
theorem told_of_fewer {told told' : List (Rule × Outcome Json)}
    (fewer : List.Forall₂ (fun t t' => t.1.Marked t'.1 ∧ t.2.Fewer t'.2) told told') :
    (told'.map fun t => (t.1.name, t.2.orNull)) = (told.map fun t => (t.1.name, t.2.orNull)) ∧
      (told'.flatMap fun t => t.1.errorsOf t.2).Sublist
        (told.flatMap fun t => t.1.errorsOf t.2) := by
  induction fewer with
  | nil => exact ⟨rfl, List.Sublist.refl _⟩
  | @cons t t' _ _ first _ ih =>
    obtain ⟨values, errors⟩ := ih
    rw [List.map_cons, List.map_cons, List.flatMap_cons, List.flatMap_cons, values,
      first.1.name_eq, first.2.orNull_eq]
    exact ⟨rfl, (Rule.errorsOf_sublist first.1 first.2).append errors⟩

theorem reports_fewer {s s' : Schema} (marked : s.Marked s') (settings : ExtractionSettings)
    (p : Page σ) (page : σ) :
    ((s'.reports settings p).run page).2 = ((s.reports settings p).run page).2 ∧
      List.Forall₂ (fun told told' => told.1.Marked told'.1 ∧ told.2.Fewer told'.2)
        ((s.reports settings p).run page).1 ((s'.reports settings p).run page).1 :=
  Walker.reports_fewer marked.rules _

/-- Marking rules optional leaves an extraction as it is, up to errors that are gone: it ends with
the same fault, or with a result that has the same data and some of the errors in their order. If no
name stands twice, none of them is on a rule that is optional now, or below one. -/
theorem extract_marked {s s' : Schema} (marked : s.Marked s') (settings : ExtractionSettings)
    (p : Page σ) (now : Instant) (pageNumber : Nat) (page : σ) :
    (((s'.extract settings p now pageNumber).runIn page).2 =
      ((s.extract settings p now pageNumber).runIn page).2) ∧
    ((∃ f, ((s.extract settings p now pageNumber).runIn page).1 = .error f ∧
        ((s'.extract settings p now pageNumber).runIn page).1 = .error f) ∨
      ∃ result result', ((s.extract settings p now pageNumber).runIn page).1 = .ok result ∧
        ((s'.extract settings p now pageNumber).runIn page).1 = .ok result' ∧
        result' = { result with errors := result'.errors } ∧
        result'.errors.Sublist result.errors ∧
        (Rule.DistinctNames s'.rules → Rule.UsualNames s'.rules →
          ∀ e ∈ result'.errors, Rule.SparesOptional s'.rules e)) := by
  have lost := find?_isUnlocatable_eq marked.rules
  cases h : s.rules.find? Rule.isUnlocatable with
  | some r =>
    obtain ⟨r', h', same⟩ := Option.map_eq_some_iff.1 (lost.trans (congrArg _ h))
    rw [extract_eq_throw settings p now pageNumber h, extract_eq_throw settings p now pageNumber h',
      same]
    exact ⟨rfl, .inl ⟨_, rfl, rfl⟩⟩
  | none =>
    have h' : s'.rules.find? Rule.isUnlocatable = none :=
      Option.map_eq_none_iff.1 (lost.trans (congrArg _ h))
    obtain ⟨state, fewer⟩ := reports_fewer marked settings p page
    obtain ⟨values, errors⟩ := told_of_fewer fewer
    have id : s'.id = s.id := congrArg (·.id) marked.same
    rw [extract_runIn settings p now s pageNumber h, extract_runIn settings p now s' pageNumber h']
    refine ⟨state, .inr ⟨_, _, rfl, rfl, ?_, errors, fun distinct usual e he => ?_⟩⟩
    · dsimp only
      rw [id, values]
    · obtain ⟨told, ht, he⟩ := List.mem_flatMap.1 he
      obtain ⟨hr, line, rfl, leaves⟩ := leaves_of_mem_errorsOf ht he
      exact leaves.sparesOptional distinct usual hr

/-- Nothing can be read from the elements of the page, and only the field of the outer list is still
an error when the nested list is optional. -/
theorem extract_marked_tagged :
    ∃ result result',
      (((tagged false).extract {} .unreadable ⟨0, 0⟩ 1).runIn ()).1 = .ok result ∧
      (((tagged true).extract {} .unreadable ⟨0, 0⟩ 1).runIn ()).1 = .ok result' ∧
      result.errors = ["items[0].price: Page error: gone", "tags[0].label: Page error: gone"] ∧
      result'.errors = ["items[0].price: Page error: gone"] ∧
      result' = { result with errors := result'.errors } ∧
      ∀ e ∈ result'.errors, Rule.SparesOptional (tagged true).rules e := by
  have field (name : String) : (Rule.ofKind name .text).Marked (.ofKind name .text) :=
    .mk _ nofun .nil
  let tags : Rule := { Rule.ofKind "tags" .list with
    selector := some "b", children := [Rule.ofKind "label" .text] }
  have nested : tags.Marked { tags with optional := true } :=
    .mk _ nofun (.cons (field "label") .nil)
  have marked : (tagged false).Marked (tagged true) :=
    ⟨rfl, .cons (.mk _ nofun (.cons (field "price") (.cons nested .nil))) .nil⟩
  have distinct : Rule.DistinctNames (tagged true).rules := by
    simp [Rule.DistinctNames, Rule.trees, Rule.tree, tagged, Rule.ofKind]
  have usual : Rule.UsualNames (tagged true).rules := by
    simp only [Rule.UsualNames, Rule.trees, Rule.tree, tagged, Rule.ofKind]
    decide
  rcases (extract_marked marked {} .unreadable ⟨0, 0⟩ 1 ()).2 with ⟨_, failed, _⟩ | found
  · cases failed
  · obtain ⟨result, result', ran, ran', same, -, spares⟩ := found
    refine ⟨result, result', ran, ran', ?_, ?_, same, spares distinct usual⟩
    · cases ran
      decide
    · cases ran'
      decide

end Schema

end PageHarvest
