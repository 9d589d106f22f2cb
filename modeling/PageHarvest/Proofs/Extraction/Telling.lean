import PageHarvest.Proofs.Extraction.Calls

/-!
# What a report can tell

Whatever a page does, the item errors that a rule reports are lines on the rule and on the rules
nested in it, and the walks inside are walks over these rules. Nothing else is ever said of a rule:
no line on an optional child, and none on a rule below an optional child.

* `Rule.Records`: the lines that a rule may record, one constructor for each way down the tree;
* `report_tells`: faults that a page may blame a rule with are the only ones that are told of it;
* `Leaves.subject_eq`: a line that begins with another name is on the items of a nested list;
* `extract_attributes`: a result finds its errors under the names that they begin with.
-/

namespace PageHarvest

/-- The lines among the item errors of a rule. A line on a child comes from the list itself, and one
from further down from a list nested in it. -/
inductive Rule.Records : Rule → ErrorLine → Prop
  | field {r child : Rule} {i : Nat} {f : Fault} : r.kind = .list → child ∈ r.children →
      child.optional = false → r.Records (.item r i child f)
  | nested {r child : Rule} {line : ErrorLine} : r.kind = .list → child ∈ r.children →
      child.optional = false → child.Records line → r.Records line

/-- The lines that a rule on top leaves in a result. -/
def Rule.Leaves (r : Rule) (line : ErrorLine) : Prop :=
  r.optional = false ∧ ((∃ f, line = .rule r f) ∨ r.Records line)

namespace Rule.Records

variable {r : Rule} {line : ErrorLine}

theorem kind_eq (h : r.Records line) : r.kind = .list := by
  cases h <;> assumption

/-- A recorded line is on a child of a list. -/
theorem exists_item (h : r.Records line) : ∃ list i child f, line = .item list i child f ∧
    list ∈ r.tree ∧ list.kind = .list ∧ child ∈ list.children ∧ child.optional = false := by
  induction h with
  | field list hc required => exact ⟨_, _, _, _, rfl, mem_tree_self _, list, hc, required⟩
  | nested _ hc _ _ ih =>
    obtain ⟨list, i, child, f, shape, below, rest⟩ := ih
    exact ⟨list, i, child, f, shape, mem_tree.2 (.inr (mem_trees.2 ⟨_, hc, below⟩)), rest⟩

theorem subject_mem (h : r.Records line) : line.subject ∈ r.tree := by
  obtain ⟨list, i, child, f, rfl, below, _⟩ := h.exists_item
  exact below

theorem failed_mem (h : r.Records line) : line.failed ∈ trees r.children := by
  obtain ⟨list, i, child, f, rfl, below, _, hc, _⟩ := h.exists_item
  rcases mem_tree.1 below with rfl | below
  · exact mem_trees_of_mem hc
  · exact mem_trees_of_child below hc

end Rule.Records

namespace Rule.Leaves

variable {r : Rule} {line : ErrorLine}

theorem subject_mem (h : r.Leaves line) : line.subject ∈ r.tree := by
  rcases h.2 with ⟨f, rfl⟩ | recorded
  · exact mem_tree_self r
  · exact recorded.subject_mem

theorem failed_mem (h : r.Leaves line) : line.failed ∈ r.tree := by
  rcases h.2 with ⟨f, rfl⟩ | recorded
  · exact mem_tree_self r
  · exact mem_tree.2 (.inr recorded.failed_mem)

end Rule.Leaves

namespace Walker

variable {σ : Type} (w : Walker σ)

/-- The faults that a walk over a rule may end with, by all that it can meet at its target. A
nesting that is too deep for a child is one of its own. -/
structure Blames (A : Rule → Fault → Prop) (r : Rule) : Prop where
  deep : A r (.maxDepthExceeded w.settings.maxRuleDepth)
  below : ∀ child ∈ r.children, ∀ d, A child (.maxDepthExceeded d) → A r (.maxDepthExceeded d)
  target : ∀ scope f, r.target scope = .error f → A r f
  readAt : ∀ scope t, r.target scope = .ok t → (w.readAt r scope t).FailsWith (A r)
  find : ∀ scope t, r.target scope = .ok t → (w.find scope t).FailsWith (A r)
  readItems : ∀ items, (w.readItems items).FailsWith (A r)

/-- The item errors of a rule whose rules may be blamed with such faults. -/
def Tells (A : Rule → Fault → Prop) (r : Rule) (e : String) : Prop :=
  ∃ line : ErrorLine, e = line.text ∧ r.Records line ∧ A line.failed line.fault

variable {w} {A : Rule → Fault → Prop} {P : Call → Prop}

/-- The fields of an item fail only with a child that is nested too deep. -/
theorem reportFields_tells {r : Rule} (list : r.kind = .list) {depth : Nat} {F : Fault → Prop}
    (below : ∀ child ∈ r.children, ∀ d, A child (.maxDepthExceeded d) → F (.maxDepthExceeded d))
    (children : ∀ child ∈ r.children, ∀ h,
      (w.report child (some h) depth).Keeps (A child) (Tells A child) P)
    (rest : List Rule) (sub : rest ⊆ r.children) (i : Nat) (h : Handle) (fields : Entries Json) :
    (w.reportFields r.name rest i h depth fields).Keeps F (Tells A r) P := by
  induction rest generalizing fields with
  | nil =>
    unfold reportFields
    exact .pure fields
  | cons child rest ih =>
    unfold reportFields
    obtain ⟨hc, sub⟩ := List.cons_subset.1 sub
    refine .bind ((children child hc h).asField (below child hc) ?_ ?_) fun v => ih sub _
    · rintro required _ ⟨line, rfl, recorded, blamed⟩
      exact ⟨line, rfl, .nested list hc required recorded, blamed⟩
    · intro required f blamed
      exact ⟨.item r i child f, rfl, .field list hc required, blamed⟩

/-- The fault at the fallback is never told. -/
theorem reportAttempt_tells {r : Rule} {scope : Option Handle} {depth : Nat} (b : w.Blames A r)
    (children : ∀ child ∈ r.children, ∀ h,
      (w.report child (some h) (depth + 1)).Keeps (A child) (Tells A child) P) :
    (w.reportAttempt r scope depth (w.reading r scope depth)).Keeps (A r) (Tells A r) P := by
  unfold reportAttempt
  by_cases tooDeep : w.settings.maxRuleDepth < depth
  · rw [if_pos tooDeep]
    exact .throw b.deep
  · rw [if_neg tooDeep]
    cases ht : r.target scope with
    | error f => exact .throw (b.target scope f ht)
    | ok t =>
      have fields {F : Fault → Prop}
          (below : ∀ child ∈ r.children, ∀ d,
            A child (.maxDepthExceeded d) → F (.maxDepthExceeded d)) (list : r.kind = .list)
          (i : Nat) (h : Handle) :
          (w.reportFields r.name r.children i h (depth + 1) []).Keeps F (Tells A r) P :=
        reportFields_tells list below children r.children (List.Subset.refl _) i h []
      have atTarget := reading_keeps (b.readAt scope t ht) (b.find scope t ht) b.readItems
        (fields b.below)
      refine .bind (.tryCatch atTarget fun first blamed => ?_) fun v => .pure _
      cases r.fallback? with
      | none => exact .throw blamed
      | some l =>
        have atFallback :
            (w.reading r scope depth (.located l)).Keeps (fun _ => True) (Tells A r) P :=
          reading_keeps (fun _ _ _ => trivial) (fun _ _ _ => trivial) (fun _ _ _ _ => trivial)
            (fields fun _ _ _ _ => trivial)
        exact .tryCatch atFallback fun _ _ => .throw blamed

/-- Of a rule and of those nested in it, only faults are told that they may be blamed with. -/
theorem report_tells {r : Rule} (b : ∀ q ∈ r.tree, w.Blames A q) (scope : Option Handle)
    (depth : Nat) :
    (w.report r scope depth).Keeps (A r) (Tells A r) fun c =>
      c.rule ∈ r.tree ∧ c.IsWalk w ∧ ∀ f, c.value = .error f → A c.rule f := by
  induction r using Rule.induct generalizing scope depth with
  | step r ih =>
    refine report_keeps (reportAttempt_tells (b r r.mem_tree_self) fun child hc h => ?_)
      fun v walk blamed => ⟨r.mem_tree_self, walk, blamed⟩
    have below : ∀ {q}, q ∈ child.tree → q ∈ r.tree := fun hq =>
      Rule.mem_tree.2 (.inr (Rule.mem_trees.2 ⟨child, hc, hq⟩))
    exact (ih child hc (fun q hq => b q (below hq)) (some h) (depth + 1)).mono (fun _ => id)
      (fun _ => id) fun c told => ⟨below told.1, told.2⟩

theorem blames_any (r : Rule) : w.Blames (fun _ _ => True) r :=
  ⟨trivial, fun _ _ _ _ => trivial, fun _ _ _ => trivial, fun _ _ _ _ _ _ => trivial,
    fun _ _ _ _ _ _ => trivial, fun _ _ _ _ => trivial⟩

theorem report_records (r : Rule) (scope : Option Handle) (depth : Nat) :
    (w.report r scope depth).Keeps (fun _ => True) (Tells (fun _ _ => True) r) fun _ => True :=
  (report_tells (fun q _ => blames_any q) scope depth).mono (fun _ => id) (fun _ => id)
    fun _ _ => trivial

/-- What is told of rules on top is what they come to, each in some state of the page. -/
theorem exists_of_mem_reports {rules : List Rule} {page : σ} {told : Rule × Outcome Json}
    (ht : told ∈ ((w.reports rules).run page).1) :
    told.1 ∈ rules ∧ ∃ page', told.2 = ((w.report told.1 none 1).runIn page').1 := by
  induction rules generalizing page with
  | nil => cases ht
  | cons r rest ih =>
    rcases List.mem_cons.1 ht with rfl | later
    · exact ⟨List.mem_cons_self, page, rfl⟩
    · obtain ⟨hr, page', shape⟩ := ih later
      exact ⟨List.mem_cons_of_mem _ hr, page', shape⟩

theorem reports_tell {rules : List Rule} (b : ∀ q ∈ Rule.trees rules, w.Blames A q) {page : σ}
    {told : Rule × Outcome Json} (ht : told ∈ ((w.reports rules).run page).1) :
    told.2.Keeps (A told.1) (Tells A told.1) fun c =>
      c.rule ∈ told.1.tree ∧ c.IsWalk w ∧ ∀ f, c.value = .error f → A c.rule f := by
  obtain ⟨hr, page', shape⟩ := exists_of_mem_reports ht
  rw [shape]
  exact report_tells (fun q hq => b q (Rule.mem_trees.2 ⟨_, hr, hq⟩)) none 1 page'

end Walker

/-- The errors of a rule that is not optional: its item errors, and one on its own fault. -/
theorem Rule.mem_errorsOf {r : Rule} {o : Outcome Json} {e : String} :
    e ∈ r.errorsOf o ↔ r.optional = false ∧
      (e ∈ o.itemErrors ∨ ∃ f, o.value = .error f ∧ e = (ErrorLine.rule r f).text) := by
  unfold errorsOf
  by_cases optional : r.optional = true
  · simp [optional]
  · cases o.value with
    | ok v => simp [optional]
    | error f => simp [optional, ErrorLine.text, or_comm]

/-- An entry that a rule leaves in a result is a line on the rule or on one nested in it. -/
theorem Rule.errorsOf_tells {A : Rule → Fault → Prop} {P : Call → Prop} {r : Rule}
    {o : Outcome Json} (kept : o.Keeps (A r) (Walker.Tells A r) P) {e : String}
    (he : e ∈ r.errorsOf o) :
    ∃ line : ErrorLine, e = line.text ∧ r.Leaves line ∧ A line.failed line.fault := by
  obtain ⟨required, inner | ⟨f, failed, rfl⟩⟩ := mem_errorsOf.1 he
  · obtain ⟨line, rfl, recorded, blamed⟩ := kept.itemErrors e inner
    exact ⟨line, rfl, ⟨required, .inr recorded⟩, blamed⟩
  · exact ⟨.rule r f, rfl, ⟨required, .inl ⟨f, rfl⟩⟩, kept.fault f failed⟩

/-- Whatever the page does, what is told of a rule on top are lines that it leaves. -/
theorem Schema.leaves_of_mem_errorsOf {settings : ExtractionSettings} {p : Page σ} {s : Schema}
    {page : σ} {told : Rule × Outcome Json} (ht : told ∈ ((s.reports settings p).run page).1)
    {e : String} (he : e ∈ told.1.errorsOf told.2) :
    told.1 ∈ s.rules ∧ ∃ line : ErrorLine, e = line.text ∧ told.1.Leaves line := by
  have kept := Walker.reports_tell (A := fun _ _ => True) (fun q _ => Walker.blames_any q) ht
  obtain ⟨line, shape, leaves, _⟩ := Rule.errorsOf_tells (A := fun _ _ => True) kept he
  exact ⟨(Walker.exists_of_mem_reports ht).1, line, shape, leaves⟩

/-- A list with a field and with a list nested in it, which may be optional. -/
def Schema.tagged (optional : Bool) : Schema where
  id := "s"
  rules := [{ Rule.ofKind "items" .list with
    selector := some "li"
    children := [Rule.ofKind "price" .text, { Rule.ofKind "tags" .list with
      selector := some "b", optional, children := [Rule.ofKind "label" .text] }] }]

/-! ## Names in errors -/

namespace Rule

/-- The lists below the rule leave no errors: they are optional. -/
def HushesLists (r : Rule) : Prop :=
  ∀ child ∈ r.children, child.kind = .list → child.optional = true

variable {r : Rule} {line : ErrorLine}

/-- A line that begins with the name of another rule is on the items of a nested list. -/
theorem Leaves.subject_eq (h : r.Leaves line) (hushes : r.HushesLists) : line.subject = r := by
  obtain ⟨_, ⟨f, rfl⟩ | recorded⟩ := h
  · rfl
  · cases recorded with
    | field _ _ _ => rfl
    | nested _ hc required inner =>
      rw [hushes _ hc inner.kind_eq] at required
      cases required

end Rule

/-- A line among the errors of a result is found under the name of its subject. -/
theorem Result.mem_errorsFor_iff {result : Result} {line : ErrorLine} {name : String}
    (mem : line.text ∈ result.errors) (usual : isUsualName line.subject.name = true)
    (named : isUsualName name = true) :
    line.text ∈ result.errorsFor name ↔ name = line.subject.name := by
  rw [errorsFor, List.mem_filter, ErrorLine.errorsFor_iff usual named, and_iff_right mem]

namespace Schema

variable {σ : Type}

/-- The errors of a result are those that its rules leave, one after the other. Each one begins with
the name of a list in the tree of its rule and is found under that name, so it is found under the
name of its rule and of no other one on top if and only if it begins with it. Where the lists in a
list are optional, all errors are found like that. -/
theorem extract_attributes {s : Schema} (distinct : (s.rules.map Rule.name).Nodup)
    (usual : Rule.UsualNames s.rules) (located : s.rules.find? Rule.isUnlocatable = none)
    (settings : ExtractionSettings) (p : Page σ) (now : Instant) (pageNumber : Nat) (page : σ) :
    ∃ result after, (s.extract settings p now pageNumber).runIn page = (.ok result, after) ∧
      (∀ e, e ∈ result.errors ↔
        ∃ told ∈ ((s.reports settings p).run page).1, e ∈ told.1.errorsOf told.2) ∧
      ∀ told ∈ ((s.reports settings p).run page).1, ∀ e ∈ told.1.errorsOf told.2,
        told.1 ∈ s.rules ∧ ∃ line : ErrorLine, e = line.text ∧ told.1.Leaves line ∧
          (∀ name, isUsualName name = true →
            (e ∈ result.errorsFor name ↔ name = line.subject.name)) ∧
          ((∀ r ∈ s.rules, e ∈ result.errorsFor r.name ↔ r = told.1) ↔
            line.subject.name = told.1.name) ∧
          (told.1.HushesLists → line.subject = told.1) := by
  let errors := ((s.reports settings p).run page).1.flatMap fun told => told.1.errorsOf told.2
  refine ⟨_, _, extract_runIn settings p now s pageNumber located page,
    fun e => List.mem_flatMap, fun told ht e he => ?_⟩
  obtain ⟨top, line, rfl, leaves⟩ := leaves_of_mem_errorsOf ht he
  have mem : line.text ∈ errors := List.mem_flatMap.2 ⟨told, ht, he⟩
  have subject : isUsualName line.subject.name = true :=
    usual _ (Rule.mem_trees.2 ⟨_, top, leaves.subject_mem⟩)
  refine ⟨top, line, rfl, leaves, fun name named => Result.mem_errorsFor_iff mem subject named, ?_,
    leaves.subject_eq⟩
  have named : ∀ r ∈ s.rules, isUsualName r.name = true := fun r hr =>
    usual r (Rule.mem_trees_of_mem hr)
  constructor
  · intro right
    have own := (right told.1 top).2 rfl
    exact ((Result.mem_errorsFor_iff mem subject (named _ top)).1 own).symm
  · intro same r hr
    rw [Result.mem_errorsFor_iff mem subject (named r hr), same]
    constructor
    · exact List.inj_on_of_nodup_map distinct hr top
    · exact congrArg Rule.name

/-- A nested list with the name of a rule on top. -/
def homonymous : Schema :=
  { tagged false with
    rules := (tagged false).rules ++ [{ Rule.ofKind "tags" .text with selector := some "b" }] }

/-- The error of the nested list is found under the name of the rule that it does not come from. -/
theorem extract_attributes_homonymous :
    ∃ result after, (homonymous.extract {} .unreadable ⟨0, 0⟩ 1).runIn () = (.ok result, after) ∧
      result.errorsFor "items" = ["items[0].price: Page error: gone"] ∧
      result.errorsFor "tags" = ["tags[0].label: Page error: gone", "tags: Page error: gone"] ∧
      ∀ told ∈ ((homonymous.reports {} .unreadable).run ()).1, told.1.name = "items" →
        "tags[0].label: Page error: gone" ∈ told.1.errorsOf told.2 →
          ¬ ∀ r ∈ homonymous.rules,
            "tags[0].label: Page error: gone" ∈ result.errorsFor r.name ↔ r = told.1 := by
  have distinct : (homonymous.rules.map Rule.name).Nodup := by decide
  have usual : Rule.UsualNames homonymous.rules := by
    simp only [Rule.UsualNames, Rule.trees, Rule.tree, homonymous, tagged, Rule.ofKind,
      List.cons_append, List.nil_append]
    decide
  obtain ⟨result, after, ran, _, attributed⟩ :=
    extract_attributes distinct usual rfl {} .unreadable ⟨0, 0⟩ 1 ()
  have items : result.errorsFor "items" = ["items[0].price: Page error: gone"] := by
    cases ran
    decide
  have tags : result.errorsFor "tags" =
      ["tags[0].label: Page error: gone", "tags: Page error: gone"] := by
    cases ran
    decide
  refine ⟨result, after, ran, items, tags, fun told ht name he right => ?_⟩
  obtain ⟨_, line, _, _, named, attributed, _⟩ := attributed told ht _ he
  have subject : "tags" = line.subject.name := (named "tags" (by decide)).1 (by simp [tags])
  have same : "tags" = "items" := (subject.trans (attributed.1 right)).trans name
  exact absurd same (by decide)

end Schema

end PageHarvest
