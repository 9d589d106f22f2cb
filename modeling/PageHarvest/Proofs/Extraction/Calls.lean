import PageHarvest.Proofs.Extraction.Failing
import PageHarvest.Proofs.Extraction.Keeping
import PageHarvest.Proofs.Schema.Checking

/-!
# What the check of a schema is good for

The check and the walks find out by different means whether a rule can be located and how deep it
is nested. They agree: for a schema that passed its check, an extraction has a result, and none of
the walks in it, at any depth and at a fallback or not, finds a rule that cannot be located or is
nested too deep. Only a page that raises such a fault by itself can bring one up.
-/

namespace PageHarvest

variable {σ α : Type}

/-- A walk as it is in an extraction by a schema that passed its check. -/
def Walker.Fine (w : Walker σ) (c : Call) : Prop := c.IsWalk w ∧ SparesRules c.value

namespace Walker

variable {w : Walker σ}

/-- A report that is not at fault with the rules, and neither are the walks in it. -/
abbrev Spares (w : Walker σ) (o : Report σ α) : Prop :=
  o.Keeps (fun f => f.blamesRules = false) (fun _ => True) w.Fine

theorem reportAttempt_spares {r : Rule} {scope : Option Handle} {depth : Nat}
    {reading : Target → Report σ Json} (shallow : depth ≤ w.settings.maxRuleDepth)
    (located : scope = none → r.isUnlocatable = false) (h : ∀ t, w.Spares (reading t)) :
    w.Spares (w.reportAttempt r scope depth reading) := by
  unfold reportAttempt
  rw [if_neg (Nat.not_lt.2 shallow)]
  cases ht : r.target scope with
  | error f =>
    obtain ⟨top, lost, _⟩ := Rule.target_eq_error_iff.1 ht
    rw [located top] at lost
    cases lost
  | ok t =>
    refine .bind (.tryCatch (h t) fun first spared => ?_) fun v => .pure _
    cases r.fallback? with
    | none => exact .throw spared
    | some l => exact .tryCatch (h _) fun _ _ => .throw spared

/-- The fields of an item are not at fault where the children of the list are not. -/
theorem reportFields_spares {children : List Rule} {depth : Nat}
    (h : ∀ child ∈ children, ∀ item, w.Spares (w.report child (some item) depth)) (list : String)
    (i : Nat) (item : Handle) (fields : Entries Json) :
    w.Spares (w.reportFields list children i item depth fields) := by
  induction children generalizing fields with
  | nil =>
    unfold reportFields
    exact .pure fields
  | cons child rest ih =>
    unfold reportFields
    have first := h child List.mem_cons_self item
    refine .bind (first.asField (fun _ => id) (fun _ _ => id) fun _ _ _ => trivial) fun v => ?_
    exact ih (fun q hq => h q (List.mem_cons_of_mem _ hq)) _

/-- A rule that fits, and that can be located or has a scope, is not at fault. -/
theorem report_spares (p : w.page.Spares) {r : Rule} {scope : Option Handle} {depth : Nat}
    (fits : r.Fits w.settings.maxRuleDepth depth)
    (located : scope = none → r.isUnlocatable = false) : w.Spares (w.report r scope depth) := by
  induction r using Rule.induct generalizing scope depth with
  | step r ih =>
    refine report_keeps (reportAttempt_spares fits.depth_le located fun t => ?_)
      fun v walk spared => ⟨walk, spared⟩
    have children : ∀ child ∈ r.children, ∀ h, w.Spares (w.report child (some h) (depth + 1)) :=
      fun child hc h => ih child hc (fits.children child hc) nofun
    exact reading_keeps (readAt_spares p r scope t) (find_spares p scope t) (readItems_spares p)
      fun _ i h => reportFields_spares children r.name i h []

theorem reports_fine (p : w.page.Spares) {rules : List Rule}
    (h : ∀ r ∈ rules, r.Fits w.settings.maxRuleDepth 1 ∧ r.isUnlocatable = false) (page : σ) :
    ∀ r ∈ ((w.reports rules).run page).1, ∀ c ∈ r.2.calls, w.Fine c := by
  induction rules generalizing page with
  | nil => exact nofun
  | cons r rest ih =>
    obtain ⟨fits, located⟩ := h r List.mem_cons_self
    intro q hq
    rcases List.mem_cons.1 hq with rfl | later
    · exact (report_spares p fits (fun _ => located) page).calls
    · exact ih (fun x hx => h x (List.mem_cons_of_mem _ hx)) _ q later

end Walker

/-- The walks in an extraction. -/
def Schema.calls (settings : ExtractionSettings) (p : Page σ) (s : Schema) (page : σ) : List Call :=
  ((s.reports settings p).run page).1.flatMap fun r => r.2.calls

/-- For a schema that passed its check, an extraction has a result, and no walk in it finds a rule
that cannot be located or is nested too deep. -/
theorem Schema.extract_of_check {settings : ExtractionSettings} {p : Page σ} {s : Schema}
    {ws : List Warning} (spares : p.Spares) (checked : s.check settings.maxRuleDepth = .ok ws)
    (now : Instant) (pageNumber : Nat) (page : σ) :
    (∃ result after, (s.extract settings p now pageNumber).runIn page = (.ok result, after)) ∧
      ∀ c ∈ s.calls settings p page,
        c.IsWalk ((p.walker settings).run (p.url.runIn page).2).1 ∧ SparesRules c.value := by
  have promised := rules_of_check checked
  have located : s.rules.find? Rule.isUnlocatable = none :=
    List.find?_eq_none.2 fun r hr => by simp [(promised r hr).2]
  refine ⟨⟨_, _, extract_runIn settings p now s pageNumber located page⟩, fun c hc => ?_⟩
  obtain ⟨r, hr, hc⟩ := List.mem_flatMap.1 hc
  exact Walker.reports_fine spares promised _ r hr c hc

/-- A page with one element, of which nothing can be read. -/
def Page.unreadable : Page Unit where
  url := throw (.page "gone")
  queryAll _ _ := return [⟨0, 0⟩]
  text _ := throw (.page "gone")
  innerHtml _ := throw (.page "gone")
  attributeOf _ _ := throw (.page "gone")
  inputValue _ := throw (.page "gone")
  isChecked _ := throw (.page "gone")
  tagName _ := throw (.page "gone")
  metadata := throw (.page "gone")
  screenshot := throw (.page "gone")
  click _ := throw (.page "gone")
  waitForIdle := throw (.page "gone")
  wait _ := throw (.page "gone")

/-- A list with one field, as deep as it may be. -/
def Schema.oneList : Schema where
  id := "s"
  rules := [{ Rule.ofKind "items" .list with
    selector := some "li", children := [Rule.ofKind "title" .text] }]

/-- The field of the one item is walked first, then the list is done. -/
theorem Schema.extract_of_check_oneList :
    (oneList.calls { maxRuleDepth := 2 } .unreadable ()).map (·.depth) = [2, 1] ∧
      ∀ c ∈ oneList.calls { maxRuleDepth := 2 } .unreadable (), SparesRules c.value := by
  have gone {α : Type} : Act.Spares (throw (.page "gone") : Act Unit α) := .throw rfl
  have spares : Page.unreadable.Spares := ⟨fun _ _ => .pure _, fun _ => gone, fun _ => gone,
    fun _ _ => gone, fun _ => gone, fun _ => gone, gone, gone⟩
  have checked : ∃ ws, oneList.check 2 = .ok ws := ⟨_, rfl⟩
  obtain ⟨ws, checked⟩ := checked
  refine ⟨rfl, fun c hc => ?_⟩
  exact ((extract_of_check spares checked ⟨0, 0⟩ 1 ()).2 c hc).2

end PageHarvest
