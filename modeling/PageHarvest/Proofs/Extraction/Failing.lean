import PageHarvest.Extraction.Walk
import PageHarvest.Proofs.Page.Acting

/-!
# What readings fail with

A reading asks a page one thing after the other, so it fails with the faults of the page. It adds
few of its own: an element that is missing, an attribute without a name, and a kind of rule that
does not read from elements. What a page may fail with can depend on the locator of a query; besides
the locator of the rule, readings use three selectors for the parts of tables and forms.

* `Act.FailsWith`: the faults of an action;
* `Page.FailsWith`: those of a page, for queries by some locators;
* `readAt_failsWith`: those of a reading;
* `Page.Spares`, `readAt_spares`: a reading does not blame the rules where the page does not.
-/

namespace PageHarvest

variable {σ α β : Type}

/-- In every state, the action succeeds or fails with such a fault. -/
def Act.FailsWith (F : Fault → Prop) (a : Act σ α) : Prop := ∀ s f, (a.runIn s).1 = .error f → F f

namespace Act.FailsWith

variable {F : Fault → Prop}

theorem pure (x : α) : FailsWith F (Pure.pure x : Act σ α) := nofun

theorem throw {f : Fault} (h : F f) : FailsWith F (MonadExcept.throw f : Act σ α) := by
  rintro s _ ⟨⟩
  exact h

theorem bind {a : Act σ α} {k : α → Act σ β} (ha : a.FailsWith F) (hk : ∀ x, (k x).FailsWith F) :
    FailsWith F (a >>= k) := by
  intro s f failed
  rw [Act.runIn_bind] at failed
  rcases ran : a.runIn s with ⟨f' | x, s'⟩
  · rw [ran] at failed
    cases failed
    exact ha s f (congrArg Prod.fst ran)
  · rw [ran] at failed
    exact hk x s' f failed

theorem mapM {ι : Type} {k : ι → Act σ α} (hk : ∀ x, (k x).FailsWith F) (xs : List ι) :
    FailsWith F (xs.mapM k) := by
  induction xs with
  | nil =>
    rw [List.mapM_nil]
    exact .pure _
  | cons x xs ih =>
    rw [List.mapM_cons]
    exact .bind (hk x) fun _ => .bind ih fun _ => .pure _

theorem foldlM {ι : Type} {k : β → ι → Act σ β} (hk : ∀ b x, (k b x).FailsWith F) (xs : List ι)
    (b : β) : FailsWith F (xs.foldlM k b) := by
  induction xs generalizing b with
  | nil => exact .pure b
  | cons x xs ih =>
    rw [List.foldlM_cons]
    exact .bind (hk b x) fun b' => ih b'

end Act.FailsWith

/-- What a page fails with in all that walks ask of it, as long as its queries are by locators that
are allowed. -/
structure Page.FailsWith (allowed : Locator → Prop) (F : Fault → Prop) (p : Page σ) : Prop where
  queryAll : ∀ scope l, allowed l → (p.queryAll scope l).FailsWith F
  text : ∀ h, (p.text h).FailsWith F
  innerHtml : ∀ h, (p.innerHtml h).FailsWith F
  attributeOf : ∀ h name, (p.attributeOf h name).FailsWith F
  inputValue : ∀ h, (p.inputValue h).FailsWith F
  isChecked : ∀ h, (p.isChecked h).FailsWith F
  metadata : p.metadata.FailsWith F
  screenshot : p.screenshot.FailsWith F

/-- The locators that readings use inside tables and forms. -/
structure Locator.AllowsParts (allowed : Locator → Prop) : Prop where
  cells : allowed (.css "th, td")
  rows : allowed (.css "tr")
  controls : allowed (.css "input, select, textarea")

/-- The faults that readings of a rule add to those of the page. -/
structure Rule.AddsFaults (r : Rule) (F : Fault → Prop) : Prop where
  missing : ∀ selector, F (.selectorNotFound selector)
  unfit : F (.internal (r.kind.title ++ " is not an element strategy"))
  unnamed : r.kind = .attribute → r.attributeName.filter (· != "") = none →
    F (.extraction ("Rule '" ++ r.name ++ "' names no attribute"))

namespace Walker

variable {w : Walker σ} {allowed : Locator → Prop} {F : Fault → Prop}

section

variable (p : w.page.FailsWith allowed F)

include p

theorem trimmedText_failsWith (h : Handle) : (w.trimmedText h).FailsWith F :=
  .bind (p.text h) fun _ => .pure _

theorem readLink_failsWith (h : Handle) : (w.readLink h).FailsWith F :=
  .bind (p.text h) fun _ => .bind (p.attributeOf h _) fun _ => .pure _

theorem readImage_failsWith (h : Handle) : (w.readImage h).FailsWith F :=
  .bind (p.attributeOf h _) fun _ => .bind (p.attributeOf h _) fun _ => .pure _

theorem controlName?_failsWith (h : Handle) : (w.controlName? h).FailsWith F := by
  refine .bind (p.attributeOf h _) fun name => ?_
  by_cases named : name.getD "" ≠ ""
  · rw [if_pos named]
    exact .pure _
  · rw [if_neg named]
    exact .bind (p.attributeOf h _) fun _ => .pure _

theorem addControl_failsWith (fields : Entries Json) (h : Handle) :
    (w.addControl fields h).FailsWith F := by
  refine .bind (controlName?_failsWith p h) fun name => ?_
  cases name with
  | none => exact .pure _
  | some name =>
    refine .bind (p.attributeOf h _) fun kind => ?_
    dsimp only
    split
    · exact .pure _
    · split
      · exact .bind (p.isChecked h) fun _ => .pure _
      · split
        · exact .bind (p.isChecked h) fun _ => .pure _
        · exact .bind (p.inputValue h) fun _ => .pure _

theorem readItems_failsWith (items : List Handle) : (w.readItems items).FailsWith F :=
  .bind (.mapM (fun h => .bind (trimmedText_failsWith p h) fun _ => .pure _) items) fun _ => .pure _

/-- Only a locator asks the page. -/
theorem find_failsWith (scope : Option Handle) {t : Target}
    (located : ∀ l, t = .located l → allowed l) : (w.find scope t).FailsWith F := by
  cases t with
  | located l => exact p.queryAll scope l (located l rfl)
  | scope h => exact .pure _
  | wholePage => exact .pure _

variable (parts : Locator.AllowsParts allowed)

include parts

theorem cellTexts_failsWith (row : Handle) : (w.cellTexts row).FailsWith F :=
  .bind (p.queryAll _ _ parts.cells) fun cells => .mapM (trimmedText_failsWith p) cells

theorem readTable_failsWith (table : Handle) : (w.readTable table).FailsWith F := by
  refine .bind (p.queryAll _ _ parts.rows) fun rows => ?_
  cases rows with
  | nil => exact .pure _
  | cons header rows =>
    refine .bind (cellTexts_failsWith p parts header) fun names => ?_
    exact .bind (.mapM (fun row => .bind (cellTexts_failsWith p parts row) fun _ => .pure _) rows)
      fun _ => .pure _

theorem readForm_failsWith (form : Handle) : (w.readForm form).FailsWith F :=
  .bind (p.queryAll _ _ parts.controls) fun controls =>
    .bind (.foldlM (addControl_failsWith p) controls []) fun _ => .pure _

theorem readElement_failsWith {r : Rule} (adds : r.AddsFaults F) (h : Handle) :
    (w.readElement r h).FailsWith F := by
  unfold readElement
  cases kind : r.kind with
  | text => exact .bind (trimmedText_failsWith p h) fun _ => .pure _
  | html => exact .bind (p.innerHtml h) fun _ => .pure _
  | value => exact .bind (p.inputValue h) fun _ => .pure _
  | «attribute» =>
    dsimp only
    cases named : r.attributeName.filter (· != "") with
    | some name => exact .bind (p.attributeOf h _) fun _ => .pure _
    | none => exact .throw (adds.unnamed kind named)
  | href => exact .bind (p.attributeOf h _) fun _ => .pure _
  | src => exact .bind (p.attributeOf h _) fun _ => .pure _
  | table => exact readTable_failsWith p parts h
  | list => exact .throw (kind ▸ adds.unfit)
  | json => exact .bind (p.text h) fun _ => .pure _
  | links => exact readLink_failsWith p h
  | images => exact readImage_failsWith p h
  | metadata => exact .throw (kind ▸ adds.unfit)
  | form => exact readForm_failsWith p parts h
  | screenshot => exact .throw (kind ▸ adds.unfit)

/-- A reading fails as the page does, with a missing element, or by what its rule lacks. -/
theorem readAt_failsWith {r : Rule} (adds : r.AddsFaults F) (scope : Option Handle) {t : Target}
    (located : ∀ l, t = .located l → allowed l) : (w.readAt r scope t).FailsWith F := by
  have found := find_failsWith p scope located
  unfold readAt
  split
  · exact .bind p.metadata fun _ => .pure _
  · exact .bind p.screenshot fun _ => .pure _
  · exact .bind found fun es => .bind (.mapM (readLink_failsWith p) es) fun _ => .pure _
  · exact .bind found fun es => .bind (.mapM (readImage_failsWith p) es) fun _ => .pure _
  · refine .bind found fun elements => ?_
    by_cases multiple : r.multiple = true
    · rw [if_pos multiple]
      exact .bind (.mapM (readElement_failsWith p parts adds) elements) fun _ => .pure _
    · rw [if_neg multiple]
      cases elements with
      | nil => exact .throw (adds.missing _)
      | cons h _ => exact readElement_failsWith p parts adds h

end

end Walker

/-! ## Faults of the rules

Two kinds of fault are about the rules and not about the page: a rule that cannot be located, and
rules that are nested too deep. What is read from an element fails with one of them only if the page
does. -/

/-- Whether a fault is one of the rules themselves. -/
def Fault.blamesRules : Fault → Bool
  | noSelector _ | maxDepthExceeded _ => true
  | _ => false

/-- A value, or a fault of the page. -/
def SparesRules {α : Type} (v : Except Fault α) : Prop := ∀ f, v = .error f → f.blamesRules = false

theorem sparesRules_ok (x : α) : SparesRules (.ok x : Except Fault α) := nofun

theorem sparesRules_error {f : Fault} (h : f.blamesRules = false) :
    SparesRules (.error f : Except Fault α) := by
  rintro _ ⟨⟩
  exact h

/-- An action that fails with faults of the page only. -/
def Act.Spares (a : Act σ α) : Prop := ∀ s, SparesRules (a.runIn s).1

/-- A page that leaves the rules alone in all that walks ask of it. -/
structure Page.Spares (p : Page σ) : Prop where
  queryAll : ∀ scope l, (p.queryAll scope l).Spares
  text : ∀ h, (p.text h).Spares
  innerHtml : ∀ h, (p.innerHtml h).Spares
  attributeOf : ∀ h name, (p.attributeOf h name).Spares
  inputValue : ∀ h, (p.inputValue h).Spares
  isChecked : ∀ h, (p.isChecked h).Spares
  metadata : p.metadata.Spares
  screenshot : p.screenshot.Spares

namespace Act.Spares

theorem pure (x : α) : Spares (Pure.pure x : Act σ α) := fun _ => sparesRules_ok x

theorem throw {f : Fault} (h : f.blamesRules = false) : Spares (MonadExcept.throw f : Act σ α) :=
  fun _ => sparesRules_error h

end Act.Spares

namespace Walker

variable {w : Walker σ} (p : w.page.Spares)

include p

theorem page_failsWith : w.page.FailsWith (fun _ => True) fun f => f.blamesRules = false :=
  ⟨fun scope l _ => p.queryAll scope l, p.text, p.innerHtml, p.attributeOf, p.inputValue,
    p.isChecked, p.metadata, p.screenshot⟩

theorem find_spares (scope : Option Handle) (t : Target) : (w.find scope t).Spares :=
  find_failsWith (page_failsWith p) scope fun _ _ => trivial

theorem readItems_spares (items : List Handle) : (w.readItems items).Spares :=
  readItems_failsWith (page_failsWith p) items

theorem readAt_spares (r : Rule) (scope : Option Handle) (t : Target) :
    (w.readAt r scope t).Spares :=
  readAt_failsWith (page_failsWith p) ⟨trivial, trivial, trivial⟩
    ⟨fun _ => rfl, rfl, fun _ _ => rfl⟩ scope fun _ _ => trivial

end Walker

end PageHarvest
