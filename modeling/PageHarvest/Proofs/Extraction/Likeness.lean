import PageHarvest.Proofs.Extraction.Results
import PageHarvest.Proofs.Page.Likeness

/-!
# Extractions from pages that are alike

What is extracted depends on the answers of a page only, not on the numbers of its elements. From
pages that are alike every rule reads the same, with the same item errors, and the states of the
pages still correspond afterwards.

* `readElement_alike`, `readAt_alike`: what is read from elements;
* `walk_alike`: rules, by induction on their structure;
* `reports_alike`, `extract_alike`: the rules of a schema and its result.
-/

namespace PageHarvest

variable {σ τ : Type} {L : Likeness σ τ}

/-- Targets that stand for the same, by the handles that do. -/
inductive Target.Matches (H : Handle → Handle → Prop) : Target → Target → Prop
  | located (l : Locator) : Matches H (.located l) (.located l)
  | scope {h h' : Handle} : H h h' → Matches H (.scope h) (.scope h')
  | wholePage : Matches H .wholePage .wholePage

theorem Target.Matches.display_eq {H : Handle → Handle → Prop} {x y : Target} (h : Matches H x y) :
    x.display = y.display := by
  cases h <;> rfl

/-- A rule has targets that stand for the same in scopes that do, or the same fault. -/
theorem Rule.target_alike {s : σ} {t : τ} {a b : Option Handle} (r : Rule) (h : L.scopes s t a b) :
    (∃ x y, r.target a = .ok x ∧ r.target b = .ok y ∧ Target.Matches (L.handles s t) x y) ∨
      ∃ f, r.target a = .error f ∧ r.target b = .error f := by
  unfold target
  cases r.locator?.orElse fun _ => r.kind.defaultSelector?.map .css with
  | some l => exact .inl ⟨_, _, rfl, rfl, .located l⟩
  | none =>
    by_cases page : r.kind = .metadata ∨ r.kind = .screenshot
    · simp only [if_pos page]
      exact .inl ⟨_, _, rfl, rfl, .wholePage⟩
    · simp only [if_neg page]
      cases h with
      | some same => exact .inl ⟨_, _, rfl, rfl, .scope same⟩
      | none => exact .inr ⟨_, rfl, rfl⟩

/-- Walkers on pages that are alike, with the same base and settings. -/
structure Walker.Alike (L : Likeness σ τ) (w : Walker σ) (v : Walker τ) : Prop where
  page : w.page.Alike L v.page
  base : w.base = v.base
  settings : w.settings = v.settings

namespace Walker

/-! ## Elements -/

section Elements

variable {w : Walker σ} {v : Walker τ} (alike : w.Alike L v) {s : σ} {t : τ} (st : L.states s t)
  {h h' : Handle} (hh : L.handles s t h h')

include alike

theorem absolutize_eq : w.absolutize = v.absolutize := by
  funext raw
  rw [absolutize, absolutize, alike.base, alike.settings]

include st

theorem find_alike {x y : Target} {a b : Option Handle} (scopes : L.scopes s t a b)
    (targets : Target.Matches (L.handles s t) x y) :
    Act.Alike L L.elements (w.find a x) (v.find b y) s t := by
  cases targets with
  | located l => exact alike.page.queryAll l st scopes
  | scope same => exact .pure st (.cons same .nil)
  | wholePage => exact .pure st .nil

include hh

theorem trimmedText_alike : Act.Alike L Same (w.trimmedText h) (v.trimmedText h') s t :=
  (alike.page.text st hh).mapSame _

theorem readLink_alike : Act.Alike L Same (w.readLink h) (v.readLink h') s t := by
  unfold readLink
  rw [absolutize_eq alike]
  refine (alike.page.text st hh).bindSame fun text s' t' later => ?_
  exact (alike.page.attributeOf _ later.states (later.handles _ _ hh)).mapSame _

theorem readImage_alike : Act.Alike L Same (w.readImage h) (v.readImage h') s t := by
  unfold readImage
  rw [absolutize_eq alike]
  refine (alike.page.attributeOf _ st hh).bindSame fun alt s' t' later => ?_
  exact (alike.page.attributeOf _ later.states (later.handles _ _ hh)).mapSame _

theorem cellTexts_alike : Act.Alike L Same (w.cellTexts h) (v.cellTexts h') s t := by
  refine (alike.page.queryAll _ st (.some hh)).bind fun cells cells' s' t' later same => ?_
  exact .mapElements later.states same fun _ _ _ _ st hh => trimmedText_alike alike st hh

theorem readTable_alike : Act.Alike L Same (w.readTable h) (v.readTable h') s t := by
  refine (alike.page.queryAll _ st (.some hh)).bind fun rows rows' s' t' later same => ?_
  cases same with
  | nil => exact .pure later.states rfl
  | cons header rows =>
    refine (cellTexts_alike alike later.states header).bindSame fun names s'' t'' further => ?_
    refine Act.Alike.mapSame (.mapElements further.states (further.elements rows) ?_) _
    exact fun _ _ _ _ st hh => (cellTexts_alike alike st hh).mapSame _

theorem controlName?_alike : Act.Alike L Same (w.controlName? h) (v.controlName? h') s t := by
  refine (alike.page.attributeOf _ st hh).bindSame fun name s' t' later => ?_
  by_cases named : name.getD "" ≠ ""
  · rw [if_pos named, if_pos named]
    exact .pure later.states rfl
  · rw [if_neg named, if_neg named]
    exact (alike.page.attributeOf _ later.states (later.handles _ _ hh)).mapSame _

theorem addControl_alike (fields : Entries Json) :
    Act.Alike L Same (w.addControl fields h) (v.addControl fields h') s t := by
  refine (controlName?_alike alike st hh).bindSame fun name s' t' later => ?_
  cases name with
  | none => exact .pure later.states rfl
  | some name =>
    refine (alike.page.attributeOf _ later.states (later.handles _ _ hh)).bindSame
      fun kind s'' t'' further => ?_
    have st' := further.states
    have hh' := further.handles _ _ (later.handles _ _ hh)
    dsimp only
    split
    · exact .pure st' rfl
    · split
      · exact (alike.page.isChecked st' hh').mapSame _
      · split
        · exact (alike.page.isChecked st' hh').mapSame _
        · exact (alike.page.inputValue st' hh').mapSame _

theorem readForm_alike : Act.Alike L Same (w.readForm h) (v.readForm h') s t := by
  refine (alike.page.queryAll _ st (.some hh)).bind fun controls controls' s' t' later same => ?_
  refine Act.Alike.mapSame (.foldElements later.states same ?_ _) _
  exact fun fields _ _ _ _ st hh => addControl_alike alike st hh fields

theorem readElement_alike (r : Rule) :
    Act.Alike L Same (w.readElement r h) (v.readElement r h') s t := by
  unfold readElement
  cases r.kind with
  | text => exact (trimmedText_alike alike st hh).mapSame _
  | html => exact (alike.page.innerHtml st hh).mapSame _
  | value => exact (alike.page.inputValue st hh).mapSame _
  | «attribute» =>
    dsimp only
    split
    · exact (alike.page.attributeOf _ st hh).mapSame _
    · exact .throw st _
  | href =>
    unfold readTarget
    rw [absolutize_eq alike]
    exact (alike.page.attributeOf _ st hh).mapSame _
  | src =>
    unfold readTarget
    rw [absolutize_eq alike]
    exact (alike.page.attributeOf _ st hh).mapSame _
  | table => exact readTable_alike alike st hh
  | list => exact .throw st _
  | json => exact (alike.page.text st hh).mapSame _
  | links => exact readLink_alike alike st hh
  | images => exact readImage_alike alike st hh
  | metadata => exact .throw st _
  | form => exact readForm_alike alike st hh
  | screenshot => exact .throw st _

omit hh

theorem readItems_alike {hs hs' : List Handle} (elements : L.elements s t hs hs') :
    Act.Alike L Same (w.readItems hs) (v.readItems hs') s t := by
  refine Act.Alike.mapSame (.mapElements st elements ?_) _
  exact fun _ _ _ _ st hh => (trimmedText_alike alike st hh).mapSame _

theorem readAt_alike (r : Rule) {x y : Target} {a b : Option Handle} (scopes : L.scopes s t a b)
    (targets : Target.Matches (L.handles s t) x y) :
    Act.Alike L Same (w.readAt r a x) (v.readAt r b y) s t := by
  have found := find_alike alike st scopes targets
  unfold readAt
  split
  · exact (alike.page.metadata st).mapSame _
  · exact (alike.page.screenshot st).mapSame _
  · refine found.bind fun hs hs' s' t' later same => ?_
    exact Act.Alike.mapSame (.mapElements later.states same fun _ _ _ _ st hh =>
      readLink_alike alike st hh) _
  · refine found.bind fun hs hs' s' t' later same => ?_
    exact Act.Alike.mapSame (.mapElements later.states same fun _ _ _ _ st hh =>
      readImage_alike alike st hh) _
  · refine found.bind fun hs hs' s' t' later same => ?_
    by_cases multiple : r.multiple = true
    · rw [if_pos multiple, if_pos multiple]
      exact Act.Alike.mapSame (.mapElements later.states same fun _ _ _ _ st hh =>
        readElement_alike alike st hh r) _
    · rw [if_neg multiple, if_neg multiple]
      cases same with
      | nil =>
        rw [targets.display_eq]
        exact .throw later.states _
      | cons first _ => exact readElement_alike alike later.states first r

end Elements

end Walker

/-! ## Walks -/

/-- The likeness of pages with the same item errors in their records. -/
def Likeness.recording (L : Likeness σ τ) : Likeness (Recording σ) (Recording τ) where
  states s t := L.states s.page t.page ∧ s.itemErrors = t.itemErrors
  handles s t := L.handles s.page t.page

/-- Numbered elements that stand for the same. -/
theorem Likeness.elements.zipIdx {s : σ} {t : τ} {hs hs' : List Handle}
    (h : L.elements s t hs hs') (n : Nat) :
    List.Forall₂ (fun x y => L.handles s t x.1 y.1 ∧ x.2 = y.2) (hs.zipIdx n)
      (hs'.zipIdx n) := by
  induction h generalizing n with
  | nil => exact .nil
  | cons same _ ih => exact .cons ⟨same, rfl⟩ (ih (n + 1))

namespace Walk

variable {α β : Type} {s : Recording σ} {t : Recording τ}

theorem onPage_alike {V : σ → τ → α → β → Prop} {a : Act σ α} {b : Act τ β}
    (st : L.recording.states s t) (h : Act.Alike L V a b s.page t.page) :
    Act.Alike L.recording (fun s t => V s.page t.page) (onPage a) (onPage b) s t := by
  have ran {ρ γ : Type} {m : Act ρ γ} {r : Recording ρ} {o : Except Fault γ × ρ}
      (h : m.runIn r.page = o) : (onPage m).runIn r = (o.1, ⟨o.2, r.itemErrors⟩) := h ▸ rfl
  cases h with
  | value ha hb later hv =>
    exact .value (ran ha) (ran hb) ⟨⟨later.states, st.2⟩, later.handles⟩ hv
  | fault ha hb later => exact .fault (ran ha) (ran hb) ⟨⟨later.states, st.2⟩, later.handles⟩

theorem asField_alike {m : Walk σ Json} {n : Walk τ Json} (list : String) (i : Nat) (child : Rule)
    (st : L.recording.states s t) (h : Act.Alike L.recording Same m n s t) :
    Act.Alike L.recording Same (asField list i child m) (asField list i child n) s t := by
  obtain ⟨o, s', t', hm, hn, later⟩ := h.exists_runs
  have left := runIn_asField list i child hm
  have right := runIn_asField list i child hn
  refine .of_fst_eq (by rw [left, right]) ?_
  rw [left, right]
  refine ⟨⟨later.states.1, ?_⟩, later.handles⟩
  show ite _ _ _ = ite _ _ _
  rw [later.states.2, st.2]

end Walk

namespace Walker

variable {w : Walker σ} {v : Walker τ} (alike : w.Alike L v)

include alike

theorem attempt_alike (r : Rule) {a b : Option Handle} (depth : Nat) {s : Recording σ}
    {t : Recording τ} (st : L.recording.states s t) (scopes : L.recording.scopes s t a b)
    {reading : Target → Walk σ Json} {reading' : Target → Walk τ Json}
    (h : ∀ x y s' t', L.recording.Later s t s' t' → Target.Matches (L.recording.handles s' t') x y →
      Act.Alike L.recording Same (reading x) (reading' y) s' t') :
    Act.Alike L.recording Same (w.attempt r a depth reading)
      (v.attempt r b depth reading') s t := by
  unfold attempt
  rw [alike.settings]
  by_cases deep : v.settings.maxRuleDepth < depth
  · rw [if_pos deep, if_pos deep]
    exact .throw st _
  · rw [if_neg deep, if_neg deep]
    rcases r.target_alike scopes with ⟨x, y, hx, hy, targets⟩ | ⟨f, hx, hy⟩
    · rw [hx, hy]
      refine Act.Alike.mapSame (.tryCatch (h x y s t (.refl st) targets) ?_) _
      intro first s' t' later
      cases r.fallback? with
      | none => exact .throw later.states first
      | some l =>
        exact .tryCatch (h _ _ s' t' later (.located l)) fun _ _ _ further =>
          .throw further.states first
    · rw [hx, hy]
      exact .throw st f

omit alike

mutual

/-- Walks over a rule come to the same. -/
theorem walk_alike (alike : w.Alike L v) :
    ∀ (r : Rule) (depth : Nat) {a b : Option Handle} {s : Recording σ}
    {t : Recording τ}, L.recording.states s t → L.recording.scopes s t a b →
      Act.Alike L.recording Same (w.walk r a depth) (v.walk r b depth) s t
  | ⟨id, name, kind, selector, xpath, attributeName, regex, transform, multiple, optional,
      fallbackSelector, children⟩, depth, a, b, s, t, st, scopes => by
    unfold walk
    refine attempt_alike alike _ depth st scopes fun x y s' t' later targets => ?_
    have scopes' := later.scopes scopes
    by_cases list : kind ≠ .list
    · rw [if_pos list, if_pos list]
      exact Walk.onPage_alike later.states (readAt_alike alike later.states.1 _ scopes' targets)
    · rw [if_neg list, if_neg list]
      refine (Walk.onPage_alike later.states
        (find_alike alike later.states.1 scopes' targets)).bind fun hs hs' s₁ t₁ further same => ?_
      by_cases empty : children.isEmpty = true
      · rw [if_pos empty, if_pos empty]
        exact Walk.onPage_alike further.states (readItems_alike alike further.states.1 same)
      · rw [if_neg empty, if_neg empty]
        refine Act.Alike.mapSame (.mapM
          (U := fun s t x y => L.recording.handles s t x.1 y.1 ∧ x.2 = y.2) ?_ further.states
          (same.zipIdx 0) ?_) _
        · exact fun _ _ _ _ x y later numbered => ⟨later.handles _ _ numbered.1, numbered.2⟩
        · rintro ⟨h, i⟩ ⟨h', _⟩ s₂ t₂ st ⟨hh, rfl⟩
          exact (walkFields_alike alike name children i (depth + 1) [] st hh).mapSame _

theorem walkFields_alike (alike : w.Alike L v) (list : String) :
    ∀ (children : List Rule) (i depth : Nat)
    (fields : Entries Json) {h h' : Handle} {s : Recording σ} {t : Recording τ},
    L.recording.states s t → L.recording.handles s t h h' →
      Act.Alike L.recording Same (w.walkFields list children i h depth fields)
        (v.walkFields list children i h' depth fields) s t
  | [], i, depth, fields, h, h', s, t, st, hh => by
    unfold walkFields
    exact .pure st rfl
  | child :: rest, i, depth, fields, h, h', s, t, st, hh => by
    unfold walkFields
    have first := Walk.asField_alike list i child st (walk_alike alike child depth st (.some hh))
    refine first.bindSame fun value s' t' later => ?_
    exact walkFields_alike alike list rest i depth _ later.states (later.handles _ _ hh)

end

end Walker

/-! ## Reports and results -/

/-- Outcomes of the same value with the same item errors. The walks inside them may have scopes with
other numbers. -/
structure Outcome.Agrees {α : Type} (o o' : Outcome α) : Prop where
  value : o.value = o'.value
  itemErrors : o.itemErrors = o'.itemErrors

theorem Outcome.Agrees.orNull_eq {o o' : Outcome Json} (h : o.Agrees o') :
    o.orNull = o'.orNull := by
  rw [orNull, orNull, h.value]

theorem Outcome.Agrees.errorsOf_eq {o o' : Outcome Json} (h : o.Agrees o') (r : Rule) :
    r.errorsOf o = r.errorsOf o' := by
  rw [Rule.errorsOf, Rule.errorsOf, h.value, h.itemErrors]

/-- The same rules with outcomes that agree. -/
def ReportsAgree : List (Rule × Outcome Json) → List (Rule × Outcome Json) → Prop :=
  List.Forall₂ fun x y => x.1 = y.1 ∧ x.2.Agrees y.2

namespace ReportsAgree

variable {xs ys : List (Rule × Outcome Json)} (h : ReportsAgree xs ys)

include h

theorem fields_eq :
    xs.map (fun r => (r.1.name, r.2.orNull)) = ys.map fun r => (r.1.name, r.2.orNull) := by
  induction h with
  | nil => rfl
  | cons same _ ih => rw [List.map_cons, List.map_cons, ih, same.1, same.2.orNull_eq]

theorem errors_eq :
    xs.flatMap (fun r => r.1.errorsOf r.2) = ys.flatMap fun r => r.1.errorsOf r.2 := by
  induction h with
  | nil => rfl
  | cons same _ ih => rw [List.flatMap_cons, List.flatMap_cons, ih, same.1, same.2.errorsOf_eq]

end ReportsAgree

namespace Walker

variable {w : Walker σ} {v : Walker τ} (alike : w.Alike L v) {s : σ} {t : τ} (st : L.states s t)

include alike st

/-- Rules on top report the same. -/
theorem report_alike (r : Rule) (depth : Nat) :
    ((w.report r none depth).runIn s).1.Agrees ((v.report r none depth).runIn t).1 ∧
      L.Later s t ((w.report r none depth).runIn s).2 ((v.report r none depth).runIn t).2 := by
  have walks : Act.Alike L.recording Same (w.walk r none depth) (v.walk r none depth) ⟨s, []⟩
      ⟨t, []⟩ := walk_alike alike r depth ⟨st, rfl⟩ .none
  have value := walks.fst_eq
  have later := walks.later
  rw [w.walk_reports r none depth s [], v.walk_reports r none depth t []] at value later
  exact ⟨⟨value, later.states.2⟩, later.states.1, later.handles⟩

theorem reports_alike (rules : List Rule) :
    ReportsAgree ((w.reports rules).run s).1 ((v.reports rules).run t).1 ∧
      L.Later s t ((w.reports rules).run s).2 ((v.reports rules).run t).2 := by
  induction rules generalizing s t with
  | nil => exact ⟨.nil, .refl st⟩
  | cons r rest ih =>
    obtain ⟨agrees, later⟩ := report_alike alike st r 1
    obtain ⟨others, further⟩ := ih later.states
    exact ⟨.cons ⟨rfl, agrees⟩ others, later.trans further⟩

end Walker

/-- The result with another time. -/
def Result.at (time : Instant) (r : Result) : Result := { r with timestamp := time }

theorem Page.walker_run (p : Page σ) (settings : ExtractionSettings) (s : σ) :
    (p.walker settings).run s =
      (⟨p, (p.url.runIn s).1.toOption.bind fun url => (Url.read url).toOption, settings⟩,
        (p.url.runIn s).2) := by
  show (Page.walker p settings) s = _
  unfold walker Act.runIn
  simp only [bind, StateT.bind, ExceptT.run]
  rcases p.url s with ⟨_ | _, _⟩ <;> rfl

variable {p : Page σ} {q : Page τ} (alike : p.Alike L q) {s : σ} {t : τ} (st : L.states s t)

include alike st

theorem Page.walker_alike (settings : ExtractionSettings) :
    ((p.walker settings).run s).1.Alike L ((q.walker settings).run t).1 ∧
      L.Later s t ((p.walker settings).run s).2 ((q.walker settings).run t).2 := by
  rw [walker_run, walker_run]
  exact ⟨⟨alike, by rw [(alike.url st).fst_eq], rfl⟩, (alike.url st).later⟩

theorem Schema.reports_alike (settings : ExtractionSettings) (schema : Schema) :
    ReportsAgree ((schema.reports settings p).run s).1 ((schema.reports settings q).run t).1 ∧
      L.Later s t ((schema.reports settings p).run s).2 ((schema.reports settings q).run t).2 := by
  have asked := (alike.url st).later
  obtain ⟨walkers, further⟩ := Page.walker_alike alike asked.states settings
  obtain ⟨reports, last⟩ := Walker.reports_alike walkers further.states schema.rules
  exact ⟨reports, (asked.trans further).trans last⟩

/-- Results of pages that are alike differ in their times only. -/
theorem Schema.extract_alike (settings : ExtractionSettings) (now now' : Instant) (schema : Schema)
    (pageNumber : Nat) :
    Act.Alike L (fun _ _ r r' => r.at now = r ∧ r' = r.at now')
      (schema.extract settings p now pageNumber)
      (schema.extract settings q now' pageNumber) s t := by
  cases lost : schema.rules.find? Rule.isUnlocatable with
  | some r =>
    rw [extract_eq_throw settings p now pageNumber lost, extract_eq_throw settings q now' _ lost]
    exact .throw st _
  | none =>
    obtain ⟨agree, later⟩ := reports_alike alike st settings schema
    refine .value (extract_runIn settings p now schema pageNumber lost s)
      (extract_runIn settings q now' schema pageNumber lost t) later ⟨rfl, ?_⟩
    rw [agree.fields_eq, agree.errors_eq, (alike.url st).fst_eq]
    rfl

end PageHarvest
