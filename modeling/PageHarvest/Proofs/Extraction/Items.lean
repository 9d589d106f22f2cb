import PageHarvest.Proofs.Extraction.Calls
import PageHarvest.Proofs.Extraction.Refinement
import PageHarvest.Proofs.Extraction.Telling
import PageHarvest.Proofs.Page.Faults
import PageHarvest.Proofs.Page.Session

/-!
# What item errors say of the data

An item error of a list is on the field of an item: the list is in the data, it has the item, and
the field is null. That holds whenever the list comes to an end. A list that is given up, because
rules are nested too deep in it, leaves the errors of the fields that it had read until then; they
are on items that are in no result. Only lists that are nested too deep are given up like that.

* `Rule.Describes`: what an item error says of the items;
* `Report.Sound`: a report with such item errors, or one that was given up;
* `extract_describes`: the errors on the fields of a list on top.
-/

namespace PageHarvest

open Text

variable {σ α β : Type}

/-! ## Reports that go on -/

namespace Report

variable {o : Report σ α} {page : σ}

/-- Where a sequence of reports succeeds, both of them did. -/
theorem exists_of_bind_ok {k : α → Report σ β} {y : β}
    (done : ((o >>= k).runIn page).1.value = .ok y) :
    ∃ x, (o.runIn page).1.value = .ok x ∧ ((k x).runIn (o.runIn page).2).1.value = .ok y ∧
      ((o >>= k).runIn page).1.itemErrors =
        (o.runIn page).1.itemErrors ++ ((k x).runIn (o.runIn page).2).1.itemErrors := by
  cases hv : (o.runIn page).1.value with
  | ok x =>
    rw [runIn_bind_ok hv] at done ⊢
    exact ⟨x, rfl, done, rfl⟩
  | error f =>
    rw [runIn_bind_error hv] at done
    cases done

/-- The item errors of reports in a row are on what their reports came to. -/
theorem exists_of_inTurn_ok {ι : Type} {k : ι → Report σ α} {Q : ι → α → String → Prop}
    (each : ∀ x page v, ((k x).runIn page).1.value = .ok v →
      ∀ e ∈ ((k x).runIn page).1.itemErrors, Q x v e)
    {xs : List ι} {vs : List α} (done : ((inTurn (xs.map k)).runIn page).1.value = .ok vs) :
    ∀ e ∈ ((inTurn (xs.map k)).runIn page).1.itemErrors,
      ∃ (i : Nat) (x : ι) (v : α), xs[i]? = some x ∧ vs[i]? = some v ∧ Q x v e := by
  induction xs generalizing page vs with
  | nil => exact nofun
  | cons x xs ih =>
    obtain ⟨v, first, rest, errors⟩ := exists_of_bind_ok (k := fun v => do
      return v :: (← inTurn (xs.map k))) done
    obtain ⟨vs', later, last, errors'⟩ := exists_of_bind_ok rest
    cases last
    rw [errors'] at errors
    intro e he
    have he : e ∈ ((k x).runIn page).1.itemErrors ++
        (((inTurn (xs.map k)).runIn ((k x).runIn page).2).1.itemErrors ++ []) :=
      (congrArg (e ∈ ·) errors).mp he
    rw [List.append_nil] at he
    rcases List.mem_append.1 he with he | he
    · exact ⟨0, x, v, rfl, rfl, each x page v first e he⟩
    · obtain ⟨i, y, u, hy, hu, q⟩ := ih later e he
      exact ⟨i + 1, y, u, hy, hu, q⟩

end Report

/-! ## One item -/

/-- The value is an array with such an item, in which the field is null. -/
def Json.NullAt (i : Nat) (field : String) (v : Json) : Prop :=
  ∃ items fields, v = .arr items ∧ items[i]? = some (.obj fields) ∧
    Entries.get? field fields = some .null

/-- What an item error of a list says of its items: it is on a field of one of them, which is null,
or it comes from a list nested in the list. -/
inductive Rule.Describes (r : Rule) (items : List Json) : String → Prop
  | field {i : Nat} {child : Rule} {f : Fault} {fields : Entries Json} : child ∈ r.children →
      items[i]? = some (.obj fields) → fields.get? child.name = some .null →
      r.Describes items (ErrorLine.item r i child f).text
  | nested {child : Rule} {line : ErrorLine} : child ∈ r.children → child.Records line →
      r.Describes items line.text

/-- The item error of a field comes from its child, or the field is null. -/
theorem Outcome.null_of_mem_asField {list : String} {i : Nat} {child : Rule} {o : Outcome Json}
    {v : Json} (done : (o.asField list i child).value = .ok v) {e : String}
    (he : e ∈ (o.asField list i child).itemErrors) :
    e ∈ o.itemErrors ∨ v = .null ∧ ∃ f : Fault, e = itemHead list i child.name ++ f.message := by
  by_cases optional : child.optional = true
  · rw [asField, if_pos optional] at he
    cases he
  · rw [asField, if_neg optional] at he
    refine (List.mem_append.1 he).imp_right fun own => ?_
    have done : fieldValue o.value = .ok v := done
    unfold ownErrors at own
    split at own
    · cases own
    · cases own
    · rename_i f shallow hv
      rw [hv, fieldValue.eq_3 f shallow] at done
      cases done
      exact ⟨rfl, f, List.mem_singleton.1 own⟩

namespace Walker

variable {w : Walker σ} {r : Rule} {depth : Nat} {page : σ}

/-- The item errors of an item are on its fields. A field that was read keeps its value, as no child
that follows has its name. -/
theorem reportFields_describes {rest : List Rule} (sub : rest ⊆ r.children)
    (distinct : (rest.map Rule.name).Nodup) {i : Nat} {h : Handle} {fields fields' : Entries Json}
    (done : ((w.reportFields r.name rest i h depth fields).runIn page).1.value = .ok fields') :
    (∀ name, name ∉ rest.map Rule.name → fields'.get? name = fields.get? name) ∧
      ∀ e ∈ ((w.reportFields r.name rest i h depth fields).runIn page).1.itemErrors,
        (∃ child ∈ r.children, ∃ line, child.Records line ∧ e = line.text) ∨
          ∃ child ∈ r.children, ∃ f, e = (ErrorLine.item r i child f).text ∧
            fields'.get? child.name = some .null := by
  induction rest generalizing fields page with
  | nil =>
    unfold reportFields at done ⊢
    cases done
    exact ⟨fun _ _ => rfl, nofun⟩
  | cons child rest ih =>
    unfold reportFields at done ⊢
    obtain ⟨hc, sub⟩ := List.cons_subset.1 sub
    obtain ⟨new, distinct⟩ := List.nodup_cons.1 (List.map_cons ▸ distinct)
    obtain ⟨v, first, later, errors⟩ := Report.exists_of_bind_ok done
    obtain ⟨kept, described⟩ := ih sub distinct later
    refine ⟨fun name other => ?_, fun e he => ?_⟩
    · rw [List.map_cons, List.mem_cons, not_or] at other
      obtain ⟨apart, other⟩ := other
      rw [kept name other, Entries.get?_insert, if_neg (Ne.symm apart)]
    · rw [errors] at he
      rcases List.mem_append.1 he with he | he
      · rcases Outcome.null_of_mem_asField first he with inner | ⟨rfl, f, rfl⟩
        · obtain ⟨line, shape, recorded, _⟩ :=
            (report_records child (some h) depth page).itemErrors e inner
          exact .inl ⟨child, hc, line, recorded, shape⟩
        · refine .inr ⟨child, hc, f, rfl, ?_⟩
          rw [kept _ new, Entries.get?_insert, if_pos rfl]
      · exact described e he

theorem reportItem_describes (distinct : (r.children.map Rule.name).Nodup) {item : Handle × Nat}
    {v : Json} (done : ((w.reportItem r depth item).runIn page).1.value = .ok v) {items : List Json}
    (place : items[item.2]? = some v) :
    ∀ e ∈ ((w.reportItem r depth item).runIn page).1.itemErrors, r.Describes items e := by
  unfold reportItem at done ⊢
  obtain ⟨fields, read, last, errors⟩ := Report.exists_of_bind_ok done
  cases last
  intro e he
  rw [errors] at he
  have he : e ∈ (Report.runIn _ page).1.itemErrors ++ [] := he
  rw [List.append_nil] at he
  rcases (reportFields_describes (List.Subset.refl _) distinct read).2 e he with
    ⟨child, hc, line, recorded, rfl⟩ | ⟨child, hc, f, rfl, null⟩
  · exact .nested hc recorded
  · exact .field hc place null

/-- On a page that leaves the rules alone, no nesting is too deep but the one that is allowed. -/
theorem blames_of_spares (p : w.page.Spares) (q : Rule) :
    w.Blames (fun _ f => ∀ d, f = .maxDepthExceeded d → d = w.settings.maxRuleDepth) q := by
  have spared {γ : Type} {a : Act σ γ} (h : a.Spares) :
      a.FailsWith fun f => ∀ d, f = .maxDepthExceeded d → d = w.settings.maxRuleDepth := by
    rintro s _ failed d rfl
    cases h s _ failed
  refine ⟨?_, fun _ _ _ allowed => allowed, ?_, fun scope t _ => spared (readAt_spares p q scope t),
    fun scope t _ => spared (find_spares p scope t), fun items => spared (readItems_spares p items)⟩
  · rintro d ⟨⟩
    rfl
  · rintro scope f lost d rfl
    obtain ⟨_, _, ⟨⟩⟩ := Rule.target_eq_error_iff.1 lost

/-- The fault of a list that is given up while it reads its items. -/
def Stops (w : Walker σ) (r : Rule) (depth : Nat) (f : Fault) : Prop :=
  f = .maxDepthExceeded w.settings.maxRuleDepth ∧ ¬ r.Fits w.settings.maxRuleDepth depth

theorem reportFields_stops (p : w.page.Spares) (list : r.kind = .list) (i : Nat) (h : Handle) :
    (w.reportFields r.name r.children i h (depth + 1) []).Keeps (w.Stops r depth) (fun _ => True)
      fun _ => True := by
  refine fun page => ⟨fun f failed => ?_, fun _ _ => trivial, fun _ _ => trivial⟩
  have told := reportFields_tells (P := fun _ => True) (F := (· = .maxDepthExceeded _)) list
    (fun child _ d allowed => congrArg _ (allowed d rfl))
    (fun child _ h => (report_tells (fun q _ => blames_of_spares p q) (some h) (depth + 1)).mono
      (fun _ => id) (fun _ => id) fun _ _ => trivial) r.children (List.Subset.refl _) i h []
  obtain rfl := (told page).fault f failed
  refine ⟨rfl, fun fits => ?_⟩
  have children : ∀ child ∈ r.children, ∀ item,
      w.Spares (w.report child (some item) (depth + 1)) := fun child hc _ =>
    report_spares p (fits.children child hc) nofun
  cases (reportFields_spares children r.name i h [] page).fault _ failed

end Walker

/-! ## Lists -/

/-- Each item error is on the items of the value, or the report was given up. -/
def Report.Sound (F : Fault → Prop) (r : Rule) (o : Report σ Json) : Prop := ∀ page,
  ∀ e ∈ (o.runIn page).1.itemErrors,
    (∃ items, (o.runIn page).1.value = .ok (.arr items) ∧ r.Describes items e) ∨
      ∃ f, (o.runIn page).1.value = .error f ∧ F f

namespace Report.Sound

variable {F : Fault → Prop} {r : Rule} {o : Report σ Json}

theorem throw (f : Fault) : Sound F r (MonadExcept.throw f : Report σ Json) := fun _ _ => nofun

theorem orThrow (h : o.Sound F r) : Sound F r (tryCatch o fun f => MonadExcept.throw f) := by
  intro page e he
  cases hv : (o.runIn page).1.value with
  | ok v =>
    rw [runIn_tryCatch_ok hv] at he ⊢
    exact h page e he
  | error f =>
    rw [runIn_tryCatch_error hv] at he ⊢
    have he : e ∈ (o.runIn page).1.itemErrors ++ [] := he
    rw [List.append_nil] at he
    have sound := h page e he
    rw [hv] at sound
    exact sound

/-- A report that is never given up has no item errors when it fails. -/
theorem orElse {k : Fault → Report σ Json} (h : o.Sound (fun _ => False) r)
    (hk : ∀ f, (k f).Sound F r) : Sound F r (tryCatch o k) := by
  intro page e he
  cases hv : (o.runIn page).1.value with
  | ok v =>
    rw [runIn_tryCatch_ok hv] at he ⊢
    exact (h page e he).imp_right fun ⟨_, _, never⟩ => never.elim
  | error f =>
    rw [runIn_tryCatch_error hv] at he ⊢
    rcases List.mem_append.1 he with first | later
    · obtain ⟨_, done, _⟩ | ⟨_, _, never⟩ := h page e first
      · rw [hv] at done
        cases done
      · exact never.elim
    · exact hk f _ e later

theorem mono {G : Fault → Prop} (h : o.Sound F r) (imp : ∀ f, F f → G f) : o.Sound G r :=
  fun page e he => (h page e he).imp_right fun ⟨f, failed, given⟩ => ⟨f, failed, imp f given⟩

end Report.Sound

/-- Refining a list leaves its records alone. -/
theorem Rule.exists_refine_arr {r : Rule}
    (compiles : ∀ pattern, r.regex = some pattern → (Regex.ofPattern? pattern).isSome)
    (items : List Json) :
    ∃ change : Json → Json, (∀ es, change (.obj es) = .obj es) ∧
      r.refine (.arr items) = .arr (items.map change) := by
  have keeps : ¬ r.Drops := by
    rintro ⟨-, pattern, regex, none⟩
    have compiled := compiles pattern regex
    rw [none] at compiled
    cases compiled
  obtain ⟨change, refined⟩ := Rule.refine_eq_mapTexts keeps
  exact ⟨_, fun _ => rfl, refined (.arr items)⟩

theorem Rule.Describes.map {r : Rule} {items : List Json} {e : String} (h : r.Describes items e)
    {change : Json → Json} (records : ∀ es, change (.obj es) = .obj es) :
    r.Describes (items.map change) e := by
  cases h with
  | field hc item null =>
    refine .field hc ?_ null
    rw [List.getElem?_map, item, Option.map_some, records]
  | nested hc recorded => exact .nested hc recorded

theorem Report.Sound.refine {F : Fault → Prop} {r : Rule} {o : Report σ Json} (h : o.Sound F r)
    (compiles : ∀ pattern, r.regex = some pattern → (Regex.ofPattern? pattern).isSome) :
    Report.Sound F r (do let v ← o; return r.refine v) := by
  intro page e he
  cases hv : (o.runIn page).1.value with
  | ok v =>
    rw [runIn_bind_ok hv] at he ⊢
    have he : e ∈ (o.runIn page).1.itemErrors ++ [] := he
    rw [List.append_nil] at he
    obtain ⟨items, done, described⟩ | ⟨_, failed, _⟩ := h page e he
    · obtain rfl : v = .arr items := Except.ok.inj (hv.symm.trans done)
      obtain ⟨change, records, refined⟩ := Rule.exists_refine_arr compiles items
      exact .inl ⟨_, congrArg Except.ok refined, described.map records⟩
    · rw [hv] at failed
      cases failed
  | error f =>
    rw [runIn_bind_error hv] at he ⊢
    have sound := h page e he
    rw [hv] at sound
    exact sound.imp_left fun ⟨_, done, _⟩ => nomatch done

namespace Walker

variable {w : Walker σ} {r : Rule} {depth : Nat}

/-- The item errors of a reading that comes to an end are on the items that were read. -/
theorem reading_sound (p : w.page.Spares) (list : r.kind = .list)
    (distinct : (r.children.map Rule.name).Nodup) (scope : Option Handle) (t : Target) :
    (w.reading r scope depth t).Sound (w.Stops r depth) r := by
  intro page e
  unfold reading
  rw [if_neg (not_not.2 list)]
  cases found : ((Report.onPage (w.find scope t)).runIn page).1.value with
  | error f =>
    rw [Report.runIn_bind_error found]
    exact nofun
  | ok items =>
    rw [Report.runIn_bind_ok found]
    by_cases empty : r.children.isEmpty = true
    · rw [if_pos empty]
      exact nofun
    · rw [if_neg empty]
      let item := w.reportItem r (depth + 1)
      let after := ((Report.onPage (w.find scope t)).runIn page).2
      show e ∈ [] ++ _ → _
      rw [List.nil_append]
      cases read : ((Report.inTurn (items.zipIdx.map item)).runIn after).1.value with
      | error f =>
        rw [Report.runIn_bind_error read]
        have stops : (Report.inTurn (items.zipIdx.map item)).Keeps (w.Stops r depth)
            (fun _ => True) fun _ => True := by
          refine .inTurn fun o ho => ?_
          obtain ⟨h, _, rfl⟩ := List.mem_map.1 ho
          exact .bind (reportFields_stops p list h.2 h.1) fun _ => .pure _
        exact fun _ => .inr ⟨f, rfl, (stops after).fault f read⟩
      | ok vs =>
        rw [Report.runIn_bind_ok read]
        intro he
        have he : e ∈ ((Report.inTurn (items.zipIdx.map item)).runIn after).1.itemErrors ++ [] := he
        rw [List.append_nil] at he
        refine .inl ⟨vs, rfl, ?_⟩
        obtain ⟨i, ⟨h, j⟩, v, place, value, described⟩ := Report.exists_of_inTurn_ok (k := item)
          (Q := fun h v e => vs[h.2]? = some v → r.Describes vs e)
          (fun h page v done e he here => reportItem_describes distinct done here e he) read e he
        rw [List.getElem?_zipIdx, Option.map_eq_some_iff] at place
        obtain ⟨_, _, ⟨⟩⟩ := place
        exact described ((Nat.zero_add i).symm ▸ value)

/-- The item errors of a rule are on the items of its value, unless it was given up. That can change
where it has a fallback, so such a rule is fine only if none of its rules is nested too deep. -/
theorem report_sound (p : w.page.Spares) (list : r.kind = .list)
    (distinct : (r.children.map Rule.name).Nodup)
    (compiles : ∀ pattern, r.regex = some pattern → (Regex.ofPattern? pattern).isSome)
    (safe : r.Fits w.settings.maxRuleDepth depth ∨ r.fallback? = none) (scope : Option Handle) :
    (w.report r scope depth).Sound (w.Stops r depth) r := by
  suffices sound : (w.reportAttempt r scope depth (w.reading r scope depth)).Sound
      (w.Stops r depth) r by
    rw [report_eq]
    exact sound
  unfold reportAttempt
  by_cases deep : w.settings.maxRuleDepth < depth
  · rw [if_pos deep]
    exact .throw _
  · rw [if_neg deep]
    cases r.target scope with
    | error f => exact .throw f
    | ok t =>
      refine .refine ?_ compiles
      have sound (t : Target) : (w.reading r scope depth t).Sound (w.Stops r depth) r :=
        reading_sound p list distinct scope t
      cases hf : r.fallback? with
      | none => exact (sound t).orThrow
      | some l =>
        have fits : r.Fits w.settings.maxRuleDepth depth :=
          safe.resolve_right (by rw [hf]; exact nofun)
        have never : ∀ f, w.Stops r depth f → False := fun f stops => stops.2 fits
        exact ((sound t).mono never).orElse fun first =>
          ((sound (.located l)).mono never).orElse fun _ => .throw first

end Walker

/-! ## Extractions -/

/-- A line that begins with the place of a field of a list on top is one on this field. -/
theorem Rule.Leaves.eq_item {rules : List Rule} (distinct : DistinctNames rules)
    (usual : UsualNames rules) {r list child : Rule} {line : ErrorLine} (leaves : r.Leaves line)
    (hr : r ∈ rules) (hl : list ∈ rules) (hc : child ∈ list.children) {i : Nat}
    (on : startsWith line.text (itemHead list.name i child.name) = true) :
    r = list ∧ ∃ f, line = .item list i child f := by
  have subject : line.subject ∈ trees rules := mem_trees.2 ⟨r, hr, leaves.subject_mem⟩
  have failed : line.failed ∈ trees rules := mem_trees.2 ⟨r, hr, leaves.failed_mem⟩
  have known : list ∈ trees rules := mem_trees_of_mem hl
  have knownChild : child ∈ trees rules := mem_trees_of_child known hc
  obtain ⟨list', child', f, rfl, same, sameChild⟩ := (ErrorLine.itemHead_iff _ (usual _ subject)
    (usual _ failed) (usual _ known) (usual _ knownChild)).1 on
  have here : r = list :=
    distinct.eq_of_tree hr hl leaves.subject_mem list.mem_tree_self same
  have list_eq : list' = list := distinct.eq_of_name subject known same
  have child_eq : child' = child := distinct.eq_of_name failed knownChild sameChild
  exact ⟨here, f, by rw [list_eq, child_eq]⟩

/-- What describes items, and begins with the place of a field, is on this field. -/
theorem Rule.Describes.null_of_startsWith {rules : List Rule} (distinct : DistinctNames rules)
    (usual : UsualNames rules) {list child : Rule} (hl : list ∈ rules)
    (hc : child ∈ list.children) {items : List Json} {e : String}
    (describes : list.Describes items e) {i : Nat}
    (on : startsWith e (itemHead list.name i child.name) = true) :
    (Json.arr items).NullAt i child.name := by
  have known : list ∈ trees rules := mem_trees_of_mem hl
  have knownChild : ∀ c ∈ list.children, c ∈ trees rules := fun _ => mem_trees_of_child known
  cases describes with
  | @field j c f fields hc' item null =>
    obtain ⟨_, _, _, ⟨⟩, _, same⟩ := (ErrorLine.itemHead_iff (.item list j c f) (usual _ known)
      (usual _ (knownChild c hc')) (usual _ known) (usual _ (knownChild child hc))).1 on
    exact ⟨items, fields, rfl, item, same ▸ null⟩
  | @nested c line hc' recorded =>
    have below : line.subject ∈ trees list.children :=
      mem_trees.2 ⟨c, hc', recorded.subject_mem⟩
    have failed : line.failed ∈ trees rules := mem_trees.2
      ⟨list, hl, mem_tree.2 (.inr (mem_trees.2 ⟨c, hc', mem_tree.2 (.inr recorded.failed_mem)⟩))⟩
    have subject : line.subject ∈ trees rules :=
      mem_trees.2 ⟨list, hl, mem_tree.2 (.inr below)⟩
    obtain ⟨list', _, _, rfl, same, _⟩ := (ErrorLine.itemHead_iff _ (usual _ subject)
      (usual _ failed) (usual _ known) (usual _ (knownChild child hc))).1 on
    exact absurd same (distinct.name_ne hl below)

namespace Schema

/-- An error on a field of a list on top, on any page that leaves the rules alone. -/
theorem null_of_told {settings : ExtractionSettings} {p : Page σ} {s : Schema} (spares : p.Spares)
    (distinct : Rule.DistinctNames s.rules) (usual : Rule.UsualNames s.rules)
    (compile : ∀ r ∈ s.rules, ∀ pattern, r.regex = some pattern →
      (Regex.ofPattern? pattern).isSome)
    {page : σ} {told : Rule × Outcome Json} (ht : told ∈ ((s.reports settings p).run page).1)
    {e : String} (he : e ∈ told.1.errorsOf told.2) {list child : Rule} (hl : list ∈ s.rules)
    (hc : child ∈ list.children) {i : Nat}
    (on : startsWith e (itemHead list.name i child.name) = true) :
    told.1 = list ∧
      ((∃ v, told.2.value = .ok v ∧ v.NullAt i child.name) ∨
        ¬ list.Fits settings.maxRuleDepth 1 ∧ (list.fallback? = none →
          told.2.value = .error (.maxDepthExceeded settings.maxRuleDepth))) := by
  obtain ⟨top, line, rfl, leaves⟩ := leaves_of_mem_errorsOf ht he
  obtain ⟨rfl, f, rfl⟩ := leaves.eq_item distinct usual top hl hc on
  refine ⟨rfl, ?_⟩
  obtain ⟨_, page', shape⟩ := Walker.exists_of_mem_reports ht
  have usualList : isUsualName told.1.name = true := usual _ (Rule.mem_trees_of_mem hl)
  have usualChild : isUsualName child.name = true :=
    usual _ (Rule.mem_trees_of_child (Rule.mem_trees_of_mem hl) hc)
  have inner : (ErrorLine.item told.1 i child f).text ∈ told.2.itemErrors := by
    refine (Rule.mem_errorsOf.1 he).2.resolve_right ?_
    rintro ⟨g, _, same⟩
    rw [same] at on
    obtain ⟨_, _, _, ⟨⟩, _⟩ := (ErrorLine.itemHead_iff (.rule told.1 g) usualList usualList
      usualList usualChild).1 on
  have list : told.1.kind = .list := by
    rcases leaves.2 with ⟨_, ⟨⟩⟩ | recorded
    exact recorded.kind_eq
  by_cases safe : told.1.Fits settings.maxRuleDepth 1 ∨ told.1.fallback? = none
  · have sound := Walker.report_sound (w := ((p.walker settings).run (p.url.runIn page).2).1) spares
      list (distinct.nested hl).2.nodup_names (compile _ hl) safe none page' _ (shape ▸ inner)
    rcases sound with ⟨items, done, described⟩ | ⟨_, failed, rfl, deep⟩
    · exact .inl ⟨_, shape ▸ done, described.null_of_startsWith distinct usual hl hc on⟩
    · exact .inr ⟨deep, fun _ => shape ▸ failed⟩
  · exact .inr ⟨fun fits => safe (.inl fits), fun none => absurd (.inr none) safe⟩

/-- Among rules with names of their own, each one has its value in the data. -/
theorem get?_of_told {s : Schema} (distinct : (s.rules.map Rule.name).Nodup)
    {settings : ExtractionSettings} {p : Page σ} {page : σ} {told : Rule × Outcome Json}
    (ht : told ∈ ((s.reports settings p).run page).1) :
    (Entries.ofList (((s.reports settings p).run page).1.map fun t =>
      (t.1.name, t.2.orNull))).get? told.1.name = some told.2.orNull := by
  have rules : ((s.reports settings p).run page).1.map Prod.fst = s.rules :=
    Walker.fst_of_reports _ _ _
  have keys : Entries.keys (((s.reports settings p).run page).1.map fun t =>
      (t.1.name, t.2.orNull)) = s.rules.map Rule.name := by
    rw [← rules, Entries.keys, List.map_map, List.map_map]
    rfl
  have once : (Entries.keys (((s.reports settings p).run page).1.map fun t =>
      (t.1.name, t.2.orNull))).Nodup := keys ▸ distinct
  rw [Entries.ofList_of_nodup once]
  exact Entries.get?_of_mem once (List.mem_map.2 ⟨told, ht, rfl⟩)

theorem describes_of_spares {settings : ExtractionSettings} {p : Page σ} {s : Schema}
    (spares : p.Spares) (distinct : Rule.DistinctNames s.rules) (usual : Rule.UsualNames s.rules)
    (compile : ∀ r ∈ s.rules, ∀ pattern, r.regex = some pattern →
      (Regex.ofPattern? pattern).isSome)
    {now : Instant} {pageNumber : Nat} {page after : σ} {result : Result}
    (ran : (s.extract settings p now pageNumber).runIn page = (.ok result, after))
    {list child : Rule} (hl : list ∈ s.rules) (hc : child ∈ list.children) {e : String}
    (he : e ∈ result.errors) {i : Nat}
    (on : startsWith e (itemHead list.name i child.name) = true) :
    (∃ v, result.data.get? list.name = some v ∧ v.NullAt i child.name) ∨
      ¬ list.Fits settings.maxRuleDepth 1 ∧ (list.fallback? = none →
        result.data.get? list.name = some .null ∧
          (ErrorLine.rule list (.maxDepthExceeded settings.maxRuleDepth)).text ∈
            result.errors) := by
  rw [extract_runIn settings p now s pageNumber (located_of_extract ran)] at ran
  cases ran
  obtain ⟨told, ht, he⟩ := List.mem_flatMap.1 he
  have value := get?_of_told distinct.nodup_names ht
  have required : told.1.optional = false := (Rule.mem_errorsOf.1 he).1
  obtain ⟨rfl, ⟨v, done, null⟩ | ⟨deep, givenUp⟩⟩ :=
    null_of_told spares distinct usual compile ht he hl hc on
  · refine .inl ⟨v, value.trans ?_, null⟩
    rw [Outcome.orNull, done]
  · refine .inr ⟨deep, fun none => ⟨value.trans ?_, List.mem_flatMap.2 ⟨told, ht, ?_⟩⟩⟩
    · rw [Outcome.orNull, givenUp none]
    · exact Rule.mem_errorsOf.2 ⟨required, .inr ⟨_, givenUp none, rfl⟩⟩

/-- Each error on a field of a list on top describes the data: the list is there, it has the item,
and the field is null. Only a list that is nested too deep may have been given up; without a
fallback it is null itself then, and has an error of its own. -/
theorem extract_describes {settings : ExtractionSettings} {s : Schema}
    (distinct : Rule.DistinctNames s.rules) (usual : Rule.UsualNames s.rules)
    (compile : ∀ r ∈ s.rules, ∀ pattern, r.regex = some pattern →
      (Regex.ofPattern? pattern).isSome)
    {now : Instant} {pageNumber : Nat} {site after : Site} {result : Result}
    (ran : (s.extract settings Site.page now pageNumber).runIn site = (.ok result, after))
    {list child : Rule} (hl : list ∈ s.rules) (hc : child ∈ list.children) {e : String}
    (he : e ∈ result.errors) {i : Nat}
    (on : startsWith e (itemHead list.name i child.name) = true) :
    (∃ v, result.data.get? list.name = some v ∧ v.NullAt i child.name) ∨
      ¬ list.Fits settings.maxRuleDepth 1 ∧ (list.fallback? = none →
        result.data.get? list.name = some .null ∧
          (ErrorLine.rule list (.maxDepthExceeded settings.maxRuleDepth)).text ∈ result.errors) :=
  describes_of_spares Site.page_spares distinct usual compile ran hl hc he on

/-- The links of a page, each with a field that names no attribute. -/
def links : Rule :=
  { Rule.ofKind "links" .list with
    selector := some "a", children := [Rule.ofKind "price" .attribute] }

def linkPrices : Schema where
  id := "s"
  rules := [links]

open Site.Session in
theorem errors_linkPrices :
    ((linkPrices.reports {} Site.page).run firstOfTwo).1.flatMap (fun t => t.1.errorsOf t.2) =
      ["links[0].price: Extraction error: Rule 'price' names no attribute"] := by
  let w := ((Site.page.walker {}).run firstOfTwo).1
  have found : ((Report.onPage (w.find none (.located (.css "a")))).runIn firstOfTwo).1.value =
      .ok [⟨0, 0⟩] := by
    have all := Site.query_runIn_ok findPlaces_firstOfTwo
    exact congrArg Prod.fst all
  obtain ⟨calls, read⟩ : ∃ calls, ((w.reading links none 1 (.located (.css "a"))).runIn
      firstOfTwo).1 = ⟨.ok (.arr [.obj [("price", .null)]]),
        ["links[0].price: Extraction error: Rule 'price' names no attribute"], calls⟩ := by
    unfold Walker.reading
    rw [if_neg (by decide), Report.runIn_bind_ok found]
    exact ⟨_, rfl⟩
  have told : ((linkPrices.reports {} Site.page).run firstOfTwo).1 =
      [(links, ((w.report links none 1).runIn firstOfTwo).1)] := rfl
  have shallow : 1 ≤ w.settings.maxRuleDepth := by decide
  have target : links.target none = .ok (.located (.css "a")) := by decide
  obtain ⟨value, errors⟩ := Walker.report_of_reading_ok shallow target (congrArg Outcome.value read)
  rw [told, List.flatMap_singleton, Rule.errorsOf, if_neg (by decide), value, errors, read]

/-- The one item has the null that the error is about. -/
theorem extract_describes_linkPrices :
    ∃ result after, (linkPrices.extract {} Site.page ⟨0, 0⟩ 1).runIn Site.Session.firstOfTwo =
        (.ok result, after) ∧
      result.errors = ["links[0].price: Extraction error: Rule 'price' names no attribute"] ∧
      ∃ v, result.data.get? "links" = some v ∧ v.NullAt 0 "price" := by
  have distinct : Rule.DistinctNames linkPrices.rules := by
    simp [Rule.DistinctNames, Rule.trees, Rule.tree, linkPrices, links, Rule.ofKind]
  have usual : Rule.UsualNames linkPrices.rules := by
    simp only [Rule.UsualNames, Rule.trees, Rule.tree, linkPrices, links, Rule.ofKind]
    decide
  have compile : ∀ r ∈ linkPrices.rules, ∀ pattern, r.regex = some pattern →
      (Regex.ofPattern? pattern).isSome := by
    intro r hr
    rw [List.mem_singleton.1 hr]
    intro pattern some
    cases some
  have ran := extract_runIn {} Site.page ⟨0, 0⟩ linkPrices 1 rfl Site.Session.firstOfTwo
  refine ⟨_, _, ran, errors_linkPrices, ?_⟩
  have hl : links ∈ linkPrices.rules := List.mem_cons_self
  have hc : Rule.ofKind "price" .attribute ∈ links.children := List.mem_cons_self
  have on : startsWith "links[0].price: Extraction error: Rule 'price' names no attribute"
      (itemHead "links" 0 "price") = true := by decide
  have described := extract_describes distinct usual compile ran hl hc
    (errors_linkPrices.symm ▸ List.mem_singleton_self _) on
  refine described.resolve_right fun deep => deep.1 ?_
  refine .mk (by decide) fun child hc => ?_
  rw [List.mem_singleton.1 hc]
  exact .mk (by decide) fun _ h => absurd h List.not_mem_nil

end Schema

end PageHarvest
