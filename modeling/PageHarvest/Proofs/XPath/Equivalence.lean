import PageHarvest.Proofs.XPath.Readable
import PageHarvest.Proofs.XPath.Separation

/-!
# When a path and its selector agree

The main result on the translation of paths. For every text that writes a path with identifiers for
names and gets a selector, the selector selects the node-set of the path in every tree if the path
is faithful to its selector. A path that selects nothing in any tree aside, this is the only case:
otherwise the selector is not read, or some tree tells the two apart.
-/

namespace PageHarvest.XPath

open Html Css

/-- The selector is read, and selects the node-set of the path in every tree that compares the names
of the path as they are. Values are compared with case. -/
def Agrees (css : String) (p : Path) : Prop :=
  ∃ sel, Selector.read? css = some sel ∧ ∀ d : Document, d.IsTree → d.KeepsNames p.names →
    ∀ q, q ∈ sel.exact.select d ↔ p.Selects d q

namespace Path

/-- Names are identifiers, and values are of characters that a document can have. -/
structure IsPlain (p : Path) : Prop where
  names : ∀ s ∈ p.steps, s.NamesIdent
  values : ∀ t ∈ p.terms, t.HasNoNull

/-- Some tree has a node that the path selects. -/
def IsPossible (p : Path) : Prop :=
  ∃ d : Document, d.IsTree ∧ d.KeepsNames p.names ∧ ∃ q, p.Selects d q

end Path

/-! ## What the steps of a match find -/

section Found

variable {d : Document} {steps : List (Axis × Step)} {nodes : Place → Prop} {left : Css.Complex}

/-- In a tree where a path selects something, every step does. -/
theorem exists_of_foldl_advance {q : Place} (h : steps.foldl (advance d) nodes q) :
    (∃ q, nodes q) ∧ ∀ s ∈ steps, ∃ c q, q ∈ s.2.select d c := by
  induction steps generalizing nodes with
  | nil => exact ⟨⟨q, h⟩, fun _ h => nomatch h⟩
  | cons s steps ih =>
    obtain ⟨⟨q', c, context, hq'⟩, later⟩ := ih h
    refine ⟨?_, fun u hu => ?_⟩
    · obtain ⟨axis, s⟩ := s
      cases axis with
      | child => exact ⟨c, context⟩
      | descendant =>
        obtain ⟨a, ha, _⟩ := context
        exact ⟨a, ha⟩
    · rcases List.mem_cons.1 hu with rfl | hu
      · exact ⟨c, q', hq'⟩
      · exact later u hu

/-- A place with an element of which the compound of a step holds. -/
def Found (d : Document) (s : Step) : Prop :=
  ∃ i c e root, d.element? (i :: c) = some e ∧
    ∀ x ∈ Simple.exactEach (s.parts root), x.holds d none (i :: c) = true

/-- Where a selector holds, each of its compounds holds of some element. -/
theorem found_of_foldl_join {q : Place} (hq : (d.element? q).isSome = true)
    (h : (steps.foldl joinStep left).exact.holds d none q = true) :
    (∃ q, (d.element? q).isSome = true ∧ left.exact.holds d none q = true) ∧
      ∀ s ∈ steps, Found d s.2 := by
  induction steps generalizing left with
  | nil => exact ⟨⟨q, hq, h⟩, fun _ h => nomatch h⟩
  | cons s steps ih =>
    obtain ⟨⟨q', hq', joined⟩, later⟩ := ih h
    cases q' with
    | nil => cases hq'
    | cons i up =>
      obtain ⟨parts, r, hr, holds⟩ := join_holds_iff.1 joined
      refine ⟨⟨r, isSome_of_mem_related hr, holds⟩, fun u hu => ?_⟩
      rcases List.mem_cons.1 hu with rfl | hu
      · obtain ⟨e, he⟩ := Option.isSome_iff_exists.1 hq'
        exact ⟨i, up, e, false, he, parts⟩
      · exact later u hu

/-- A step that selects something and whose compound holds of something has a level where it selects
the element, but its compound does not hold unless the two ask for the same. -/
theorem exists_fits {s : Step} (tree : d.IsTree) (hk : d.KeepsNames s.names)
    (hs : s.accepted = true) {c q : Place} (hq : q ∈ s.select d c) (hf : Found d s) :
    ∃ l, Fits d s l := by
  obtain ⟨⟨i, e, rfl, he⟩, named, tests, asked⟩ := (mem_select_iff tree.cut hs).1 hq
  obtain ⟨j, c', f, root, hf, parts⟩ := hf
  obtain ⟨_, _, places, _⟩ := (parts_hold_iff tree hk hf).1 parts
  have own : s.name = "*" ∨ e.name = s.name := (hasName_iff he).1 named
  cases hn : numbers s.predicates with
  | cons n rest =>
    exact ⟨(e, s.before d (i :: c)), own, ⟨_, he, tests⟩, asked, fun none => by simp [hn] at none⟩
  | nil =>
    have any : ∀ place, asksFor place (numbers s.predicates) := by
      rw [hn]
      exact fun _ => trivial
    -- one place behind the one that the selector counts to
    refine ⟨(e, s.before d (j :: c') + 1), own, ⟨_, he, tests⟩, any _, fun _ m hm => ?_⟩
    have same := places m hm
    omega

/-- A list of partners, one for each member. -/
theorem exists_forall₂ {α β : Type} {R : α → β → Prop} {as : List α}
    (h : ∀ a ∈ as, ∃ b, R a b) : ∃ bs, List.Forall₂ R as bs := by
  induction as with
  | nil => exact ⟨[], .nil⟩
  | cons a as ih =>
    obtain ⟨b, hb⟩ := h a List.mem_cons_self
    obtain ⟨bs, hbs⟩ := ih fun x hx => h x (List.mem_cons_of_mem _ hx)
    exact ⟨b :: bs, .cons hb hbs⟩

theorem exists_of_mem_right {α β : Type} {R : α → β → Prop} {as : List α} {bs : List β}
    (h : List.Forall₂ R as bs) {b : β} (hb : b ∈ bs) : ∃ a ∈ as, R a b := by
  induction h with
  | nil => cases hb
  | cons hr _ ih =>
    rcases List.mem_cons.1 hb with rfl | hb
    · exact ⟨_, List.mem_cons_self, hr⟩
    · obtain ⟨a, ha, hr⟩ := ih hb
      exact ⟨a, List.mem_cons_of_mem _ ha, hr⟩

end Found

/-! ## The two directions -/

namespace Path

variable {p : Path} {css : String}

/-- The steps with the axes that lead to them. -/
def links (p : Path) : List (Axis × Step) := (p.anchor.axis, p.first) :: p.rest

theorem mem_steps_of_link {s : Axis × Step} (h : s ∈ p.links) : s.2 ∈ p.steps := by
  rcases List.mem_cons.1 h with rfl | h
  · exact List.mem_cons_self
  · exact mem_steps_of_rest h

theorem mem_terms {s : Step} (h : s ∈ p.steps) {t : Term} (ht : t ∈ s.terms) : t ∈ p.terms :=
  List.mem_flatMap.2 ⟨s, h, ht⟩

/-- The selector of a faithful path selects its node-set. -/
theorem Faithful.agrees (hf : p.Faithful) (plain : p.IsPlain) (hs : p.accepted = true) :
    Agrees p.toCss p := by
  have kept : ∀ t ∈ p.terms, ∀ c ∈ t.value, isKept c = true := by
    intro t ht
    obtain ⟨s, hm, ht'⟩ := List.mem_flatMap.1 ht
    exact isKept_of_not_broken (plain.values t ht) ((hf s hm).values t ht').1
  exact ⟨_, read?_toCss plain.names kept, fun d tree hk =>
    mem_select_iff_of_holdsOf tree (hf.holdsOf hs tree hk)⟩

/-- The elements that the compounds of a selector hold of, where it selects something. -/
theorem found_of_holds {d : Document} {q : Place} (he : (d.element? q).isSome = true)
    (h : p.complex.exact.holds d none q = true) : ∀ s ∈ p.steps, Found d s := by
  obtain ⟨⟨q', he', holds⟩, later⟩ := found_of_foldl_join he h
  intro s hs
  rcases List.mem_cons.1 hs with rfl | hs
  · cases q' with
    | nil => cases he'
    | cons i up =>
      obtain ⟨e, he'⟩ := Option.isSome_iff_exists.1 he'
      exact ⟨i, up, e, _, he', compound_holds_iff.1 holds⟩
  · obtain ⟨u, hu, rfl⟩ := List.mem_map.1 hs
    exact later u hu

/-- What the nested tree says of a path whose selector selects the innermost element. -/
theorem asksForOne_of_nest {d : Document} {levels : List Level} (hs : p.accepted = true)
    (hf : List.Forall₂ (fun s l => Fits d s.2 l) p.links levels)
    (hk : (nestDocument levels).KeepsNames p.names)
    (h : p.Selects (nestDocument levels) (innermost [] levels) →
      p.complex.exact.holds (nestDocument levels) none (innermost [] levels) = true) :
    ∀ s ∈ p.steps, AsksForOne s := by
  have taken : ∀ s ∈ p.links, s.2.accepted = true := fun s hm =>
    accepted_iff.1 hs _ (mem_steps_of_link hm)
  have tree := nestDocument_isTree levels
  have children : (nestDocument levels).childrenAt [] = nest levels := List.append_nil _
  have selected : p.Selects (nestDocument levels) (innermost [] levels) :=
    foldl_advance_nest rfl taken hf children rfl
  have holds := h selected
  generalize hd : nestDocument levels = d' at *
  rw [links] at hf
  cases hf with
  | @cons _ l _ ls fits rest =>
    obtain ⟨e, i⟩ := l
    have keeps := fun s (hm : s ∈ p.steps) => keepsNames_step hk hm
    obtain ⟨compound, later⟩ := asksForOne_of_holds tree
      (fun s hm => keeps _ (mem_steps_of_rest hm)) rest (childrenAt_level children)
      (deep_one d' _) holds
    have first := fits.asksForOne tree (keeps _ List.mem_cons_self) children
      (compound_holds_iff.1 compound)
    intro s hm
    rcases List.mem_cons.1 hm with rfl | hm
    · exact first
    · obtain ⟨u, hu, rfl⟩ := List.mem_map.1 hm
      exact later u hu

/-- A path with its node-set in every tree for its selector is faithful, if it can select
anything. -/
theorem faithful_of_agrees (plain : p.IsPlain) (hs : p.accepted = true) (possible : p.IsPossible)
    (agrees : Agrees p.toCss p) : p.Faithful := by
  obtain ⟨sel, read, same⟩ := agrees
  have whole : ∀ t ∈ p.terms, ¬ t.IsBroken := by
    intro t ht broken
    have named : p.IsNamed := fun s hm => (plain.names s hm).isNamed
    obtain ⟨s, hm, ht⟩ := List.mem_flatMap.1 ht
    have readable := (isSome_read?_toCss named).1 (Option.isSome_of_eq_some read)
    obtain ⟨c, hc, ends⟩ := broken
    have whole := ((readable s hm).2 t ht).2 c hc
    rw [ends] at whole
    cases whole
  have kept : ∀ t ∈ p.terms, ∀ c ∈ t.value, isKept c = true := fun t ht =>
    isKept_of_not_broken (plain.values t ht) (whole t ht)
  obtain rfl : sel = ⟨[p.complex]⟩ := by
    rw [read?_toCss plain.names kept] at read
    exact (Option.some.inj read).symm
  have selects : ∀ d : Document, d.IsTree → d.KeepsNames p.names → ∀ q, p.Selects d q →
      (d.element? q).isSome = true ∧ p.complex.exact.holds d none q = true := by
    intro d tree hk q hq
    obtain ⟨hp, holds⟩ := mem_select_one_iff.1 ((same d tree hk q).2 hq)
    exact ⟨Option.isSome_iff_exists.2 ((Document.mem_places_iff tree.cut).1 hp), holds⟩
  obtain ⟨d, tree, hk, q, hq⟩ := possible
  obtain ⟨he, holds⟩ := selects d tree hk q hq
  have found := found_of_holds he holds
  have fits : ∀ s ∈ p.links, ∃ l, Fits d s.2 l := by
    intro s hm
    have step := mem_steps_of_link hm
    obtain ⟨c, q', hq'⟩ := (exists_of_foldl_advance hq).2 s hm
    exact exists_fits tree (keepsNames_step hk step) (accepted_iff.1 hs _ step) hq' (found _ step)
  obtain ⟨levels, hl⟩ := exists_forall₂ fits
  have keeps : (nestDocument levels).KeepsNames p.names := by
    refine keepsNames_nestDocument hk fun l hm => ?_
    obtain ⟨s, _, fit⟩ := exists_of_mem_right hl hm
    obtain ⟨q, hq, _⟩ := fit.found
    exact ⟨q, hq⟩
  have asks := asksForOne_of_nest hs hl keeps fun selected =>
    (selects _ (nestDocument_isTree levels) keeps _ selected).2
  intro s hm
  refine ⟨(asks s hm).positions, fun t ht => ⟨whole t (mem_terms hm ht), ?_⟩⟩
  rintro a rfl
  obtain ⟨i, c, e, root, he, parts⟩ := found s hm
  obtain ⟨_, _, _, tests⟩ := (parts_hold_iff tree (keepsNames_step hk hm) he).1 parts
  exact (tests _ ht rfl).2 a rfl

end Path

end PageHarvest.XPath
