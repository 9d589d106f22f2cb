import PageHarvest.Proofs.Page.Registry
import PageHarvest.Proofs.XPath.Readable
import PageHarvest.Proofs.XPath.Separation

/-!
# Paths from an element on

A path that starts with `.//` is looked for below an element. Its selector asks that the last step
is below that element, and lets the steps in front of it be anywhere: at the element itself or
around it. XPath takes every step from the element on.

* `Trail.SelectsFrom`: what XPath selects from a place;
* `Trail.selectsFrom_root_iff`: from the root, it is the node-set of the path;
* `Trail.holds_iff`: the selector holds of what is selected from anywhere;
* `Trail.query_below`: so a query finds all that XPath selects, and no more where no element at the
  place or around it has the name of the first of several steps;
* `Trail.exists_unselected`: every trail of two steps or more finds more somewhere.
-/

namespace PageHarvest.XPath

open Html Css Text

/-- A path from an element on, of names alone. -/
structure Trail where
  first : String
  rest : List (Axis × String)

/-- Whether a name is for the element at a place. Names of HTML elements are compared without
case. -/
def isCalled (d : Document) (name : String) (q : Place) : Bool :=
  (d.element? q).any fun e => name == "*" || e.name == nameFor e name

/-- A step without predicates. -/
def nameStep (s : Axis × String) : Axis × Step := (s.1, ⟨s.2, []⟩)

/-- The places that a step without predicates leads to. -/
def lead (d : Document) (nodes : Place → Prop) (s : Axis × String) (q : Place) : Prop :=
  ∃ c, s.1.contexts d nodes c ∧ q ∈ d.childElements c ∧ isCalled d s.2 q = true

namespace Trail

def names (t : Trail) : List String := t.first :: t.rest.map Prod.snd

/-- The trail as it is written. -/
def text (t : Trail) : String :=
  ".//" ++ t.first ++ String.join (t.rest.map fun s => String.ofList s.1.mark ++ s.2)

def path (t : Trail) : Path := ⟨.inside, ⟨t.first, []⟩, t.rest.map nameStep⟩

/-- What XPath selects with the node at the place `a` for its context. -/
def SelectsFrom (t : Trail) (d : Document) (a q : Place) : Prop :=
  ((.descendant, t.first) :: t.rest).foldl (lead d) (· = a) q

/-- Every name is one that the reader of paths takes. -/
def IsNamed (t : Trail) : Prop := ∀ n ∈ t.names, IsElementName n.toList

end Trail

/-! ## Steps without predicates -/

section Steps

variable {d : Document} {nodes : Place → Prop} {s : Axis × String} {steps : List (Axis × String)}
  {a q r : Place}

/-- Where names are compared as they are, a name alone is a step without predicates. -/
theorem lead_iff_advance (hk : d.KeepsNames [s.2]) :
    lead d nodes s q ↔ advance d nodes (nameStep s) q := by
  refine exists_congr fun c => and_congr_right fun _ => ?_
  show _ ↔ q ∈ (d.childElements c).filter (hasName d s.2)
  rw [List.mem_filter]
  refine and_congr_right fun hq => ?_
  obtain ⟨i, e, rfl, he⟩ := Document.mem_childElements_iff.1 hq
  have own : nameFor e s.2 = s.2 := hk _ e he s.2 List.mem_cons_self
  rw [isCalled, hasName, he, Option.any_some, Option.any_some, own]

theorem lead_cons_iff {i : Nat} {up : Place} {e : Element} (he : d.element? (i :: up) = some e) :
    lead d nodes s (i :: up) ↔ s.1.contexts d nodes up ∧ isCalled d s.2 (i :: up) = true := by
  constructor
  · rintro ⟨c, context, hq, called⟩
    obtain ⟨j, _, hj, _⟩ := Document.mem_childElements_iff.1 hq
    obtain ⟨rfl, rfl⟩ := List.cons.inj hj
    exact ⟨context, called⟩
  · rintro ⟨context, called⟩
    exact ⟨up, context, Document.mem_childElements_iff.2 ⟨i, e, rfl, he⟩, called⟩

theorem isSome_of_lead (h : lead d nodes s q) : (d.element? q).isSome = true := by
  obtain ⟨c, _, hq, _⟩ := h
  obtain ⟨i, e, rfl, he⟩ := Document.mem_childElements_iff.1 hq
  rw [he]
  rfl

theorem contexts_iff_exists {axis : Axis} {c : Place} :
    axis.contexts d nodes c ↔ ∃ r, nodes r ∧ axis.contexts d (· = r) c := by
  cases axis with
  | child => exact ⟨fun h => ⟨c, h, rfl⟩, fun ⟨_, h, same⟩ => same ▸ h⟩
  | descendant =>
    constructor
    · rintro ⟨r, hr, below⟩
      exact ⟨r, hr, r, rfl, below⟩
    · rintro ⟨r, hr, _, rfl, below⟩
      exact ⟨_, hr, below⟩

/-- Steps lead from each node on its own. -/
theorem foldl_lead_iff_exists :
    steps.foldl (lead d) nodes q ↔ ∃ r, nodes r ∧ steps.foldl (lead d) (· = r) q := by
  induction steps generalizing nodes with
  | nil => exact ⟨fun h => ⟨q, h, rfl⟩, fun ⟨_, h, same⟩ => same ▸ h⟩
  | cons s steps ih =>
    rw [List.foldl_cons, ih]
    constructor
    · rintro ⟨u, ⟨c, context, hu⟩, later⟩
      obtain ⟨r, hr, context⟩ := contexts_iff_exists.1 context
      exact ⟨r, hr, ih.2 ⟨u, ⟨c, context, hu⟩, later⟩⟩
    · rintro ⟨r, hr, h⟩
      obtain ⟨u, ⟨c, context, hu⟩, later⟩ := ih.1 h
      exact ⟨u, ⟨c, contexts_iff_exists.2 ⟨r, hr, context⟩, hu⟩, later⟩

/-- A step leads further down. -/
theorem within_of_lead (h : lead d (· = a) s q) : ∃ c, d.Within a c ∧ q ∈ d.childElements c := by
  obtain ⟨axis, name⟩ := s
  obtain ⟨c, context, hq, _⟩ := h
  cases axis with
  | child =>
    obtain rfl : c = a := context
    exact ⟨c, .self, hq⟩
  | descendant =>
    obtain ⟨_, rfl, below⟩ := context
    exact ⟨c, below, hq⟩

theorem within_trans {b : Place} (h : d.Within a b) (hb : d.Within b q) : d.Within a q := by
  induction hb with
  | self => exact h
  | child _ hc ih => exact ih.child hc

theorem within_of_foldl_lead (h : steps.foldl (lead d) (· = r) q) : d.Within r q := by
  induction steps generalizing r with
  | nil =>
    obtain rfl : q = r := h
    exact .self
  | cons s steps ih =>
    rw [List.foldl_cons] at h
    obtain ⟨u, hu, later⟩ := foldl_lead_iff_exists.1 h
    obtain ⟨c, below, child⟩ := within_of_lead hu
    exact within_trans (below.child child) (ih later)

/-- Every step leads one place further down or more. -/
theorem length_of_foldl_lead (h : steps.foldl (lead d) (· = r) q) :
    r.length + steps.length ≤ q.length := by
  induction steps generalizing r with
  | nil =>
    obtain rfl : q = r := h
    exact Nat.le_refl _
  | cons s steps ih =>
    rw [List.foldl_cons] at h
    obtain ⟨u, hu, later⟩ := foldl_lead_iff_exists.1 h
    obtain ⟨c, below, child⟩ := within_of_lead hu
    obtain ⟨i, e, rfl, _⟩ := Document.mem_childElements_iff.1 child
    have step := below.suffix.length_le
    have further := ih later
    rw [List.length_cons] at further ⊢
    omega

end Steps

namespace Trail

variable {t : Trail} {d : Document} {a q : Place}

/-- The element of the first step, and the way from there. -/
theorem selectsFrom_iff :
    t.SelectsFrom d a q ↔ ∃ r, (∃ c, d.Within a c ∧ r ∈ d.childElements c) ∧
      isCalled d t.first r = true ∧ t.rest.foldl (lead d) (· = r) q := by
  rw [SelectsFrom, List.foldl_cons, foldl_lead_iff_exists]
  refine exists_congr fun r => ?_
  constructor
  · rintro ⟨⟨c, ⟨_, rfl, below⟩, child, called⟩, later⟩
    exact ⟨⟨c, below, child⟩, called, later⟩
  · rintro ⟨⟨c, below, child⟩, called, later⟩
    exact ⟨⟨c, ⟨a, rfl, below⟩, child, called⟩, later⟩

/-- From the root, a trail selects the node-set of its path. -/
theorem selectsFrom_root_iff (hk : d.KeepsNames t.names) :
    t.SelectsFrom d [] q ↔ t.path.Selects d q := by
  have kept : ∀ n ∈ t.names, d.KeepsNames [n] := fun n hn q e he m hm =>
    hk q e he m (by rwa [List.mem_singleton.1 hm])
  have same : ∀ (steps : List (Axis × String)) (nodes : Place → Prop),
      (∀ s ∈ steps, d.KeepsNames [s.2]) →
      steps.foldl (lead d) nodes = (steps.map nameStep).foldl (advance d) nodes := by
    intro steps
    induction steps with
    | nil => exact fun _ _ => rfl
    | cons s steps ih =>
      intro nodes names
      obtain ⟨own, others⟩ := List.forall_mem_cons.1 names
      have step : lead d nodes s = advance d nodes (nameStep s) :=
        funext fun q => propext (lead_iff_advance own)
      rw [List.foldl_cons, step, ih _ others]
      rfl
  have names : ∀ s ∈ ((.descendant, t.first) :: t.rest : List (Axis × String)),
      d.KeepsNames [s.2] :=
    List.forall_mem_cons.2 ⟨kept _ List.mem_cons_self, fun s hs =>
      kept _ (List.mem_cons_of_mem _ (List.mem_map_of_mem hs))⟩
  exact iff_of_eq (congrFun (same _ _ names) q)

/-- What a trail selects from a place stands below it. -/
theorem SelectsFrom.mem_placesBelow (h : t.SelectsFrom d a q) : q ∈ d.placesBelow a := by
  obtain ⟨r, ⟨c, below, child⟩, _, later⟩ := selectsFrom_iff.1 h
  cases within_of_foldl_lead later with
  | self => exact Document.mem_placesBelow_of_within below child
  | child down last =>
    exact Document.mem_placesBelow_of_within (within_trans (below.child child) down) last

end Trail

/-! ## Selectors of names -/

section Selectors

variable {d : Document} {scope : Option Place} {left : Css.Complex} {nodes : Place → Prop}
  {q : Place} {name : String}

theorem parts_name (name : String) :
    (Step.mk name []).parts false = if name = "*" then [] else [.type name] := by
  simp [Step.parts, Step.nameParts, Step.terms]

theorem exactEach_name (name : String) :
    Simple.exactEach ((Step.mk name []).parts false) = (Step.mk name []).parts false := by
  rw [parts_name]
  split <;> rfl

theorem exact_joinStep (left : Css.Complex) (s : Axis × String) :
    (joinStep left (nameStep s)).exact =
      .join left.exact s.1.combinator ((Step.mk s.2 []).parts false) :=
  congrArg _ (exactEach_name s.2)

/-- A name is for the same elements in every scope. -/
theorem allHold_name (hq : (d.element? q).isSome = true) :
    Simple.allHold d scope q ((Step.mk name []).parts false) = isCalled d name q := by
  obtain ⟨e, he⟩ := Option.isSome_iff_exists.1 hq
  rw [parts_name, isCalled, he]
  split
  · rename_i star
    simp [star, Simple.allHold]
  · rename_i other
    simp [other, Simple.allHold, Simple.holds, he]

theorem holdsOf_name (d : Document) (name : String) :
    HoldsOf d (.compound ((Step.mk name []).parts false))
      fun q => (d.element? q).isSome = true ∧ isCalled d name q = true := by
  refine ⟨fun q h => h.1, fun q hq => ?_⟩
  rw [Css.Complex.exact, exactEach_name, Css.Complex.holds, allHold_name hq]
  exact (and_iff_right hq).symm

/-- One more name. -/
theorem HoldsOf.lead (h : HoldsOf d left nodes) (s : Axis × String) :
    HoldsOf d (joinStep left (nameStep s)) (lead d nodes s) := by
  refine ⟨fun q => isSome_of_lead, fun q hq => ?_⟩
  cases q with
  | nil => cases hq
  | cons i up =>
    obtain ⟨e, he⟩ := Option.isSome_iff_exists.1 hq
    rw [exact_joinStep, join_holds_iff, ← allHold_iff, allHold_name hq, exists_related_iff h,
      lead_cons_iff he, and_comm]

theorem HoldsOf.foldl_lead (h : HoldsOf d left nodes) (steps : List (Axis × String)) :
    HoldsOf d ((steps.map nameStep).foldl joinStep left) (steps.foldl (XPath.lead d) nodes) := by
  induction steps generalizing left nodes with
  | nil => exact h
  | cons s steps ih => exact ih (h.lead s)

/-- The scope does not matter to names, and neither does case in values. -/
theorem holds_joinSteps (steps : List (Axis × String))
    (same : ∀ q, (d.element? q).isSome = true →
      left.holds d scope q = left.exact.holds d none q) (hq : (d.element? q).isSome = true) :
    ((steps.map nameStep).foldl joinStep left).holds d scope q =
      ((steps.map nameStep).foldl joinStep left).exact.holds d none q := by
  induction steps generalizing left with
  | nil => exact same q hq
  | cons s steps ih =>
    refine ih fun q hq => ?_
    cases q with
    | nil => cases hq
    | cons i up =>
      rw [Bool.eq_iff_iff, exact_joinStep, joinStep, join_holds_iff, join_holds_iff]
      refine and_congr ?_ (exists_congr fun r => and_congr_right fun hr => ?_)
      · rw [← allHold_iff, ← allHold_iff, nameStep, allHold_name hq, allHold_name hq]
      · rw [same r (isSome_of_mem_related hr)]

end Selectors

namespace Trail

variable {t : Trail} {d : Document} {scope : Option Place} {p q : Place}

/-- The selector of a trail holds of what the trail selects from anywhere. -/
theorem holds_iff (hq : (d.element? q).isSome = true) :
    t.path.complex.holds d scope q = true ↔ ∃ a, t.SelectsFrom d a q := by
  have alone : ∀ q, (d.element? q).isSome = true →
      (Css.Complex.compound ((Step.mk t.first []).parts false)).holds d scope q =
        (Css.Complex.compound ((Step.mk t.first []).parts false)).exact.holds d none q := by
    intro q hq
    rw [Css.Complex.exact, exactEach_name, Css.Complex.holds, Css.Complex.holds, allHold_name hq,
      allHold_name hq]
  have unscoped : t.path.complex.holds d scope q = t.path.complex.exact.holds d none q :=
    holds_joinSteps t.rest alone hq
  have selected := ((holdsOf_name d t.first).foldl_lead t.rest).2 q hq
  rw [unscoped]
  refine selected.trans (foldl_lead_iff_exists.trans ?_)
  constructor
  · rintro ⟨r, ⟨hr, called⟩, later⟩
    cases r with
    | nil => cases hr
    | cons i up =>
      obtain ⟨e, he⟩ := Option.isSome_iff_exists.1 hr
      have child := Document.mem_childElements_iff.2 ⟨i, e, rfl, he⟩
      exact ⟨up, selectsFrom_iff.2 ⟨_, ⟨up, .self, child⟩, called, later⟩⟩
  · rintro ⟨a, h⟩
    obtain ⟨r, ⟨c, _, child⟩, called, later⟩ := selectsFrom_iff.1 h
    obtain ⟨i, e, rfl, he⟩ := Document.mem_childElements_iff.1 child
    exact ⟨_, ⟨by rw [he]; rfl, called⟩, later⟩

/-! ## The text of a trail -/

theorem isElementName_of_all {n : List Char} (present : n ≠ [])
    (all : n.all (fun c => isNameChar c && c != '*') = true) : IsElementName n :=
  .inr ⟨present, by simpa using all⟩

theorem written (named : t.IsNamed) : t.path.Written t.text.toList := by
  have step {n : String} (h : IsElementName n.toList) : (Step.mk n []).Written n.toList := by
    have alone := Step.Written.mk h .nil
    rwa [String.ofList_toList, List.append_nil] at alone
  obtain ⟨first, others⟩ := List.forall_mem_cons.1 named
  have later : ∀ steps : List (Axis × String), (∀ s ∈ steps, IsElementName s.2.toList) →
      StepsWritten (steps.map nameStep)
        (steps.flatMap fun s => s.1.mark ++ s.2.toList) := by
    intro steps
    induction steps with
    | nil => exact fun _ => .nil
    | cons s steps ih =>
      intro names
      obtain ⟨axis, n⟩ := s
      obtain ⟨own, others⟩ := List.forall_mem_cons.1 names
      rw [List.map_cons, List.flatMap_cons, List.append_assoc]
      cases axis with
      | child =>
        show StepsWritten _ ('/' :: (n.toList ++ _))
        exact .child (step own) (ih others)
      | descendant =>
        show StepsWritten _ ('/' :: '/' :: (n.toList ++ _))
        exact .descendant (step own) (ih others)
  have names : ∀ s ∈ t.rest, IsElementName s.2.toList := fun s hs =>
    others s.2 (List.mem_map_of_mem hs)
  have shape : t.text.toList = [] ++ (Anchor.inside.text ++
      (t.first.toList ++ t.rest.flatMap fun s => s.1.mark ++ s.2.toList) ++ []) := by
    simp [text, Anchor.text, String.toList_join, List.flatMap_map]
  rw [shape]
  exact .mk (step first) (later t.rest names) allBlank_nil allBlank_nil

theorem steps_path : t.path.steps = t.names.map fun n => ⟨n, []⟩ := by
  simp [path, Path.steps, names, nameStep]

theorem toCss_text (named : t.IsNamed) : toCss t.text = .ok t.path.toCss := by
  refine (toCss_eq_ok (written named)).2 ⟨Path.accepted_iff.2 fun s hs => ?_, rfl⟩
  rw [steps_path] at hs
  obtain ⟨n, _, rfl⟩ := List.mem_map.1 hs
  rfl

/-- The dot in front makes the path one from the scope on. -/
theorem selectorText_text (named : t.IsNamed) :
    Site.selectorText (.xpath t.text) = .ok (t.path.toCss, false) := by
  have dot : ∃ more, t.text.toList = '.' :: more := ⟨_, by simp [text]; rfl⟩
  obtain ⟨more, dot⟩ := dot
  have front : startsWith (trimStart t.text) "." = true := by
    have noBlank : isBlank '.' = false := rfl
    simp [startsWith, trimStart, trimStartChars, dot, noBlank]
  rw [Site.selectorText, toCss_text named, front]
  rfl

/-- The names are names in selectors. -/
def IsReadable (t : Trail) : Prop := ∀ n ∈ t.names, n = "*" ∨ Css.Token.IsName n.toList

theorem isReadable_path_iff : t.path.IsReadable ↔ t.IsReadable := by
  rw [Path.IsReadable, steps_path, List.forall_mem_map]
  exact forall₂_congr fun n _ => and_iff_left fun _ h => absurd h List.not_mem_nil

theorem kept_path : t.path.kept = t.path := by
  simp [path, Path.kept, Step.kept, nameStep]

theorem isNamed_path (named : t.IsNamed) : t.path.IsNamed := by
  rw [Path.IsNamed, steps_path, List.forall_mem_map]
  exact fun n hn => ⟨named n hn, fun _ h => absurd h List.not_mem_nil⟩

open Classical in
/-- The elements below a place that the trail selects from anywhere, in the order of the
document. -/
noncomputable def found (t : Trail) (d : Document) (p : Place) : List Place :=
  (d.placesBelow p).filter fun q => ∃ a, t.SelectsFrom d a q

theorem mem_found_iff : q ∈ t.found d p ↔ q ∈ d.placesBelow p ∧ ∃ a, t.SelectsFrom d a q := by
  simp [found]

theorem selectBelow_eq_found : Selector.selectBelow ⟨[t.path.complex]⟩ d p = t.found d p := by
  classical
  refine List.filter_congr fun q hq => ?_
  obtain ⟨e, he⟩ := Document.element?_of_mem_placesBelow hq
  rw [Bool.eq_iff_iff, Selector.holds, Css.Complex.anyHolds, Css.Complex.anyHolds, Bool.or_false]
  exact (holds_iff (by rw [he]; rfl)).trans decide_eq_true_iff.symm

/-- What XPath selects from a place is found there. -/
theorem SelectsFrom.mem_found (h : t.SelectsFrom d p q) : q ∈ t.found d p :=
  mem_found_iff.2 ⟨h.mem_placesBelow, p, h⟩

/-- A trail is found exactly as XPath selects it if its first step can only be below the place. -/
theorem selectsFrom_of_mem_found (elements : ∀ q ∈ d.placesBelow p, d.Within p q)
    (first : t.rest = [] ∨ ∀ a, d.Within a p → isCalled d t.first a = false)
    (h : q ∈ t.found d p) : t.SelectsFrom d p q := by
  obtain ⟨below, a, selected⟩ := mem_found_iff.1 h
  obtain ⟨r, ⟨c, _, child⟩, called, later⟩ := selectsFrom_iff.1 selected
  obtain ⟨i, e, rfl, he⟩ := Document.mem_childElements_iff.1 child
  have inside : d.Within p (i :: c) ∧ p ≠ i :: c := by
    rcases first with alone | apart
    · rw [alone] at later
      obtain rfl : q = i :: c := later
      exact ⟨elements _ below, (Document.mem_placesBelow_iff.1 below).2.2⟩
    · have outside : ¬ d.Within (i :: c) p := fun around => by
        rw [apart _ around] at called
        cases called
      refine ⟨?_, fun same => outside (same ▸ .self)⟩
      exact (Document.within_total (within_of_foldl_lead later) (elements _ below)).resolve_left
        outside
  obtain ⟨within, apart⟩ := inside
  rcases Document.within_cons within with same | ⟨up, _⟩
  · exact absurd same apart
  · exact selectsFrom_iff.2 ⟨_, ⟨c, up, child⟩, called, later⟩

/-- A query below an element finds what the trail selects from anywhere, in the order of the
document. That is all that XPath selects from the element. It is no more if all that is below are
elements within elements, and no element at the place or around it has the name of the first of
several steps. Names that are none in selectors make the query fail. -/
theorem query_below {s : Site} {h : Handle} {e : Element} (known : s.element h = .ok (p, e))
    (named : t.IsNamed) :
    (t.IsReadable → ∃ handles s',
      (Site.query (some h) (.xpath t.text)).runIn s = (.ok handles, s') ∧ s.Extends s' ∧
        List.Forall₂ (fun x q => s'.placeOf x = .ok q) handles (t.found s.document p)) ∧
    (¬ t.IsReadable →
      (Site.query (some h) (.xpath t.text)).runIn s = (.error (.invalidSelector t.text ""), s)) ∧
    (∀ q, t.SelectsFrom s.document p q → q ∈ t.found s.document p) ∧
    ((∀ q ∈ s.document.placesBelow p, s.document.Within p q) →
      (t.rest = [] ∨ ∀ a, s.document.Within a p → isCalled s.document t.first a = false) →
      ∀ q ∈ t.found s.document p, t.SelectsFrom s.document p q) := by
  refine ⟨fun readable => ?_, fun unreadable => ?_, fun q h => h.mem_found,
    fun elements first q h => selectsFrom_of_mem_found elements first h⟩
  · have reads := (isReadable_path_iff.2 readable).read?_toCss
    rw [kept_path] at reads
    have places : s.findPlaces (some h) (.xpath t.text) = .ok (t.found s.document p) := by
      rw [Site.findPlaces_eq (selectorText_text named) reads]
      dsimp only
      rw [(Site.element_eq_ok.1 known).1, ← selectBelow_eq_found]
      rfl
    obtain ⟨extended, registered⟩ := Site.registerAll_run s (t.found s.document p)
    exact ⟨_, _, Site.query_runIn_ok places, extended, registered⟩
  · have unread : Selector.read? t.path.toCss = none :=
      Path.read?_toCss_eq_none (isNamed_path named) (isReadable_path_iff.not.2 unreadable)
    have lost : s.findPlaces (some h) (.xpath t.text) = .error (.invalidSelector t.text "") := by
      unfold Site.findPlaces
      simp only [selectorText_text named, bind, Except.bind, unread]
      rfl
    rw [Site.query_runIn, lost]

/-- A `div` and below it a `p`. -/
def paragraphInDiv : Trail := ⟨"div", [(.descendant, "p")]⟩

/-- A page with one `div` and a `p` in it; the `div` is known. -/
def divWithParagraph : Site where
  sources := []
  url := ⟨"about", none, "a", none, none⟩
  document := .parse "<div><p>x</p></div>"
  registered := [[0, 1, 0]]
  generation := 0
  waited := 0
  isBroken := false

/-- The `p` is found below the `div`, although no other `div` is between the two. -/
theorem query_below_div :
    ∃ handles s', (Site.query (some ⟨0, 0⟩) (.xpath ".//div//p")).runIn divWithParagraph =
        (.ok handles, s') ∧
      List.Forall₂ (fun x q => s'.placeOf x = .ok q) handles [[0, 0, 1, 0]] ∧
      ¬ paragraphInDiv.SelectsFrom divWithParagraph.document [0, 1, 0] [0, 0, 1, 0] := by
  obtain ⟨e, he⟩ : ∃ e, divWithParagraph.document.element? [0, 1, 0] = some e :=
    Option.isSome_iff_exists.1 (by decide +kernel)
  have known : divWithParagraph.element ⟨0, 0⟩ = .ok ([0, 1, 0], e) :=
    Site.element_eq_ok.2 ⟨rfl, he⟩
  have named : paragraphInDiv.IsNamed :=
    List.forall_mem_cons.2 ⟨isElementName_of_all nofun rfl,
      List.forall_mem_singleton.2 (isElementName_of_all nofun rfl)⟩
  have readable : paragraphInDiv.IsReadable :=
    List.forall_mem_cons.2 ⟨.inr (.ident (Css.Token.isIdent_of_all rfl rfl rfl)),
      List.forall_mem_singleton.2 (.inr (.ident (Css.Token.isIdent_of_all rfl rfl rfl)))⟩
  obtain ⟨handles, s', ran, _, stand⟩ := (query_below known named).1 readable
  have below : divWithParagraph.document.placesBelow [0, 1, 0] = [[0, 0, 1, 0]] := by
    decide +kernel
  -- the `div` of the first step is the scope, which the body holds
  have selected : paragraphInDiv.SelectsFrom divWithParagraph.document [1, 0] [0, 0, 1, 0] :=
    selectsFrom_iff.2 ⟨[0, 1, 0], ⟨[1, 0], .self, by decide +kernel⟩, by decide +kernel,
      [0, 1, 0], ⟨_, rfl, .self⟩, by decide +kernel, by decide +kernel⟩
  have found : paragraphInDiv.found divWithParagraph.document [0, 1, 0] = [[0, 0, 1, 0]] := by
    rw [Trail.found, below]
    exact List.filter_cons_of_pos (by simpa using ⟨[1, 0], selected⟩)
  refine ⟨handles, s', ran, found ▸ stand, fun own => ?_⟩
  have deep := length_of_foldl_lead own
  exact absurd deep (by decide)

/-! ## Trails of several steps -/

/-- An element of the name of a step, alone on its level. -/
def level (s : Axis × String) : Level := (⟨0, .svg, if s.2 = "*" then "a" else s.2, [], []⟩, 0)

theorem suffix_innermost (here : Place) (levels : List Level) : here <:+ innermost here levels := by
  induction levels generalizing here with
  | nil => exact List.suffix_refl here
  | cons l levels ih => exact (List.suffix_cons _ here).trans (ih _)

theorem length_innermost (here : Place) (levels : List Level) :
    (innermost here levels).length = here.length + levels.length := by
  induction levels generalizing here with
  | nil => rfl
  | cons l levels ih =>
    rw [innermost, ih, List.length_cons, List.length_cons]
    omega

/-- Steps down a tree with a level for each of them. -/
theorem foldl_lead_nest {steps : List (Axis × String)} {nodes : Place → Prop} {here : Place}
    (hn : d.childrenAt here = nest (steps.map level)) (h : nodes here) :
    steps.foldl (lead d) nodes (innermost here (steps.map level)) := by
  induction steps generalizing here nodes with
  | nil => exact h
  | cons s steps ih =>
    have element := element?_level hn
    have child := Document.mem_childElements_iff.2 ⟨_, _, rfl, element⟩
    refine ih (childrenAt_level hn) ⟨here, ?_, child, ?_⟩
    · cases s.1 with
      | child => exact h
      | descendant => exact ⟨here, h, .self⟩
    · rw [isCalled, element]
      by_cases star : s.2 = "*" <;> simp [star, nameFor]

/-- Every trail of two steps or more finds an element somewhere that XPath does not select: below
the element of its own first step. -/
theorem exists_unselected (several : t.rest ≠ []) :
    ∃ d p q, (Document.element? d p).isSome = true ∧ q ∈ t.found d p ∧ ¬ t.SelectsFrom d p q := by
  let steps := (Axis.descendant, t.first) :: t.rest
  have children : (nestDocument (steps.map level)).childrenAt [] = nest (steps.map level) :=
    List.append_nil _
  have selected : t.SelectsFrom (nestDocument (steps.map level)) []
      (innermost [] (steps.map level)) := foldl_lead_nest children rfl
  have top := element?_level children
  have below := Document.mem_placesBelow_iff.1 selected.mem_placesBelow
  have length : (innermost [] (steps.map level)).length = t.rest.length + 1 := by
    rw [length_innermost, List.length_map]
    exact Nat.zero_add _
  have further : 0 < t.rest.length := List.length_pos_iff.2 several
  refine ⟨nestDocument (steps.map level), [0], innermost [] (steps.map level), by rw [top]; rfl, ?_,
    fun own => ?_⟩
  · refine mem_found_iff.2 ⟨Document.mem_placesBelow_iff.2 ⟨below.1, ?_, ?_⟩, [], selected⟩
    · exact suffix_innermost [0] (t.rest.map level)
    · intro same
      rw [← same, List.length_singleton] at length
      omega
  · have deep := length_of_foldl_lead own
    rw [length, List.length_singleton, List.length_cons] at deep
    omega

end Trail

end PageHarvest.XPath
