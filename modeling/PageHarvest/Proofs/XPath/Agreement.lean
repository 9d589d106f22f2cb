import PageHarvest.Proofs.XPath.NodeSet
import PageHarvest.Proofs.XPath.SelectorReading

/-!
# Paths and their selectors on trees

Whether the selector of a path selects what the path selects. A position in a selector always counts
all siblings of the name, and the substring test of a selector never finds the empty text. So the
two agree on a path that is `Faithful`: a step that asks for positions asks for one of them in a
predicate of its own, every other one asks for the same, and those that follow it alone ask for the
first; no value is the empty part of another text or holds a line end.

* `parts_hold_iff` and `mem_select_iff`: what a step's compound and the step itself ask of a node;
* `complex_holds_iff`: the selector of a faithful path holds of its node-set.
-/

/-! ## Matching as a relation

What `holds` says of lists of conditions, of joined compounds and of positions, and selectors whose
values are all compared with case. -/

namespace PageHarvest.Css

open Html

mutual

/-- The condition with case counting in its values, where it says nothing else. -/
def Simple.exact : Simple → Simple
  | .attr space name op value rule =>
    .attr space name op value (if rule = .byName then .exact else rule)
  | .not list => .not (Complex.exactEach list)
  | s => s

def Simple.exactEach : List Simple → List Simple
  | [] => []
  | s :: rest => s.exact :: Simple.exactEach rest

def Complex.exact : Complex → Complex
  | .compound parts => .compound (Simple.exactEach parts)
  | .join left combinator parts => .join left.exact combinator (Simple.exactEach parts)

def Complex.exactEach : List Complex → List Complex
  | [] => []
  | c :: rest => c.exact :: Complex.exactEach rest

end

def Selector.exact (s : Selector) : Selector := ⟨Complex.exactEach s.alternatives⟩

theorem exactEach_eq_map (parts : List Simple) :
    Simple.exactEach parts = parts.map Simple.exact := by
  induction parts with
  | nil => rfl
  | cons s parts ih => rw [Simple.exactEach, ih, List.map_cons]

section Holds

variable {d : Document} {scope : Option Place} {p : Place}

theorem allHold_iff {parts : List Simple} :
    Simple.allHold d scope p parts = true ↔ ∀ s ∈ parts, s.holds d scope p = true := by
  induction parts with
  | nil => simp [Simple.allHold]
  | cons s parts ih => rw [Simple.allHold, Bool.and_eq_true, ih, List.forall_mem_cons]

theorem compound_holds_iff {parts : List Simple} :
    (Complex.compound parts).holds d scope p = true ↔ ∀ s ∈ parts, s.holds d scope p = true := by
  rw [Complex.holds, allHold_iff]

theorem join_holds_iff {left : Complex} {c : Combinator} {parts : List Simple} :
    (Complex.join left c parts).holds d scope p = true ↔
      (∀ s ∈ parts, s.holds d scope p = true) ∧
        ∃ q ∈ c.related d p, left.holds d scope q = true := by
  rw [Complex.holds, Bool.and_eq_true, allHold_iff, List.any_eq_true]

/-- A selector of one alternative selects the elements that it holds of. -/
theorem mem_select_one_iff {c : Complex} :
    p ∈ Selector.select ⟨[c]⟩ d ↔ p ∈ d.places ∧ c.holds d none p = true := by
  rw [Selector.select, List.mem_filter, Selector.holds, Complex.anyHolds, Complex.anyHolds,
    Bool.or_false]

end Holds

/-- A fixed place. A place of more than 32 bits is no other one. -/
theorem isNth_zero_iff {m k : Nat} :
    isNth 0 (Token.clamp m) (k + 1) = true ↔ k + 1 = min m 2147483647 := by
  unfold isNth Token.clamp
  rw [if_pos rfl, Bool.and_eq_true, decide_eq_true_eq, decide_eq_true_eq]
  omega

end PageHarvest.Css

/-! ## Trees -/

namespace PageHarvest.Html.Document

/-- A document of elements within elements, where siblings of one name are of one vocabulary. -/
structure IsTree (d : Document) : Prop where
  cut : d.cut = []
  closed : ∀ i up e, d.element? (i :: up) = some e → up = [] ∨ (d.element? up).isSome = true
  uniform : ∀ i j up e f, d.element? (i :: up) = some e → d.element? (j :: up) = some f →
    e.name = f.name → e.vocabulary = f.vocabulary

/-- No element of the document compares one of the names in another form. -/
def KeepsNames (d : Document) (names : List String) : Prop :=
  ∀ q e, d.element? q = some e → ∀ n ∈ names, Css.nameFor e n = n

/-- Every element of a tree lies below the root. -/
theorem IsTree.within_root {d : Document} (h : d.IsTree) {i : Nat} {up : Place} {e : Element}
    (he : d.element? (i :: up) = some e) : d.Within [] up := by
  induction up generalizing i e with
  | nil => exact .self
  | cons j up ih =>
    rcases h.closed i (j :: up) e he with hn | hs
    · cases hn
    · obtain ⟨f, hf⟩ := Option.isSome_iff_exists.1 hs
      exact (ih hf).child (mem_childElements_iff.2 ⟨j, f, rfl, hf⟩)

end PageHarvest.Html.Document

namespace PageHarvest.XPath

open Html Css Text

namespace Term

/-- The attribute that a test names. -/
def attributes : Term → List String
  | position _ => []
  | has a | equals a _ | contains a _ => [a]

/-- A value that a selector compares with as the path does. -/
def Faithful (t : Term) : Prop := ¬ t.IsBroken ∧ ∀ a, t ≠ .contains a ""

def position? : Term → Option Nat
  | position n => some n
  | _ => none

end Term

/-- The positions among terms. -/
def positions (ts : List Term) : List Nat := ts.filterMap Term.position?

/-- Selectors count up to here. -/
def maxPlace : Nat := 2147483647

structure Step.Faithful (s : Step) : Prop where
  positions : positions s.terms = [] ∨ ∃ n rest, numbers s.predicates = n :: rest ∧
    (∀ m ∈ rest, m = 1) ∧ ∀ m ∈ positions s.terms, min m maxPlace = n
  values : ∀ t ∈ s.terms, t.Faithful

def Path.Faithful (p : Path) : Prop := ∀ s ∈ p.steps, s.Faithful

def Step.names (s : Step) : List String := s.name :: s.terms.flatMap Term.attributes

def Path.names (p : Path) : List String := p.steps.flatMap Step.names

/-! ## Steps -/

section Steps

variable {d : Document} {s : Step} {q c : Place} {i : Nat} {e : Element} {root : Bool}

theorem mem_positions_iff {m : Nat} {ts : List Term} : m ∈ positions ts ↔ .position m ∈ ts := by
  unfold positions
  rw [List.mem_filterMap]
  constructor
  · rintro ⟨t, ht, hm⟩
    cases t with
    | position n =>
      obtain rfl : n = m := Option.some.inj hm
      exact ht
    | has => cases hm
    | equals => cases hm
    | contains => cases hm
  · exact fun h => ⟨_, h, rfl⟩

theorem mem_positions_of_mem_numbers {m : Nat} {ps : List (List Term)} (h : m ∈ numbers ps) :
    m ∈ positions ps.flatten := by
  obtain ⟨ts, hts, hn⟩ := List.mem_filterMap.1 h
  refine mem_positions_iff.2 (List.mem_flatten.2 ⟨ts, hts, ?_⟩)
  rw [number?_eq_some hn]
  exact List.mem_cons_self

/-- Where a step is faithful, a place meets its numbers if it meets all of its positions. -/
theorem asksFor_iff (h : s.Faithful) (place : Nat) :
    asksFor place (numbers s.predicates) ↔ ∀ m ∈ positions s.terms, place = min m maxPlace := by
  rcases h.positions with none | ⟨n, rest, hn, hrest, same⟩
  · have noNumbers : numbers s.predicates = [] := by
      refine List.eq_nil_iff_forall_not_mem.2 fun m hm => ?_
      have own := mem_positions_of_mem_numbers hm
      rw [← Step.terms, none] at own
      cases own
    rw [noNumbers, none]
    exact iff_of_true trivial fun _ h => absurd h List.not_mem_nil
  · have own : n ∈ positions s.terms :=
      mem_positions_of_mem_numbers (by rw [hn]; exact List.mem_cons_self)
    rw [hn]
    constructor
    · rintro ⟨rfl, _⟩ m hm
      exact (same m hm).symm
    · intro all
      exact ⟨(all n own).trans (same n own), hrest⟩

/-- The siblings that a position counts are those of the step's name. -/
theorem counted_eq_before (tree : d.IsTree) (he : d.element? (i :: c) = some e)
    (hn : hasName d s.name (i :: c) = true) :
    countedSiblings d e (s.name != "*") (d.siblingsBefore (i :: c)) = s.before d (i :: c) := by
  unfold countedSiblings Step.before
  congr 1
  refine List.filter_congr fun q hq => ?_
  obtain ⟨after, split⟩ := Document.childElements_split tree.cut he
  have child : q ∈ d.childElements c := by
    rw [split]
    exact List.mem_append_left _ (List.mem_reverse.2 hq)
  obtain ⟨j, f, rfl, hf⟩ := Document.mem_childElements_iff.1 child
  rw [hasName, hf, Option.any_some, Option.any_some]
  by_cases star : s.name = "*"
  · simp [star]
  · have named : e.name = s.name := ((hasName_iff he).1 hn).resolve_left star
    have apart : (s.name == "*") = false := beq_eq_false_iff_ne.2 star
    rw [bne, apart, named]
    by_cases same : f.name = s.name
    · have vocabulary : f.vocabulary = e.vocabulary :=
        tree.uniform j i c f e hf he (same.trans named.symm)
      simp [same, vocabulary]
    · simp [same]

theorem position_holds_iff (tree : d.IsTree) (he : d.element? (i :: c) = some e)
    (hn : hasName d s.name (i :: c) = true) (m : Nat) :
    ((Term.position m).simple s.name).exact.holds d none (i :: c) = true ↔
      s.before d (i :: c) + 1 = min m maxPlace := by
  have counted := counted_eq_before tree he hn
  have written : ((Term.position m).simple s.name).exact =
      .nth 0 (Token.clamp m) (s.name != "*") false := rfl
  rw [written, Simple.holds, he, Option.any_some]
  simp only [Bool.false_eq_true, if_false, counted]
  exact isNth_zero_iff

/-- A test holds of an element where it is true, but for the search of the empty text. -/
theorem test_holds_iff {t : Term} (ht : t.isTest = true) (he : d.element? q = some e)
    (hk : ∀ a ∈ t.attributes, nameFor e a = a) (name : String) :
    (t.simple name).exact.holds d none q = true ↔
      t.truth d q = true ∧ ∀ a, t ≠ .contains a "" := by
  cases t with
  | position => cases ht
  | has a =>
    have own : nameFor e a = a := hk a List.mem_cons_self
    have written : ((Term.has a).simple name).exact = .hasAttr .plain a := rfl
    rw [written, Simple.holds, Term.truth, he, Option.any_some, Option.any_some, AttrSpace.values,
      own]
    cases e.attribute? a <;> simp
  | equals a v =>
    have own : nameFor e a = a := hk a List.mem_cons_self
    have written : ((Term.equals a v).simple name).exact = .attr .plain a .equals v .exact := rfl
    rw [written, Simple.holds, Term.truth, he, Option.any_some, Option.any_some, testAttr,
      AttrSpace.values, own]
    cases e.attribute? a <;> simp [CaseRule.isCaseless, AttrOp.test, String.toList_inj]
  | contains a v =>
    have own : nameFor e a = a := hk a List.mem_cons_self
    by_cases hv : v = ""
    · have written : ((Term.contains a v).simple name).exact = .never := by
        rw [Term.simple, if_pos hv]
        rfl
      rw [written, Simple.holds, hv]
      simp
    · have some : v.toList ≠ [] := by simpa using hv
      have written : ((Term.contains a v).simple name).exact =
          .attr .plain a .contains v .exact := by
        rw [Term.simple, if_neg hv]
        rfl
      rw [written, Simple.holds, Term.truth, he, Option.any_some, Option.any_some, testAttr,
        AttrSpace.values, own]
      cases e.attribute? a with
      | none =>
        have nowhere : isInside v.toList [] = false := by
          rw [Bool.eq_false_iff, ne_eq, isInside_iff, List.infix_nil]
          exact some
        simp [nowhere]
      | some w => simp [CaseRule.isCaseless, AttrOp.test, hv]

theorem nameParts_hold_iff (hk : d.KeepsNames s.names) (he : d.element? (i :: c) = some e) :
    (∀ x ∈ s.nameParts.map Simple.exact, x.holds d none (i :: c) = true) ↔
      hasName d s.name (i :: c) = true := by
  have own : nameFor e s.name = s.name := hk _ e he s.name List.mem_cons_self
  rw [hasName_iff he, Step.nameParts]
  by_cases star : s.name = "*"
  · simp [star]
  · have written : (Simple.type s.name).exact = .type s.name := rfl
    simp [star, written, Simple.holds, he, own]

theorem rootPart_holds_iff {q : Place} :
    (∀ x ∈ (if root then [Simple.root] else []).map Simple.exact, x.holds d none q = true) ↔
      (root = true → d.isTop q = true) := by
  have written : Simple.root.exact = .root := rfl
  cases root <;> simp [written, Simple.holds]

/-- The condition for a term: a position asks for a place, and a test for what it says and for more
than the empty text. -/
theorem term_holds_iff (tree : d.IsTree) (hk : d.KeepsNames s.names)
    (he : d.element? (i :: c) = some e) (hn : hasName d s.name (i :: c) = true)
    {t : Term} (ht : t ∈ s.terms) :
    (t.simple s.name).exact.holds d none (i :: c) = true ↔
      (∀ m, t = .position m → s.before d (i :: c) + 1 = min m maxPlace) ∧
        (t.isTest = true → t.truth d (i :: c) = true ∧ ∀ a, t ≠ .contains a "") := by
  by_cases test : t.isTest = true
  · have kept : ∀ a ∈ t.attributes, nameFor e a = a := fun a ha =>
      hk _ e he a (List.mem_cons_of_mem _ (List.mem_flatMap.2 ⟨t, ht, ha⟩))
    have noPlace : ∀ m, t ≠ .position m := by
      rintro m rfl
      cases test
    rw [test_holds_iff test he kept]
    simp [noPlace, test]
  · obtain ⟨m, rfl⟩ : ∃ m, t = .position m := by
      cases t with
      | position m => exact ⟨m, rfl⟩
      | has => exact absurd rfl test
      | equals => exact absurd rfl test
      | contains => exact absurd rfl test
    rw [position_holds_iff tree he hn]
    simp [Term.isTest]

/-- The conditions that a step is read as, on an element: the name, the root if it is asked for,
every position, and every test that does not search for the empty text. -/
theorem parts_hold_iff (tree : d.IsTree) (hk : d.KeepsNames s.names)
    (he : d.element? (i :: c) = some e) :
    (∀ x ∈ Simple.exactEach (s.parts root), x.holds d none (i :: c) = true) ↔
      hasName d s.name (i :: c) = true ∧ (root = true → d.isTop (i :: c) = true) ∧
        (∀ m ∈ positions s.terms, s.before d (i :: c) + 1 = min m maxPlace) ∧
        ∀ t ∈ s.terms, t.isTest = true → t.truth d (i :: c) = true ∧ ∀ a, t ≠ .contains a "" := by
  rw [exactEach_eq_map, Step.parts, List.map_append, List.map_append, List.forall_mem_append,
    List.forall_mem_append, nameParts_hold_iff hk he, rootPart_holds_iff]
  refine and_congr_right fun hn => and_congr_right fun _ => ?_
  rw [List.forall_mem_map, List.forall_mem_map]
  have term {t : Term} (ht : t ∈ s.terms) := term_holds_iff tree hk he hn ht
  constructor
  · intro all
    refine ⟨fun m hm => ?_, fun t ht test => ((term ht).1 (all t ht)).2 test⟩
    have asked := mem_positions_iff.1 hm
    exact ((term asked).1 (all _ asked)).1 m rfl
  · rintro ⟨places, tests⟩ t ht
    refine (term ht).2 ⟨?_, tests t ht⟩
    rintro m rfl
    exact places m (mem_positions_iff.2 ht)

/-- A faithful step and its compound ask the same of a child element. -/
theorem Step.Faithful.parts_hold_iff (h : s.Faithful) (tree : d.IsTree)
    (hk : d.KeepsNames s.names) (hs : s.accepted = true) (he : d.element? (i :: c) = some e) :
    (∀ x ∈ Simple.exactEach (s.parts root), x.holds d none (i :: c) = true) ↔
      i :: c ∈ s.select d c ∧ (root = true → d.isTop (i :: c) = true) := by
  rw [XPath.parts_hold_iff tree hk he, mem_select_iff tree.cut hs, asksFor_iff h]
  constructor
  · rintro ⟨named, top, places, tests⟩
    exact ⟨⟨⟨i, e, rfl, he⟩, named, fun t ht test => (tests t ht test).1, places⟩, top⟩
  · rintro ⟨⟨_, named, tests, places⟩, top⟩
    exact ⟨named, top, places, fun t ht test => ⟨tests t ht test, (h.values t ht).2⟩⟩

end Steps

/-! ## Paths -/

section Paths

variable {d : Document} {s : Axis × Step} {left : Css.Complex} {nodes : Place → Prop}

/-- A selector that holds of the elements of a node-set. -/
def HoldsOf (d : Document) (c : Css.Complex) (nodes : Place → Prop) : Prop :=
  (∀ q, nodes q → (d.element? q).isSome = true) ∧
    ∀ q, (d.element? q).isSome = true → (c.exact.holds d none q = true ↔ nodes q)

/-- The places that a relation leads to, seen from a child of `up`. -/
theorem exists_related_iff (h : HoldsOf d left nodes) (axis : Axis) {i : Nat} {up : Place} :
    (∃ r ∈ axis.combinator.related d (i :: up), left.exact.holds d none r = true) ↔
      axis.contexts d nodes up := by
  cases axis with
  | child =>
    have related : Axis.child.combinator.related d (i :: up) =
        (if (d.element? up).isSome then some up else none).toList := rfl
    rw [related]
    change _ ↔ nodes up
    by_cases he : (d.element? up).isSome = true
    · simpa [he] using h.2 up he
    · have none : ¬ nodes up := fun hn => he (h.1 up hn)
      simpa [he] using none
  | descendant =>
    have related : Axis.descendant.combinator.related d (i :: up) = d.ancestors (i :: up) := rfl
    rw [related]
    constructor
    · rintro ⟨r, hr, holds⟩
      obtain ⟨he, hw⟩ := Document.mem_ancestors_iff.1 hr
      exact ⟨r, (h.2 r he).1 holds, hw⟩
    · rintro ⟨a, ha, hw⟩
      exact ⟨a, Document.mem_ancestors_iff.2 ⟨h.1 a ha, hw⟩, (h.2 a (h.1 a ha)).2 ha⟩

/-- A step leads from nodes to their child elements. -/
theorem advance_cons_iff (hc : d.cut = []) (hs : s.2.accepted = true) {i : Nat} {up : Place} :
    advance d nodes s (i :: up) ↔ s.1.contexts d nodes up ∧ i :: up ∈ s.2.select d up := by
  constructor
  · rintro ⟨c, context, hq⟩
    obtain ⟨⟨j, e, hj, _⟩, _⟩ := (mem_select_iff hc hs).1 hq
    obtain ⟨rfl, rfl⟩ := List.cons.inj hj
    exact ⟨context, hq⟩
  · rintro ⟨context, hq⟩
    exact ⟨up, context, hq⟩

theorem isSome_of_advance (hc : d.cut = []) (hs : s.2.accepted = true) {q : Place}
    (h : advance d nodes s q) : (d.element? q).isSome = true := by
  obtain ⟨c, _, hq⟩ := h
  obtain ⟨⟨j, e, rfl, he⟩, _⟩ := (mem_select_iff hc hs).1 hq
  rw [he]
  rfl

/-- One more faithful step. -/
theorem HoldsOf.join (h : HoldsOf d left nodes) (hf : s.2.Faithful) (tree : d.IsTree)
    (hk : d.KeepsNames s.2.names) (hs : s.2.accepted = true) :
    HoldsOf d (joinStep left s) (advance d nodes s) := by
  refine ⟨fun q => isSome_of_advance tree.cut hs, fun q hq => ?_⟩
  cases q with
  | nil => cases hq
  | cons i up =>
    obtain ⟨e, he⟩ := Option.isSome_iff_exists.1 hq
    have written : (joinStep left s).exact =
        .join left.exact s.1.combinator (Simple.exactEach (s.2.parts false)) := rfl
    rw [written, join_holds_iff, hf.parts_hold_iff tree hk hs he, exists_related_iff h,
      advance_cons_iff tree.cut hs]
    simp [and_comm]

theorem isTop_cons_iff (hc : d.cut = []) {i : Nat} {up : Place} {e : Element}
    (he : d.element? (i :: up) = some e) : d.isTop (i :: up) = true ↔ up = [] := by
  cases up with
  | cons j up => simp [Document.isTop]
  | nil =>
    rw [Document.element?, Option.bind_eq_some_iff] at he
    obtain ⟨n, hn, _⟩ := he
    rw [Document.node?_cons, Document.childrenAt, hc, List.append_nil] at hn
    obtain ⟨lt, _⟩ := List.getElem?_eq_some_iff.1 hn
    simp [Document.isTop, lt]

/-- The first step of a path, from the root of the document. -/
theorem holdsOf_first {first : Step} (anchor : Anchor) (hf : first.Faithful) (tree : d.IsTree)
    (hk : d.KeepsNames first.names) (hs : first.accepted = true) :
    HoldsOf d (.compound (first.parts (anchor = .top)))
      (advance d (· = []) (anchor.axis, first)) := by
  refine ⟨fun q => isSome_of_advance tree.cut hs, fun q hq => ?_⟩
  cases q with
  | nil => cases hq
  | cons i up =>
    obtain ⟨e, he⟩ := Option.isSome_iff_exists.1 hq
    have written : (Css.Complex.compound (first.parts (anchor = .top))).exact =
        .compound (Simple.exactEach (first.parts (anchor = .top))) := rfl
    rw [written, compound_holds_iff, hf.parts_hold_iff tree hk hs he, advance_cons_iff tree.cut hs,
      isTop_cons_iff tree.cut he, and_comm]
    refine and_congr_left fun _ => ?_
    have below : d.Within [] up := tree.within_root he
    cases anchor with
    | top => simp [Anchor.axis, Axis.contexts]
    | anywhere => exact iff_of_true nofun ⟨[], rfl, below⟩
    | inside => exact iff_of_true nofun ⟨[], rfl, below⟩

theorem holdsOf_foldl {rest : List (Axis × Step)} (h : HoldsOf d left nodes) (tree : d.IsTree)
    (hf : ∀ s ∈ rest, s.2.Faithful) (hk : ∀ s ∈ rest, d.KeepsNames s.2.names)
    (hs : ∀ s ∈ rest, s.2.accepted = true) :
    HoldsOf d (rest.foldl joinStep left) (rest.foldl (advance d) nodes) := by
  induction rest generalizing left nodes with
  | nil => exact h
  | cons s rest ih =>
    have step := h.join (hf s List.mem_cons_self) tree (hk s List.mem_cons_self)
      (hs s List.mem_cons_self)
    exact ih step (fun u hu => hf u (List.mem_cons_of_mem _ hu))
      (fun u hu => hk u (List.mem_cons_of_mem _ hu)) fun u hu => hs u (List.mem_cons_of_mem _ hu)

end Paths

namespace Path

variable {p : Path} {d : Document}

theorem mem_steps_of_rest {s : Axis × Step} (h : s ∈ p.rest) : s.2 ∈ p.steps :=
  List.mem_cons_of_mem _ (List.mem_map_of_mem h)

theorem accepted_iff : p.accepted = true ↔ ∀ s ∈ p.steps, s.accepted = true := by
  rw [accepted, steps, Bool.and_eq_true, List.all_eq_true, List.forall_mem_cons,
    List.forall_mem_map]

theorem keepsNames_step (hk : d.KeepsNames p.names) {s : Step} (h : s ∈ p.steps) :
    d.KeepsNames s.names :=
  fun q e he n hn => hk q e he n (List.mem_flatMap.2 ⟨s, h, hn⟩)

/-- The selector of a faithful path holds of its node-set. -/
theorem Faithful.holdsOf (hf : p.Faithful) (hs : p.accepted = true) (tree : d.IsTree)
    (hk : d.KeepsNames p.names) : HoldsOf d p.complex (p.Selects d) := by
  have taken := accepted_iff.1 hs
  have keeps : ∀ s ∈ p.steps, d.KeepsNames s.names := fun s hm => keepsNames_step hk hm
  have first : p.first ∈ p.steps := List.mem_cons_self
  have front := holdsOf_first p.anchor (hf _ first) tree (keeps _ first) (taken _ first)
  exact holdsOf_foldl front tree (fun s hm => hf _ (mem_steps_of_rest hm))
    (fun s hm => keeps _ (mem_steps_of_rest hm)) fun s hm => taken _ (mem_steps_of_rest hm)

/-- What a selector of one alternative selects if it holds of a node-set. -/
theorem mem_select_iff_of_holdsOf {c : Css.Complex} {nodes : Place → Prop} (tree : d.IsTree)
    (h : HoldsOf d c nodes) (q : Place) :
    q ∈ (Selector.mk [c]).exact.select d ↔ nodes q := by
  have written : (Selector.mk [c]).exact = ⟨[c.exact]⟩ := rfl
  rw [written, mem_select_one_iff, Document.mem_places_iff tree.cut]
  constructor
  · rintro ⟨⟨e, he⟩, holds⟩
    exact (h.2 q (by rw [he]; rfl)).1 holds
  · intro hq
    exact ⟨Option.isSome_iff_exists.1 (h.1 q hq), (h.2 q (h.1 q hq)).2 hq⟩

end Path

end PageHarvest.XPath
