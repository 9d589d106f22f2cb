import Mathlib.Data.List.Forall2
import PageHarvest.Proofs.XPath.Agreement

/-!
# Trees that tell a path from its selector

A tree with one element for each step of a path, nested in each other, and in front of each of them
as many bare siblings of its name as a place asks for. A path that selects something somewhere can
be given such a tree: where a step is not faithful to its selector, the places are chosen so that
the path selects the innermost element and the selector does not.

* `Fits`: an element and a number of siblings that a step selects;
* `selects_nest`: the path selects the innermost element;
* `holds_nest`: if the selector holds of it, the steps ask for the places as selectors do.
-/

namespace PageHarvest.XPath

open Html Css

/-- An element of a level of the tree and the number of its siblings in front. -/
abbrev Level := Element × Nat

/-- A bare element of the same name. -/
def filler (e : Element) : Node := .element 0 e.vocabulary e.name [] []

/-- The tree of the levels. -/
def nest : List Level → List Node
  | [] => []
  | (e, i) :: rest =>
    List.replicate i (filler e) ++ [.element 0 e.vocabulary e.name e.attributes (nest rest)]

def nestDocument (levels : List Level) : Document := ⟨nest levels, []⟩

/-- The place of the innermost element. -/
def innermost (here : Place) : List Level → Place
  | [] => here
  | (_, i) :: rest => innermost (i :: here) rest

/-! ## The elements of the tree -/

section Nest

variable {levels : List Level} {l : Level} {e : Element} {i : Nat} {n : Node}

/-- What stands on a level. -/
theorem element_of_mem_nest (h : n ∈ nest ((e, i) :: levels)) :
    ∃ attributes children, n = .element 0 e.vocabulary e.name attributes children ∧
      (children = [] ∨ children = nest levels) := by
  rw [nest, List.mem_append, List.mem_replicate, List.mem_singleton] at h
  rcases h with ⟨_, rfl⟩ | rfl
  · exact ⟨[], [], rfl, .inl rfl⟩
  · exact ⟨e.attributes, nest levels, rfl, .inr rfl⟩

/-- The children of every place are a level of the tree, or none. -/
theorem childrenAt_nestDocument (levels : List Level) (q : Place) :
    ∃ ls, (nestDocument levels).childrenAt q = nest ls ∧ ls ⊆ levels := by
  induction q with
  | nil => exact ⟨levels, List.append_nil _, List.Subset.refl _⟩
  | cons i up ih =>
    obtain ⟨ls, children, sub⟩ := ih
    rw [Document.childrenAt_cons, Document.node?_cons, children]
    cases hn : (nest ls)[i]? with
    | none => exact ⟨[], rfl, List.nil_subset _⟩
    | some n =>
      cases ls with
      | nil => cases hn
      | cons l ls =>
        obtain ⟨e, k⟩ := l
        obtain ⟨attributes, below, rfl, hb⟩ := element_of_mem_nest (List.mem_of_getElem? hn)
        rcases hb with rfl | rfl
        · exact ⟨[], rfl, List.nil_subset _⟩
        · exact ⟨ls, rfl, fun x hx => sub (List.mem_cons_of_mem _ hx)⟩

/-- The elements under one parent are of the name and the vocabulary of their level. -/
theorem exists_level (levels : List Level) (up : Place) :
    (nestDocument levels).childrenAt up = [] ∨
      ∃ l ∈ levels, ∀ i f, (nestDocument levels).element? (i :: up) = some f →
        f.name = l.1.name ∧ f.vocabulary = l.1.vocabulary := by
  obtain ⟨ls, children, sub⟩ := childrenAt_nestDocument levels up
  cases ls with
  | nil => exact .inl children
  | cons l ls =>
    obtain ⟨e, k⟩ := l
    refine .inr ⟨(e, k), sub List.mem_cons_self, fun i f h => ?_⟩
    rw [Document.element?, Document.node?_cons, children, Option.bind_eq_some_iff] at h
    obtain ⟨n, hn, hf⟩ := h
    obtain ⟨attributes, below, rfl, _⟩ := element_of_mem_nest (List.mem_of_getElem? hn)
    cases hf
    exact ⟨rfl, rfl⟩

/-- Where something stands below a place, an element stands there. -/
theorem isSome_of_childrenAt {j : Nat} {up : Place}
    (h : (nestDocument levels).childrenAt (j :: up) ≠ []) :
    ((nestDocument levels).element? (j :: up)).isSome = true := by
  obtain ⟨ls, children, _⟩ := childrenAt_nestDocument levels up
  rw [Document.childrenAt_cons, Document.node?_cons, children] at h
  rw [Document.element?, Document.node?_cons, children]
  cases hn : (nest ls)[j]? with
  | none =>
    rw [hn] at h
    exact absurd rfl h
  | some n =>
    cases ls with
    | nil => cases hn
    | cons l ls =>
      obtain ⟨_, _, rfl, _⟩ := element_of_mem_nest (List.mem_of_getElem? hn)
      rfl

theorem childrenAt_ne_nil {d : Document} {i : Nat} {up : Place} {f : Element}
    (h : d.element? (i :: up) = some f) : d.childrenAt up ≠ [] := by
  intro none
  rw [Document.element?, Document.node?_cons, none] at h
  cases h

theorem nestDocument_isTree (levels : List Level) : (nestDocument levels).IsTree where
  cut := rfl
  closed := by
    intro i up f h
    cases up with
    | nil => exact .inl rfl
    | cons j up => exact .inr (isSome_of_childrenAt (childrenAt_ne_nil h))
  uniform := by
    intro i j up f g hf hg _
    rcases exists_level levels up with none | ⟨l, _, level⟩
    · exact absurd none (childrenAt_ne_nil hf)
    · exact (level i f hf).2.trans (level j g hg).2.symm

theorem keepsNames_nestDocument {d : Document} {names : List String} (hk : d.KeepsNames names)
    (hl : ∀ l ∈ levels, ∃ q, d.element? q = some l.1) :
    (nestDocument levels).KeepsNames names := by
  intro q f h n hn
  cases q with
  | nil => cases h
  | cons i up =>
    rcases exists_level levels up with none | ⟨l, hm, level⟩
    · exact absurd none (childrenAt_ne_nil h)
    · obtain ⟨p, hp⟩ := hl l hm
      have kept := hk p l.1 hp n hn
      unfold nameFor at kept ⊢
      rw [(level i f h).2]
      exact kept

/-! ## Places on a level -/

section Level

variable {d : Document} {here : Place} {s : Step}

theorem element?_level (h : d.childrenAt here = nest ((e, i) :: levels)) :
    d.element? (i :: here) = some ⟨0, e.vocabulary, e.name, e.attributes, nest levels⟩ := by
  have last : (nest ((e, i) :: levels))[i]? =
      some (.element 0 e.vocabulary e.name e.attributes (nest levels)) := by
    rw [nest, List.getElem?_append_right (by simp), List.length_replicate, Nat.sub_self]
    rfl
  rw [Document.element?, Document.node?_cons, h, last]
  rfl

theorem childrenAt_level (h : d.childrenAt here = nest ((e, i) :: levels)) :
    d.childrenAt (i :: here) = nest levels := by
  have found := element?_level h
  rw [Document.element?, Option.bind_eq_some_iff] at found
  obtain ⟨n, hn, he⟩ := found
  rw [Document.childrenAt_of_node? hn]
  cases n with
  | element =>
    cases he
    rfl
  | fragment => cases he
  | text => cases he
  | comment => cases he

/-- The siblings in front of the element of a level are those that the level counts. -/
theorem before_level (hc : d.cut = []) (h : d.childrenAt here = nest ((e, i) :: levels))
    (hn : hasName d s.name (i :: here) = true) : s.before d (i :: here) = i := by
  have found := element?_level h
  obtain ⟨n, at_, _⟩ := Option.bind_eq_some_iff.1 found
  have named := (hasName_iff found).1 hn
  have front : (d.siblings (i :: here)).take i = List.replicate i (filler e) := by
    rw [Document.siblings_eq hc at_, h, nest, List.take_append_of_le_length (by simp)]
    simp
  have siblings : d.siblingsBefore (i :: here) =
      ((List.range i).map fun j => j :: here).reverse := by
    have elements : ((List.replicate i (filler e)).zipIdx.filter fun n => n.1.isElement) =
        (List.replicate i (filler e)).zipIdx := by
      refine List.filter_eq_self.2 fun n hn => ?_
      have own : n.1 ∈ List.replicate i (filler e) :=
        List.zipIdx_map_fst 0 (List.replicate i (filler e)) ▸ List.mem_map_of_mem hn
      rw [List.eq_of_mem_replicate own]
      rfl
    have indices : (List.replicate i (filler e)).zipIdx.map Prod.snd = List.range i := by
      rw [List.zipIdx_map_snd, List.length_replicate, List.range_eq_range']
    rw [Document.siblingsBefore, front, elements, ← indices, List.map_map]
    rfl
  rw [Step.before, siblings, List.filter_eq_self.2, List.length_reverse, List.length_map,
    List.length_range]
  intro q hq
  obtain ⟨j, hj, rfl⟩ := List.mem_map.1 (List.mem_reverse.1 hq)
  have lt := List.mem_range.1 hj
  have sibling : d.element? (j :: here) = (filler e).element? := by
    rw [Document.element?, Document.node?_cons, h, nest, List.getElem?_append_left (by simpa),
      List.getElem?_replicate, if_pos lt]
    rfl
  exact (hasName_iff sibling).2 named

end Level

end Nest

/-! ## A tree that a path selects the innermost element of -/

/-- Whether a test is true of an element, wherever it stands. -/
theorem truth_congr {d d' : Document} {q q' : Place} {e f : Element} (he : d.element? q = some e)
    (hf : d'.element? q' = some f) (same : f.attributes = e.attributes) (t : Term) :
    t.truth d' q' = t.truth d q := by
  have values : ∀ a, f.attribute? a = e.attribute? a := fun a => by
    rw [Element.attribute?, Element.attribute?, same]
  cases t <;> simp [Term.truth, he, hf, values]

/-- An element of some document, and a number of siblings in front, that a step selects. Where no
number asks for a place, the place is none that the selector's positions would ask for. -/
structure Fits (d : Document) (s : Step) (l : Level) : Prop where
  named : s.name = "*" ∨ l.1.name = s.name
  found : ∃ q, d.element? q = some l.1 ∧ ∀ t ∈ s.terms, t.isTest = true → t.truth d q = true
  asked : asksFor (l.2 + 1) (numbers s.predicates)
  apart : numbers s.predicates = [] → ∀ m ∈ positions s.terms, l.2 + 1 ≠ min m maxPlace

section Nested

variable {d d' : Document} {levels : List Level} {l : Level} {here : Place} {s : Step}
  {steps : List (Axis × Step)} {nodes : Place → Prop}

theorem Fits.hasName (h : Fits d s l) {i : Nat} {e f : Element} (hl : l = (e, i))
    (hf : d'.element? (i :: here) = some f) (same : f.name = e.name) :
    hasName d' s.name (i :: here) = true := by
  refine (hasName_iff hf).2 ?_
  rw [same]
  subst hl
  exact h.named

/-- The element of a level is selected by its step. -/
theorem Fits.mem_select {e : Element} {i : Nat} (h : Fits d s (e, i)) (hc : d'.cut = [])
    (hs : s.accepted = true) (hn : d'.childrenAt here = nest ((e, i) :: levels)) :
    i :: here ∈ s.select d' here := by
  have found := element?_level hn
  have named := h.hasName rfl found rfl
  obtain ⟨q, hq, tests⟩ := h.found
  refine (mem_select_iff hc hs).2 ⟨⟨i, _, rfl, found⟩, named, fun t ht test => ?_, ?_⟩
  · rw [truth_congr hq found rfl]
    exact tests t ht test
  · rw [before_level hc hn named]
    exact h.asked

/-- A path down the levels. -/
theorem foldl_advance_nest (hc : d'.cut = []) (hs : ∀ s ∈ steps, s.2.accepted = true)
    (hf : List.Forall₂ (fun s l => Fits d s.2 l) steps levels)
    (hn : d'.childrenAt here = nest levels) (h : nodes here) :
    steps.foldl (advance d') nodes (innermost here levels) := by
  induction hf generalizing here nodes with
  | nil => exact h
  | @cons s l steps levels fits _ ih =>
    obtain ⟨e, i⟩ := l
    refine ih (fun u hu => hs u (List.mem_cons_of_mem _ hu)) (childrenAt_level hn) ?_
    refine ⟨here, ?_, fits.mem_select hc (hs s List.mem_cons_self) hn⟩
    cases s.1 with
    | child => exact h
    | descendant => exact ⟨here, h, .self⟩

/-! ## What the selector asks of the innermost element -/

theorem within_length {a b : Place} (h : d.Within a b) : a = b ∨ a.length < b.length := by
  induction h with
  | self => exact .inl rfl
  | child _ hc ih =>
    obtain ⟨i, e, rfl, _⟩ := Document.mem_childElements_iff.1 hc
    rw [List.length_cons]
    rcases ih with rfl | lt
    · exact .inr (Nat.lt_succ_self _)
    · exact .inr (Nat.lt_succ_of_lt lt)

/-- A place that a relation leads to is the parent, or nearer to the root. -/
theorem length_of_mem_related {axis : Axis} {i : Nat} {up r : Place}
    (h : r ∈ axis.combinator.related d (i :: up)) : r = up ∨ r.length < up.length := by
  cases axis with
  | child =>
    have parent : r ∈ (if (d.element? up).isSome then some up else none).toList := h
    split at parent
    · exact .inl (List.mem_singleton.1 parent)
    · cases parent
  | descendant =>
    have around : r ∈ d.ancestors (i :: up) := h
    exact within_length (Document.mem_ancestors_iff.1 around).2

theorem isSome_of_mem_related {axis : Axis} {i : Nat} {up r : Place}
    (h : r ∈ axis.combinator.related d (i :: up)) : (d.element? r).isSome = true := by
  cases axis with
  | child =>
    have parent : r ∈ (if (d.element? up).isSome then some up else none).toList := h
    split at parent
    · rename_i he
      rwa [List.mem_singleton.1 parent]
    · cases parent
  | descendant =>
    have around : r ∈ d.ancestors (i :: up) := h
    exact (Document.mem_ancestors_iff.1 around).1

/-- Every element that a selector holds of is at least this far from the root. -/
def Deep (d : Document) (n : Nat) (c : Css.Complex) : Prop :=
  ∀ q, (d.element? q).isSome = true → c.exact.holds d none q = true → n ≤ q.length

theorem deep_one (d : Document) (c : Css.Complex) : Deep d 1 c := by
  intro q he _
  cases q with
  | nil => cases he
  | cons i up => exact Nat.succ_le_succ (Nat.zero_le _)

/-- What a selector with one more step asks, at the least distance from the root. -/
theorem join_holds_deep {left : Css.Complex} {axis : Axis} {i : Nat}
    (hd : Deep d here.length left)
    (h : (joinStep left (axis, s)).exact.holds d none (i :: here) = true) :
    left.exact.holds d none here = true ∧
      ∀ x ∈ Simple.exactEach (s.parts false), x.holds d none (i :: here) = true := by
  obtain ⟨parts, r, hr, holds⟩ := join_holds_iff.1 h
  have deep := hd r (isSome_of_mem_related hr) holds
  rcases length_of_mem_related hr with rfl | lt
  · exact ⟨holds, parts⟩
  · omega

theorem Deep.join {n : Nat} {left : Css.Complex} (h : Deep d n left) (s : Axis × Step) :
    Deep d (n + 1) (joinStep left s) := by
  intro q he hq
  obtain ⟨_, r, hr, holds⟩ := join_holds_iff.1 hq
  cases q with
  | nil => cases he
  | cons i up =>
    have deep := h r (isSome_of_mem_related hr) holds
    rw [List.length_cons]
    rcases length_of_mem_related hr with rfl | lt
    · omega
    · omega

/-- Every position of a step asks a selector for the place that its numbers ask for, and without a
number there is no position. -/
def AsksForOne (s : Step) : Prop :=
  ∃ place, asksFor place (numbers s.predicates) ∧
    (numbers s.predicates = [] → ∀ m ∈ positions s.terms, place ≠ min m maxPlace) ∧
    ∀ m ∈ positions s.terms, place = min m maxPlace

theorem AsksForOne.positions (h : AsksForOne s) :
    positions s.terms = [] ∨ ∃ n rest, numbers s.predicates = n :: rest ∧
      (∀ m ∈ rest, m = 1) ∧ ∀ m ∈ positions s.terms, min m maxPlace = n := by
  obtain ⟨place, asked, apart, same⟩ := h
  cases hn : numbers s.predicates with
  | nil =>
    refine .inl (List.eq_nil_iff_forall_not_mem.2 fun m hm => ?_)
    exact apart hn m hm (same m hm)
  | cons n rest =>
    rw [hn] at asked
    obtain ⟨rfl, hrest⟩ := asked
    exact .inr ⟨place, rest, rfl, hrest, fun m hm => (same m hm).symm⟩

/-- If the compound of a step holds of its level, the positions of the step agree. -/
theorem Fits.asksForOne {e : Element} {i : Nat} {root : Bool} (h : Fits d s (e, i))
    (tree : d'.IsTree) (hk : d'.KeepsNames s.names)
    (hn : d'.childrenAt here = nest ((e, i) :: levels))
    (parts : ∀ x ∈ Simple.exactEach (s.parts root), x.holds d' none (i :: here) = true) :
    AsksForOne s := by
  obtain ⟨named, _, places, _⟩ := (parts_hold_iff tree hk (element?_level hn)).1 parts
  rw [before_level tree.cut hn named] at places
  exact ⟨i + 1, h.asked, h.apart, places⟩

/-- The selector at the innermost element, level by level. -/
theorem asksForOne_of_holds {left : Css.Complex} (tree : d'.IsTree)
    (hk : ∀ s ∈ steps, d'.KeepsNames s.2.names)
    (hf : List.Forall₂ (fun s l => Fits d s.2 l) steps levels)
    (hn : d'.childrenAt here = nest levels) (hd : Deep d' here.length left)
    (h : (steps.foldl joinStep left).exact.holds d' none (innermost here levels) = true) :
    left.exact.holds d' none here = true ∧ ∀ s ∈ steps, AsksForOne s.2 := by
  induction hf generalizing here left with
  | nil => exact ⟨h, fun _ h => nomatch h⟩
  | @cons s l steps levels fits _ ih =>
    obtain ⟨e, i⟩ := l
    obtain ⟨joined, later⟩ := ih (fun u hu => hk u (List.mem_cons_of_mem _ hu))
      (childrenAt_level hn) (hd.join s) h
    obtain ⟨holds, parts⟩ := join_holds_deep hd joined
    refine ⟨holds, fun u hu => ?_⟩
    rcases List.mem_cons.1 hu with rfl | hu
    · exact fits.asksForOne tree (hk _ List.mem_cons_self) hn parts
    · exact later u hu

end Nested

end PageHarvest.XPath
