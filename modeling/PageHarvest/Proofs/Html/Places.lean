import Mathlib.Data.List.Lex
import Mathlib.Data.List.Sort
import PageHarvest.Html.Tree

/-!
# Elements and their places

A document lists its elements with their places, and finds the element at a place. The two views
agree: `mem_elements_iff`, and for a document without cut parts `mem_places_iff`.

* `childElements` are the child elements of a place, in the order of the document;
* `Within a b`: the place `b` is `a` or lies below it, with only elements on the way down;
* `mem_ancestors_iff`: the elements around a place are those that it lies below;
* `mem_placesBelow_iff`: the elements in a node, also those in parts that are no elements;
* `Place.Before`: the order of the document, in which `elements` and `placesBelow` go, and `places`
  as well where no element was moved.
-/

namespace PageHarvest.Html

/-! ## Elements of a list of nodes -/

namespace Node

theorem mem_elementsIn {x : Place × Element} {up : Place} {i : Nat} {ns : List Node} :
    x ∈ elementsIn up i ns ↔ ∃ j n, ns[j]? = some n ∧ x ∈ elements ((i + j) :: up) n := by
  induction ns generalizing i with
  | nil => simp [elementsIn]
  | cons n ns ih =>
    rw [elementsIn, List.mem_append, ih]
    constructor
    · rintro (h | ⟨j, m, hj, h⟩)
      · exact ⟨0, n, rfl, h⟩
      · refine ⟨j + 1, m, by simpa using hj, ?_⟩
        rwa [show i + (j + 1) = i + 1 + j by omega]
    · rintro ⟨j, m, hj, h⟩
      cases j with
      | zero =>
        obtain rfl : n = m := by simpa using hj
        exact .inl h
      | succ j =>
        refine .inr ⟨j, m, by simpa using hj, ?_⟩
        rwa [show i + 1 + j = i + (j + 1) by omega]

/-- The elements in a child are elements in the children. -/
theorem mem_elementsIn_of_child {x : Place × Element} {up : Place} {i : Nat} {n : Node}
    {ns : List Node} (hi : ns[i]? = some n) (hx : x ∈ elements (i :: up) n) :
    x ∈ elementsIn up 0 ns := by
  refine mem_elementsIn.2 ⟨i, n, hi, ?_⟩
  rwa [Nat.zero_add]

theorem mem_elements_self {n : Node} {e : Element} (h : n.element? = some e) (q : Place) :
    (q, e) ∈ elements q n := by
  cases n with
  | element =>
    cases h
    exact List.mem_cons_self
  | fragment => cases h
  | text => cases h
  | comment => cases h

/-- The elements in the children of a node are elements in the node. -/
theorem mem_elements_of_children {x : Place × Element} {q : Place} {n : Node}
    (h : x ∈ elementsIn q 0 n.children) : x ∈ elements q n := by
  cases n with
  | element => exact List.mem_cons_of_mem _ h
  | fragment => exact h
  | text => exact h
  | comment => exact h

mutual

/-- What a node holds stands at the place of the node or further down. -/
theorem suffix_of_mem_elements (n : Node) {here : Place} {x : Place × Element}
    (hx : x ∈ elements here n) : here <:+ x.1 := by
  cases n with
  | element number v name attributes ns =>
    rcases List.mem_cons.1 hx with rfl | hx
    · exact List.suffix_refl here
    · exact suffix_of_mem_elementsIn ns hx
  | fragment ns => exact suffix_of_mem_elementsIn ns hx
  | text => cases hx
  | comment => cases hx

theorem suffix_of_mem_elementsIn (ns : List Node) {up : Place} {i : Nat} {x : Place × Element}
    (hx : x ∈ elementsIn up i ns) : up <:+ x.1 := by
  cases ns with
  | nil => cases hx
  | cons n ns =>
    rcases List.mem_append.1 hx with hx | hx
    · exact (List.suffix_cons i up).trans (suffix_of_mem_elements n hx)
    · exact suffix_of_mem_elementsIn ns hx

end

end Node

namespace Document

variable {d : Document}

theorem node?_cons (d : Document) (i : Nat) (up : Place) :
    d.node? (i :: up) = (d.childrenAt up)[i]? := rfl

theorem childrenAt_cons (d : Document) (i : Nat) (up : Place) :
    d.childrenAt (i :: up) = ((d.node? (i :: up)).map Node.children).getD [] := rfl

theorem childrenAt_of_node? {q : Place} {n : Node} (h : d.node? q = some n) :
    d.childrenAt q = n.children := by
  cases q with
  | nil => cases h
  | cons i up => rw [childrenAt_cons, h]; rfl

theorem element?_of_node? {q : Place} {n : Node} (h : d.node? q = some n) :
    d.element? q = n.element? := by
  rw [element?, h, Option.bind_some]

mutual

/-- What a node holds stands where the document finds it. -/
theorem element?_of_mem_elements (n : Node) {q : Place} (hn : d.node? q = some n)
    {x : Place × Element} (hx : x ∈ Node.elements q n) : d.element? x.1 = some x.2 := by
  have children : ∀ j, n.children[j]? = (d.childrenAt q)[0 + j]? := by
    intro j
    rw [childrenAt_of_node? hn, Nat.zero_add]
  cases n with
  | element number v name attributes ns =>
    rcases List.mem_cons.1 hx with rfl | hx
    · rw [element?_of_node? hn]
      rfl
    · exact element?_of_mem_elementsIn ns children hx
  | fragment ns => exact element?_of_mem_elementsIn ns children hx
  | text => cases hx
  | comment => cases hx

theorem element?_of_mem_elementsIn (ns : List Node) {up : Place} {i : Nat}
    (hn : ∀ j, ns[j]? = (d.childrenAt up)[i + j]?) {x : Place × Element}
    (hx : x ∈ Node.elementsIn up i ns) : d.element? x.1 = some x.2 := by
  cases ns with
  | nil => cases hx
  | cons n ns =>
    rcases List.mem_append.1 hx with hx | hx
    · have here : d.node? (i :: up) = some n := by
        rw [node?_cons, ← Nat.add_zero i, ← hn 0]
        rfl
      exact element?_of_mem_elements n here hx
    · refine element?_of_mem_elementsIn ns (fun j => ?_) hx
      rw [← List.getElem?_cons_succ (a := n), hn (j + 1), Nat.add_assoc, Nat.add_comm 1 j]

end

/-- The elements in the children of a node are in the tree or in a part that was cut out. -/
theorem elementsIn_subset {q : Place} {n : Node} (hn : d.node? q = some n) {x : Place × Element}
    (hx : x ∈ Node.elementsIn q 0 n.children) : x ∈ d.elements ++ d.cutElements := by
  induction q generalizing n x with
  | nil => cases hn
  | cons i up ih =>
    rw [node?_cons] at hn
    cases up with
    | nil =>
      rw [childrenAt] at hn
      by_cases inTree : i < d.nodes.length
      · rw [List.getElem?_append_left inTree] at hn
        exact List.mem_append_left _
          (Node.mem_elementsIn_of_child hn (Node.mem_elements_of_children hx))
      · have le : d.nodes.length ≤ i := Nat.le_of_not_lt inTree
        rw [List.getElem?_append_right le] at hn
        refine List.mem_append_right _ (List.mem_flatMap.2 ⟨(n, i), ?_, hx⟩)
        exact List.mem_zipIdx_iff_le_and_getElem?_sub.2 ⟨le, hn⟩
    | cons j up =>
      cases hp : d.node? (j :: up) with
      | none =>
        rw [childrenAt_cons, hp] at hn
        cases hn
      | some parent =>
        rw [childrenAt_of_node? hp] at hn
        exact ih hp (Node.mem_elementsIn_of_child hn (Node.mem_elements_of_children hx))

theorem cutElements_eq_nil (hc : d.cut = []) : d.cutElements = [] := by
  rw [cutElements, hc]
  rfl

/-- A node's elements are all in the tree. -/
theorem elements_subset (hc : d.cut = []) {q : Place} {n : Node} (hn : d.node? q = some n)
    {x : Place × Element} (hx : x ∈ Node.elements q n) : x ∈ d.elements := by
  cases q with
  | nil => cases hn
  | cons i up =>
    rw [node?_cons] at hn
    cases up with
    | nil =>
      rw [childrenAt, hc, List.append_nil] at hn
      exact Node.mem_elementsIn_of_child hn hx
    | cons j up =>
      cases hp : d.node? (j :: up) with
      | none =>
        rw [childrenAt_cons, hp] at hn
        cases hn
      | some parent =>
        rw [childrenAt_of_node? hp] at hn
        have whole : x ∈ d.elements ++ d.cutElements :=
          elementsIn_subset hp (Node.mem_elementsIn_of_child hn hx)
        rwa [cutElements_eq_nil hc, List.append_nil] at whole

theorem mem_elements_iff (hc : d.cut = []) {q : Place} {e : Element} :
    (q, e) ∈ d.elements ↔ d.element? q = some e := by
  constructor
  · intro h
    refine element?_of_mem_elementsIn d.nodes (fun j => ?_) h
    rw [childrenAt, hc, List.append_nil, Nat.zero_add]
  · intro h
    rw [element?, Option.bind_eq_some_iff] at h
    obtain ⟨n, hn, he⟩ := h
    exact elements_subset hc hn (Node.mem_elements_self he q)

theorem mem_places {q : Place} :
    q ∈ d.places ↔ ∃ e, (q, e) ∈ d.elements ++ d.cutElements := by
  rw [places, List.mem_map]
  constructor
  · rintro ⟨⟨_, e⟩, h, rfl⟩
    exact ⟨e, List.mem_mergeSort.1 h⟩
  · rintro ⟨e, h⟩
    exact ⟨(q, e), List.mem_mergeSort.2 h, rfl⟩

/-- Where no element was moved, the order of the numbers is that of the document. -/
theorem places_of_pairwise
    (inOrder : (d.elements ++ d.cutElements).Pairwise fun a b => a.2.number ≤ b.2.number) :
    d.places = (d.elements ++ d.cutElements).map Prod.fst := by
  rw [places, List.mergeSort_of_pairwise (by simpa using inOrder)]

theorem length_places (d : Document) :
    d.places.length = (d.elements ++ d.cutElements).length := by
  rw [places, List.length_map, List.length_mergeSort]

/-- A query of the whole document looks at every element. -/
theorem mem_places_iff (hc : d.cut = []) {q : Place} :
    q ∈ d.places ↔ ∃ e, d.element? q = some e := by
  rw [mem_places, cutElements_eq_nil hc, List.append_nil]
  exact exists_congr fun e => mem_elements_iff hc

/-- What is listed stands where the document finds it, also in the parts that were cut out. -/
theorem element?_of_listed {x : Place × Element} (h : x ∈ d.elements ++ d.cutElements) :
    d.element? x.1 = some x.2 := by
  rcases List.mem_append.1 h with tree | cut
  · obtain ⟨j, n, hj, hx⟩ := Node.mem_elementsIn.1 tree
    refine element?_of_mem_elements n ?_ hx
    rw [node?_cons, childrenAt, Nat.zero_add]
    exact List.getElem?_append_left (List.getElem?_eq_some_iff.1 hj).1 ▸ hj
  · obtain ⟨⟨n, i⟩, hn, hx⟩ := List.mem_flatMap.1 cut
    obtain ⟨le, hi⟩ := List.mem_zipIdx_iff_le_and_getElem?_sub.1 hn
    have here : d.node? [i] = some n := by
      rw [node?_cons, childrenAt, List.getElem?_append_right le]
      exact hi
    refine element?_of_mem_elementsIn n.children (fun j => ?_) hx
    rw [childrenAt_of_node? here, Nat.zero_add]

/-- What a query of the whole document looks at are elements. -/
theorem element?_of_mem_places {q : Place} (h : q ∈ d.places) : ∃ e, d.element? q = some e := by
  obtain ⟨e, listed⟩ := mem_places.1 h
  exact ⟨e, element?_of_listed listed⟩

theorem element?_of_mem_placesBelow {p q : Place} (h : q ∈ d.placesBelow p) :
    ∃ e, d.element? q = some e := by
  obtain ⟨⟨_, e⟩, hx, rfl⟩ := List.mem_map.1 h
  exact ⟨e, element?_of_mem_elementsIn _ (fun j => by rw [Nat.zero_add]) hx⟩

/-- A query of an element looks at elements that a query of the whole document looks at. -/
theorem mem_places_of_mem_placesBelow {p q : Place} {e : Element} (hp : d.element? p = some e)
    (h : q ∈ d.placesBelow p) : q ∈ d.places := by
  obtain ⟨n, hn, _⟩ := Option.bind_eq_some_iff.1 hp
  obtain ⟨⟨_, e⟩, hx, rfl⟩ := List.mem_map.1 h
  rw [childrenAt_of_node? hn] at hx
  exact mem_places.2 ⟨e, elementsIn_subset hn hx⟩

/-! ## Children and what lies below -/

/-- The child elements of a place, in the order of the document. -/
def childElements (d : Document) (up : Place) : List Place :=
  ((d.childrenAt up).zipIdx.filter fun n => n.1.isElement).map fun n => n.2 :: up

theorem mem_childElements_iff {q up : Place} :
    q ∈ d.childElements up ↔ ∃ i e, q = i :: up ∧ d.element? q = some e := by
  unfold childElements
  rw [List.mem_map]
  constructor
  · rintro ⟨⟨n, i⟩, h, rfl⟩
    obtain ⟨hm, he⟩ := List.mem_filter.1 h
    have hn : (d.childrenAt up)[i]? = some n := by
      simpa using List.mem_zipIdx_iff_getElem?.1 hm
    obtain ⟨e, he⟩ := Option.isSome_iff_exists.1 he
    refine ⟨i, e, rfl, ?_⟩
    rw [element?_of_node? ((node?_cons d i up).trans hn), he]
  · rintro ⟨i, e, rfl, h⟩
    rw [element?, Option.bind_eq_some_iff] at h
    obtain ⟨n, hn, he⟩ := h
    rw [node?_cons] at hn
    refine ⟨(n, i), List.mem_filter.2 ⟨?_, ?_⟩, rfl⟩
    · exact List.mem_zipIdx_iff_getElem?.2 (by simpa using hn)
    · simp [Node.isElement, he]

theorem childElements_nodup (d : Document) (up : Place) : (d.childElements up).Nodup := by
  have indices : ((d.childrenAt up).zipIdx.map Prod.snd).Nodup := by
    rw [List.zipIdx_map_snd]
    exact List.nodup_range'
  have kept : (((d.childrenAt up).zipIdx.filter fun n => n.1.isElement).map Prod.snd).Nodup :=
    (List.filter_sublist.map Prod.snd).nodup indices
  have places : d.childElements up = (((d.childrenAt up).zipIdx.filter fun n =>
      n.1.isElement).map Prod.snd).map fun i => i :: up := by
    rw [childElements, List.map_map]
    rfl
  rw [places]
  exact List.Pairwise.map _ (fun a b hab e => hab (List.cons.inj e).1) kept

theorem siblings_eq (hc : d.cut = []) {i : Nat} {up : Place} {n : Node}
    (h : d.node? (i :: up) = some n) : d.siblings (i :: up) = d.childrenAt up := by
  cases up with
  | cons j up => rfl
  | nil =>
    rw [node?_cons, childrenAt, hc, List.append_nil] at h
    obtain ⟨lt, _⟩ := List.getElem?_eq_some_iff.1 h
    rw [siblings, if_pos lt, childrenAt, hc, List.append_nil]

/-- An element among the child elements of its parent. -/
theorem childElements_split (hc : d.cut = []) {i : Nat} {up : Place} {e : Element}
    (h : d.element? (i :: up) = some e) :
    ∃ after, d.childElements up = (d.siblingsBefore (i :: up)).reverse ++ (i :: up) :: after := by
  rw [element?, Option.bind_eq_some_iff] at h
  obtain ⟨n, hn, he⟩ := h
  have element : n.isElement = true := by simp [Node.isElement, he]
  have found := hn
  rw [node?_cons] at found
  obtain ⟨lt, at_⟩ := List.getElem?_eq_some_iff.1 found
  have children :
      d.childrenAt up = (d.childrenAt up).take i ++ n :: (d.childrenAt up).drop (i + 1) := by
    rw [← at_, List.getElem_cons_drop, List.take_append_drop]
  have front : ((d.childrenAt up).take i).length = i := by
    rw [List.length_take]
    omega
  refine ⟨(((d.childrenAt up).drop (i + 1)).zipIdx (i + 1) |>.filter fun n => n.1.isElement).map
    fun n => n.2 :: up, ?_⟩
  rw [siblingsBefore, siblings_eq hc hn, List.reverse_reverse, childElements]
  conv => lhs; rw [children]
  rw [List.zipIdx_append, front, Nat.zero_add, List.zipIdx_cons, List.filter_append,
    List.filter_cons, if_pos element, List.map_append]
  rfl

/-- The second place is the first one or lies below it. -/
inductive Within (d : Document) (a : Place) : Place → Prop
  | self : Within d a a
  | child {b c : Place} : Within d a b → c ∈ d.childElements b → Within d a c

theorem within_cons {a up : Place} {i : Nat} (h : d.Within a (i :: up)) :
    a = i :: up ∨ d.Within a up ∧ (d.element? (i :: up)).isSome := by
  cases h with
  | self => exact .inl rfl
  | child h hc =>
    obtain ⟨j, e, hq, he⟩ := mem_childElements_iff.1 hc
    cases hq
    exact .inr ⟨h, by rw [he]; rfl⟩

theorem mem_ancestors_iff {a up : Place} {i : Nat} :
    a ∈ d.ancestors (i :: up) ↔ (d.element? a).isSome ∧ d.Within a up := by
  induction up generalizing i with
  | nil =>
    have top : (d.element? []).isSome = false := rfl
    rw [ancestors, top, if_neg (by simp)]
    constructor
    · exact nofun
    · rintro ⟨he, h⟩
      cases h with
      | self => exact absurd he (by simp [top])
      | child _ hc =>
        obtain ⟨_, _, hq, _⟩ := mem_childElements_iff.1 hc
        cases hq
  | cons j up ih =>
    rw [ancestors]
    constructor
    · intro h
      split at h
      · rename_i he
        rcases List.mem_cons.1 h with rfl | h
        · exact ⟨he, .self⟩
        · obtain ⟨ha, hw⟩ := ih.1 h
          obtain ⟨e, he⟩ := Option.isSome_iff_exists.1 he
          exact ⟨ha, hw.child (mem_childElements_iff.2 ⟨j, e, rfl, he⟩)⟩
      · cases h
    · rintro ⟨ha, hw⟩
      rcases within_cons hw with rfl | ⟨hw, he⟩
      · rw [if_pos ha]
        exact List.mem_cons_self
      · rw [if_pos he]
        exact List.mem_cons_of_mem _ (ih.2 ⟨ha, hw⟩)

theorem Within.suffix {a b : Place} (h : d.Within a b) : a <:+ b := by
  induction h with
  | self => exact List.suffix_refl a
  | child _ hc ih =>
    obtain ⟨i, e, rfl, _⟩ := mem_childElements_iff.1 hc
    exact ih.trans (List.suffix_cons i _)

/-- Of two places that a place lies below, one lies below the other. -/
theorem within_total {a b q : Place} (ha : d.Within a q) (hb : d.Within b q) :
    d.Within a b ∨ d.Within b a := by
  induction ha with
  | self => exact .inr hb
  | child h hc ih =>
    obtain ⟨i, e, rfl, _⟩ := mem_childElements_iff.1 hc
    rcases within_cons hb with rfl | ⟨hb, _⟩
    · exact .inl (h.child hc)
    · exact ih hb

/-- The elements of a node further down are among those below the place. -/
theorem elementsIn_of_suffix {p more : Place} {n : Node} (some : more ≠ [])
    (hn : d.node? (more ++ p) = Option.some n) {x : Place × Element}
    (hx : x ∈ Node.elements (more ++ p) n) : x ∈ Node.elementsIn p 0 (d.childrenAt p) := by
  induction more generalizing n x with
  | nil => exact absurd rfl some
  | cons i more ih =>
    cases more with
    | nil => exact Node.mem_elementsIn_of_child hn hx
    | cons j more =>
      cases hp : d.node? (j :: (more ++ p)) with
      | none =>
        rw [List.cons_append, List.cons_append, node?_cons, childrenAt_cons, hp] at hn
        cases hn
      | some parent =>
        rw [List.cons_append, List.cons_append, node?_cons, childrenAt_of_node? hp] at hn
        have inside := Node.mem_elementsIn_of_child hn hx
        exact ih (List.cons_ne_nil j more) hp (Node.mem_elements_of_children inside)

/-- A query of an element looks at the elements further down. -/
theorem mem_placesBelow_iff {p q : Place} :
    q ∈ d.placesBelow p ↔ (∃ e, d.element? q = some e) ∧ p <:+ q ∧ p ≠ q := by
  constructor
  · intro h
    refine ⟨element?_of_mem_placesBelow h, ?_⟩
    obtain ⟨x, hx, rfl⟩ := List.mem_map.1 h
    obtain ⟨j, n, _, hx⟩ := Node.mem_elementsIn.1 hx
    have below := Node.suffix_of_mem_elements n hx
    refine ⟨(List.suffix_cons _ p).trans below, fun same => ?_⟩
    have length := below.length_le
    rw [← same, List.length_cons] at length
    omega
  · rintro ⟨⟨e, he⟩, ⟨more, rfl⟩, apart⟩
    obtain ⟨n, hn, self⟩ := Option.bind_eq_some_iff.1 he
    have some : more ≠ [] := fun none => apart (by rw [none, List.nil_append])
    exact List.mem_map.2 ⟨_, elementsIn_of_suffix some hn (Node.mem_elements_self self _), rfl⟩

theorem mem_placesBelow_of_within {p c q : Place} (h : d.Within p c) (hq : q ∈ d.childElements c) :
    q ∈ d.placesBelow p := by
  obtain ⟨i, e, rfl, he⟩ := mem_childElements_iff.1 hq
  refine mem_placesBelow_iff.2 ⟨⟨e, he⟩, h.suffix.trans (List.suffix_cons i c), fun same => ?_⟩
  have length := h.suffix.length_le
  rw [same, List.length_cons] at length
  omega

end Document

/-! ## The order of the document -/

/-- The order of the document: on the ways down to the two places, the first one turns off to the
left or ends first. What was cut out comes behind the tree. -/
def Place.Before (p q : Place) : Prop := List.Lex (· < ·) p.reverse q.reverse

instance (p q : Place) : Decidable (Place.Before p q) :=
  inferInstanceAs (Decidable (List.Lex _ _ _))

theorem Place.before_of_below {p q : Place} {i : Nat} (h : i :: p <:+ q) : Place.Before p q := by
  obtain ⟨more, rfl⟩ := h
  rw [Place.Before, List.reverse_append, List.reverse_cons, List.append_assoc]
  conv => lhs; rw [← List.append_nil p.reverse]
  exact List.Lex.append_left _ .nil _

theorem Place.before_of_branch {p q up : Place} {i j : Nat} (hp : i :: up <:+ p)
    (hq : j :: up <:+ q) (lt : i < j) : Place.Before p q := by
  obtain ⟨more, rfl⟩ := hp
  obtain ⟨more', rfl⟩ := hq
  rw [Place.Before, List.reverse_append, List.reverse_append, List.reverse_cons, List.reverse_cons,
    List.append_assoc, List.append_assoc]
  exact List.Lex.append_left _ (.rel lt) _

theorem Place.Before.ne {p q : Place} (h : Place.Before p q) : p ≠ q := by
  rintro rfl
  exact List.lex_irrefl (fun n => Nat.lt_irrefl n) _ h

namespace Node

theorem exists_suffix_of_mem_elementsIn {ns : List Node} {up : Place} {i : Nat}
    {x : Place × Element} (hx : x ∈ elementsIn up i ns) : ∃ j, (i + j) :: up <:+ x.1 := by
  obtain ⟨j, n, _, hx⟩ := mem_elementsIn.1 hx
  exact ⟨j, suffix_of_mem_elements n hx⟩

mutual

/-- The elements in a node come in the order of the document. -/
theorem pairwise_elements (n : Node) (here : Place) :
    (elements here n).Pairwise fun a b => Place.Before a.1 b.1 := by
  cases n with
  | element number v name attributes ns =>
    refine .cons (fun x hx => ?_) (pairwise_elementsIn ns here 0)
    obtain ⟨j, below⟩ := exists_suffix_of_mem_elementsIn hx
    exact Place.before_of_below below
  | fragment ns => exact pairwise_elementsIn ns here 0
  | text => exact .nil
  | comment => exact .nil

theorem pairwise_elementsIn (ns : List Node) (up : Place) (i : Nat) :
    (elementsIn up i ns).Pairwise fun a b => Place.Before a.1 b.1 := by
  cases ns with
  | nil => exact .nil
  | cons n ns =>
    refine List.pairwise_append.2
      ⟨pairwise_elements n (i :: up), pairwise_elementsIn ns up (i + 1), fun x hx y hy => ?_⟩
    obtain ⟨j, below⟩ := exists_suffix_of_mem_elementsIn hy
    exact Place.before_of_branch (suffix_of_mem_elements n hx) below (by omega)

end

end Node

namespace Document

theorem pairwise_placesBelow (d : Document) (p : Place) :
    (d.placesBelow p).Pairwise Place.Before :=
  List.pairwise_map.2 (Node.pairwise_elementsIn _ p 0)

theorem pairwise_listed (d : Document) :
    (d.elements ++ d.cutElements).Pairwise fun a b => Place.Before a.1 b.1 := by
  refine List.pairwise_append.2 ⟨Node.pairwise_elementsIn _ [] 0, ?_, fun x hx y hy => ?_⟩
  · rw [cutElements, List.pairwise_flatMap]
    refine ⟨fun n _ => Node.pairwise_elementsIn _ _ 0, ?_⟩
    have indices : ((d.cut.zipIdx d.nodes.length).map Prod.snd).Pairwise (· < ·) := by
      rw [List.zipIdx_map_snd]
      exact List.pairwise_lt_range'
    refine (List.pairwise_map.1 indices).imp fun {a b} lt x hx y hy => ?_
    exact Place.before_of_branch (Node.suffix_of_mem_elementsIn _ hx)
      (Node.suffix_of_mem_elementsIn _ hy) lt
  · obtain ⟨j, n, hn, hx⟩ := Node.mem_elementsIn.1 hx
    obtain ⟨⟨m, k⟩, hm, hy⟩ := List.mem_flatMap.1 hy
    have le := (List.mem_zipIdx_iff_le_and_getElem?_sub.1 hm).1
    have lt := (List.getElem?_eq_some_iff.1 hn).1
    exact Place.before_of_branch (Node.suffix_of_mem_elements n hx)
      (Node.suffix_of_mem_elementsIn _ hy) (by omega)

/-- A query of the whole document looks at every element once. -/
theorem nodup_places (d : Document) : d.places.Nodup := by
  have listed : ((d.elements ++ d.cutElements).map Prod.fst).Nodup :=
    (List.pairwise_map.2 d.pairwise_listed).imp fun before => before.ne
  exact ((List.mergeSort_perm _ _).map Prod.fst).nodup_iff.2 listed

/-- The first element was not made after the second one. -/
abbrev ByNumber (a b : Place × Element) : Prop := a.2.number ≤ b.2.number

instance : Std.Total ByNumber := ⟨fun _ _ => Nat.le_total _ _⟩

instance : IsTrans (Place × Element) ByNumber := ⟨fun _ _ _ => Nat.le_trans⟩

/-- No element was moved: the numbers follow the order of the document. -/
def Unmoved (d : Document) : Prop :=
  (d.elements ++ d.cutElements).Pairwise ByNumber

/-- The first place has an element that was not made after the one at the second place. -/
def Older (d : Document) (p q : Place) : Prop :=
  ∃ e f, d.element? p = some e ∧ d.element? q = some f ∧ e.number ≤ f.number

/-- A query of the whole document goes in the order in which the elements were made. -/
theorem pairwise_places_older (d : Document) : d.places.Pairwise d.Older := by
  rw [places, List.pairwise_map]
  refine (List.pairwise_mergeSort' ByNumber _).imp_of_mem fun ha hb le => ?_
  exact ⟨_, _, element?_of_listed (List.mem_mergeSort.1 ha),
    element?_of_listed (List.mem_mergeSort.1 hb), le⟩

/-- Where no element was moved, that is the order of the document. -/
theorem Unmoved.pairwise_places {d : Document} (unmoved : d.Unmoved) :
    d.places.Pairwise Place.Before := by
  rw [places_of_pairwise unmoved]
  exact List.pairwise_map.2 d.pairwise_listed

/-- Elements with numbers of their own can be put in order one by one. -/
theorem places_eq_insertionSort {d : Document}
    (distinct : ((d.elements ++ d.cutElements).map fun x => x.2.number).Nodup) :
    d.places = ((d.elements ++ d.cutElements).insertionSort ByNumber).map Prod.fst := by
  refine congrArg _ (List.Perm.eq_of_pairwise (fun a b ha hb le ge => ?_)
    (List.pairwise_mergeSort' ByNumber _) (List.pairwise_insertionSort ByNumber _)
    ((List.mergeSort_perm _ _).trans (List.perm_insertionSort ByNumber _).symm))
  exact List.inj_on_of_nodup_map distinct (List.mem_mergeSort.1 ha)
    ((List.perm_insertionSort ByNumber _).mem_iff.1 hb) (Nat.le_antisymm le ge)

end Document

end PageHarvest.Html
