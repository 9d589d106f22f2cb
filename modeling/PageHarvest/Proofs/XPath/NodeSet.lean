import PageHarvest.Proofs.Html.Places
import PageHarvest.Proofs.XPath.Reading

/-!
# The node-set of a path

What a path selects from the document root in XPath 1.0. A step takes the child elements with its
name of every node that its axis leads to, and passes them through its predicates one after the
other. A predicate that is a number keeps the node at that position among those the predicates in
front have left; any other predicate keeps the nodes for which each of its terms is true, and a
number other than zero is true there. The value of a missing attribute is the empty text.

`mem_select_iff` says what this comes to for a step that the reader takes: the name, the tests, and
the place among the child elements of that name.
-/

namespace PageHarvest.XPath

open Html Text

/-- A term as a truth value. -/
def Term.truth (d : Document) (q : Place) : Term → Bool
  | position n => n != 0
  | has a => (d.element? q).any fun e => (e.attribute? a).isSome
  | equals a v => (d.element? q).any fun e => e.attribute? a == some v
  | contains a v =>
    (d.element? q).any fun e => isInside v.toList ((e.attribute? a).getD "").toList

/-- Whether a predicate keeps the node at the given position. -/
def keeps (d : Document) (q : Place) (place : Nat) : List Term → Bool
  | [.position n] => place == n
  | ts => ts.all (Term.truth d q)

/-- The nodes that a predicate keeps. -/
def filterBy (d : Document) (qs : List Place) (ts : List Term) : List Place :=
  ((qs.zipIdx 1).filter fun n => keeps d n.1 n.2 ts).map Prod.fst

def hasName (d : Document) (name : String) (q : Place) : Bool :=
  (d.element? q).any fun e => name == "*" || e.name == name

/-- The child elements that the name of a step is about. -/
def Step.candidates (s : Step) (d : Document) (c : Place) : List Place :=
  (d.childElements c).filter (hasName d s.name)

/-- The child elements of a node that a step selects. -/
def Step.select (s : Step) (d : Document) (c : Place) : List Place :=
  s.predicates.foldl (filterBy d) (s.candidates d c)

/-- The nodes whose children a step looks at. -/
def Axis.contexts (axis : Axis) (d : Document) (nodes : Place → Prop) (c : Place) : Prop :=
  match axis with
  | child => nodes c
  | descendant => ∃ a, nodes a ∧ d.Within a c

/-- The nodes that a step leads to. -/
def advance (d : Document) (nodes : Place → Prop) (s : Axis × Step) (q : Place) : Prop :=
  ∃ c, s.1.contexts d nodes c ∧ q ∈ s.2.select d c

def Anchor.axis : Anchor → Axis
  | top => .child
  | anywhere | inside => .descendant

/-- Whether a place is in the node-set of a path, from the root of the document. -/
def Path.Selects (p : Path) (d : Document) : Place → Prop :=
  ((p.anchor.axis, p.first) :: p.rest).foldl (advance d) (· = [])

/-! ## What the predicates of a step keep -/

/-- The number that a predicate consists of. -/
def number? : List Term → Option Nat
  | [.position n] => some n
  | _ => none

/-- The positions that stand alone in a predicate. -/
def numbers (ps : List (List Term)) : List Nat := ps.filterMap number?

/-- Whether a list of nodes has a node where these numbers, one after the other, ask for it. After
the first of them one node is left. -/
def placedBy (qs : List Place) (q : Place) : List Nat → Prop
  | [] => q ∈ qs
  | n :: rest => qs[n - 1]? = some q ∧ ∀ m ∈ rest, m = 1

section Predicates

variable {d : Document} {q : Place} {qs : List Place} {ts : List Term} {ps : List (List Term)}

theorem accepted_of_mem {filtered : Bool} {t : Term} (h : accepted filtered ts = true)
    (ht : t ∈ ts) : t.isTest = true ∨ ∃ n, t = .position n ∧ n ≠ 0 ∧ filtered = false := by
  induction ts generalizing filtered with
  | nil => cases ht
  | cons u ts ih =>
    rw [accepted, Bool.and_eq_true] at h
    rcases List.mem_cons.1 ht with rfl | ht
    · cases t with
      | position n =>
        have own := h.1
        simp only [Term.accepted, Bool.and_eq_true, Bool.not_eq_true', bne_iff_ne] at own
        exact .inr ⟨n, rfl, own.1.2, own.1.1⟩
      | has => exact .inl rfl
      | equals => exact .inl rfl
      | contains => exact .inl rfl
    · rcases ih h.2 ht with test | ⟨n, hn, h0, hf⟩
      · exact .inl test
      · exact .inr ⟨n, hn, h0, (Bool.or_eq_false_iff.1 hf).1⟩

theorem number?_eq_some {n : Nat} (h : number? ts = some n) : ts = [.position n] := by
  unfold number? at h
  split at h
  · cases h
    rfl
  · cases h

theorem numbers_ne_zero {filtered : Bool} (h : accepted filtered ps.flatten = true) {n : Nat}
    (hn : n ∈ numbers ps) : n ≠ 0 ∧ filtered = false := by
  obtain ⟨ts, hts, hn⟩ := List.mem_filterMap.1 hn
  have ht : Term.position n ∈ ps.flatten :=
    List.mem_flatten.2 ⟨ts, hts, by rw [number?_eq_some hn]; exact List.mem_cons_self⟩
  rcases accepted_of_mem h ht with test | ⟨m, hm, h0, hf⟩
  · cases test
  · cases hm
    exact ⟨h0, hf⟩

/-- A number keeps at most one node. -/
theorem filterBy_number {n : Nat} (hn : n ≠ 0) (qs : List Place) :
    filterBy d qs [.position n] = (qs[n - 1]?).toList := by
  have general : ∀ (qs : List Place) (k : Nat),
      ((qs.zipIdx k).filter fun x => x.2 == n).map Prod.fst =
        if k ≤ n then (qs[n - k]?).toList else [] := by
    intro qs
    induction qs with
    | nil => intro k; simp
    | cons q qs ih =>
      intro k
      rw [List.zipIdx_cons, List.filter_cons]
      rcases Nat.lt_trichotomy k n with hlt | rfl | hgt
      · obtain ⟨m, hm⟩ : ∃ m, n - k = m + 1 := ⟨n - k - 1, by omega⟩
        have next : n - (k + 1) = m := by omega
        rw [if_neg (by simp; omega), ih, if_pos (by omega), if_pos (by omega), hm, next]
        rfl
      · rw [if_pos (by simp), List.map_cons, ih, if_neg (by omega), if_pos (Nat.le_refl _),
          Nat.sub_self]
        rfl
      · rw [if_neg (by simp; omega), ih, if_neg (by omega), if_neg (by omega)]
  have one := general qs 1
  rwa [if_pos (Nat.one_le_iff_ne_zero.2 hn)] at one

/-- A predicate that is no number looks at each node on its own. -/
theorem filterBy_terms (h : number? ts = none) (qs : List Place) :
    filterBy d qs ts = qs.filter fun q => ts.all (Term.truth d q) := by
  have alone : ∀ q k, keeps d q k ts = ts.all (Term.truth d q) := by
    intro q k
    unfold keeps
    split
    · cases h
    · rfl
  simp only [filterBy, alone]
  have whole := List.filter_map (f := Prod.fst (β := Nat)) (p := fun q => ts.all (Term.truth d q))
    (l := qs.zipIdx 1)
  rw [List.zipIdx_map_fst] at whole
  exact whole.symm

/-- The terms of a predicate are all true if its tests are. -/
theorem all_truth_iff {filtered : Bool} (h : accepted filtered ts = true) :
    ts.all (Term.truth d q) = true ↔ ∀ t ∈ ts, t.isTest = true → t.truth d q = true := by
  rw [List.all_eq_true]
  constructor
  · exact fun all t ht _ => all t ht
  · intro tests t ht
    rcases accepted_of_mem h ht with test | ⟨n, rfl, h0, _⟩
    · exact tests t ht test
    · simpa [Term.truth] using h0

/-- Numbers behind a number. -/
theorem placedBy_toList {n : Nat} {ms : List Nat} (hm : ∀ m ∈ ms, m ≠ 0) :
    placedBy (qs[n - 1]?).toList q ms ↔ placedBy qs q (n :: ms) := by
  cases ms with
  | nil => simp [placedBy]
  | cons m rest =>
    have h0 := hm m List.mem_cons_self
    simp only [placedBy, List.forall_mem_cons]
    rw [← and_assoc]
    refine and_congr_left fun _ => ?_
    cases qs[n - 1]? with
    | none => simp
    | some y =>
      have first : m - 1 = 0 ↔ m = 1 := by omega
      rw [Option.toList_some, List.getElem?_singleton]
      constructor
      · intro h
        split at h
        · rename_i hm
          exact ⟨h, first.1 hm⟩
        · cases h
      · rintro ⟨h, rfl⟩
        rwa [if_pos rfl]

/-- What is left after all predicates: the node that the numbers ask for, if the tests hold. -/
theorem mem_foldl_filterBy {filtered : Bool} (h : accepted filtered ps.flatten = true) :
    q ∈ ps.foldl (filterBy d) qs ↔
      placedBy qs q (numbers ps) ∧ ∀ t ∈ ps.flatten, t.isTest = true → t.truth d q = true := by
  induction ps generalizing qs filtered with
  | nil => simp [numbers, placedBy]
  | cons ts ps ih =>
    rw [List.flatten_cons, accepted_append, Bool.and_eq_true] at h
    obtain ⟨hts, hps⟩ := h
    rw [List.foldl_cons, ih hps, List.flatten_cons]
    cases hn : number? ts with
    | some n =>
      have counted : numbers (ts :: ps) = n :: numbers ps := List.filterMap_cons_some hn
      have h0 : n ≠ 0 := by
        have own : n ∈ numbers [ts] := by simp [numbers, hn]
        exact (numbers_ne_zero (by simpa using hts) own).1
      obtain rfl := number?_eq_some hn
      rw [counted, filterBy_number h0,
        placedBy_toList fun m hm => (numbers_ne_zero hps hm).1]
      refine and_congr_right fun _ => ?_
      simp [Term.isTest]
    | none =>
      have counted : numbers (ts :: ps) = numbers ps := List.filterMap_cons_none hn
      have tests := all_truth_iff (d := d) (q := q) hts
      rw [counted, filterBy_terms hn, List.forall_mem_append, ← tests]
      by_cases hany : ts.any Term.isTest = true
      · -- behind a test there is no number
        have none : numbers ps = [] := by
          refine List.eq_nil_iff_forall_not_mem.2 fun m hm => ?_
          have late := (numbers_ne_zero hps hm).2
          rw [hany, Bool.or_true] at late
          cases late
        rw [none, placedBy, placedBy, List.mem_filter, and_assoc]
      · -- without a test the predicate keeps everything
        have kept : ∀ q, ts.all (Term.truth d q) = true := by
          intro q
          refine (all_truth_iff hts).2 fun t ht test => ?_
          exact absurd (List.any_eq_true.2 ⟨t, ht, test⟩) hany
        have whole : (qs.filter fun q => ts.all (Term.truth d q)) = qs :=
          List.filter_eq_self.2 fun q _ => kept q
        rw [whole, kept]
        simp

end Predicates

/-! ## Places among the candidates -/

section Candidates

variable {d : Document} {s : Step} {c : Place} {i : Nat}

/-- How many child elements of the step's name stand in front of the element at a place. -/
def Step.before (s : Step) (d : Document) (q : Place) : Nat :=
  ((d.siblingsBefore q).filter (hasName d s.name)).length

theorem hasName_iff {name : String} {q : Place} {e : Element} (h : d.element? q = some e) :
    hasName d name q = true ↔ name = "*" ∨ e.name = name := by
  rw [hasName, h]
  simp

theorem mem_candidates_iff {q : Place} :
    q ∈ s.candidates d c ↔ (∃ i e, q = i :: c ∧ d.element? q = some e) ∧
      hasName d s.name q = true := by
  rw [Step.candidates, List.mem_filter, Document.mem_childElements_iff]

theorem candidates_getElem?_iff (hc : d.cut = []) (h : i :: c ∈ s.candidates d c) (k : Nat) :
    (s.candidates d c)[k]? = some (i :: c) ↔ s.before d (i :: c) = k := by
  obtain ⟨⟨_, e, hq, he⟩, named⟩ := mem_candidates_iff.1 h
  cases hq
  obtain ⟨after, split⟩ := Document.childElements_split hc he
  have parts : s.candidates d c =
      ((d.siblingsBefore (i :: c)).reverse.filter (hasName d s.name)) ++
        (i :: c) :: after.filter (hasName d s.name) := by
    rw [Step.candidates, split, List.filter_append, List.filter_cons, if_pos named]
  have unique : (s.candidates d c).Nodup :=
    List.filter_sublist.nodup (Document.childElements_nodup d c)
  have length : ((d.siblingsBefore (i :: c)).reverse.filter (hasName d s.name)).length =
      s.before d (i :: c) := by
    rw [List.filter_reverse, List.length_reverse]
    rfl
  have here : (s.candidates d c)[s.before d (i :: c)]? = some (i :: c) := by
    rw [parts, ← length, List.getElem?_append_right (Nat.le_refl _), Nat.sub_self]
    rfl
  constructor
  · intro hk
    obtain ⟨lt, _⟩ := List.getElem?_eq_some_iff.1 here
    exact (List.getElem?_inj lt unique).1 (here.trans hk.symm)
  · rintro rfl
    exact here

/-- Whether these numbers, one after the other, ask for the place. -/
def asksFor (place : Nat) : List Nat → Prop
  | [] => True
  | n :: rest => place = n ∧ ∀ m ∈ rest, m = 1

/-- The child elements of a node that a step selects: its name, its tests and its numbers. -/
theorem mem_select_iff (hc : d.cut = []) (hs : s.accepted = true) {q : Place} :
    q ∈ s.select d c ↔ (∃ i e, q = i :: c ∧ d.element? q = some e) ∧
      hasName d s.name q = true ∧
      (∀ t ∈ s.predicates.flatten, t.isTest = true → t.truth d q = true) ∧
      asksFor (s.before d q + 1) (numbers s.predicates) := by
  rw [Step.select, mem_foldl_filterBy hs]
  have placed : q ∈ s.candidates d c →
      (placedBy (s.candidates d c) q (numbers s.predicates) ↔
        asksFor (s.before d q + 1) (numbers s.predicates)) := by
    intro hq
    obtain ⟨⟨i, e, rfl, _⟩, _⟩ := mem_candidates_iff.1 hq
    have nonzero : ∀ n ∈ numbers s.predicates, n ≠ 0 := fun n hn => (numbers_ne_zero hs hn).1
    cases hn : numbers s.predicates with
    | nil => exact iff_of_true hq trivial
    | cons n rest =>
      rw [hn] at nonzero
      have h0 := nonzero n List.mem_cons_self
      rw [placedBy, asksFor, candidates_getElem?_iff hc hq]
      refine and_congr_left fun _ => ?_
      omega
  constructor
  · rintro ⟨hp, tests⟩
    have hq : q ∈ s.candidates d c := by
      cases hn : numbers s.predicates with
      | nil =>
        rw [hn] at hp
        exact hp
      | cons n rest =>
        rw [hn] at hp
        exact List.mem_of_getElem? hp.1
    obtain ⟨element, named⟩ := mem_candidates_iff.1 hq
    exact ⟨element, named, tests, (placed hq).1 hp⟩
  · rintro ⟨element, named, tests, asked⟩
    have hq := mem_candidates_iff.2 ⟨element, named⟩
    exact ⟨(placed hq).2 asked, tests⟩

end Candidates

end PageHarvest.XPath
