import Mathlib.Data.List.Nodup
import Mathlib.Data.List.Pairwise
import PageHarvest.Schema.Check

/-!
# Rules within rules

The rules of a schema are trees. `Rule.tree` lists a rule with all that are nested in it, and
`Rule.trees` does so for several rules. Where no name stands twice in such a list, a name stands for
one rule and for one place: two rules side by side have no name in common anywhere below them.
-/

namespace PageHarvest.Rule

variable {r q p : Rule} {rs : List Rule}

mutual

/-- What a rule has if its children have it, every rule has. -/
theorem induct {P : Rule → Prop} (step : ∀ r : Rule, (∀ child ∈ r.children, P child) → P r) :
    ∀ r, P r
  | ⟨_, _, _, _, _, _, _, _, _, _, _, children⟩ => step _ (induct_all step children)

theorem induct_all {P : Rule → Prop} (step : ∀ r : Rule, (∀ child ∈ r.children, P child) → P r) :
    ∀ rs : List Rule, ∀ r ∈ rs, P r
  | [] => nofun
  | r :: rest => List.forall_mem_cons.2 ⟨induct step r, induct_all step rest⟩

end

mutual

/-- The rule and all that are nested in it. -/
def tree : Rule → List Rule
  | ⟨id, name, kind, selector, xpath, attributeName, regex, transform, multiple, optional,
      fallbackSelector, children⟩ =>
    ⟨id, name, kind, selector, xpath, attributeName, regex, transform, multiple, optional,
      fallbackSelector, children⟩ :: trees children

def trees : List Rule → List Rule
  | [] => []
  | r :: rest => r.tree ++ trees rest

end

theorem tree_eq (r : Rule) : r.tree = r :: trees r.children := by
  cases r
  rw [tree]

theorem trees_eq (rs : List Rule) : trees rs = rs.flatMap tree := by
  induction rs with
  | nil => rfl
  | cons r rest ih => rw [trees, ih, List.flatMap_cons]

theorem mem_tree : q ∈ r.tree ↔ q = r ∨ q ∈ trees r.children := by rw [tree_eq, List.mem_cons]

theorem mem_trees : q ∈ trees rs ↔ ∃ r ∈ rs, q ∈ r.tree := by rw [trees_eq, List.mem_flatMap]

theorem mem_tree_self (r : Rule) : r ∈ r.tree := mem_tree.2 (.inl rfl)

theorem mem_trees_of_mem (h : r ∈ rs) : r ∈ trees rs := mem_trees.2 ⟨r, h, r.mem_tree_self⟩

theorem mem_tree_trans (hq : q ∈ r.tree) (hp : p ∈ q.tree) : p ∈ r.tree := by
  induction r using Rule.induct with
  | step r ih =>
    rcases mem_tree.1 hq with rfl | hq
    · exact hp
    · obtain ⟨child, hc, hq⟩ := mem_trees.1 hq
      exact mem_tree.2 (.inr (mem_trees.2 ⟨child, hc, ih child hc hq⟩))

theorem mem_trees_trans (hq : q ∈ trees rs) (hp : p ∈ q.tree) : p ∈ trees rs := by
  obtain ⟨r, hr, hq⟩ := mem_trees.1 hq
  exact mem_trees.2 ⟨r, hr, mem_tree_trans hq hp⟩

theorem mem_trees_of_child (hr : r ∈ trees rs) {child : Rule} (hc : child ∈ r.children) :
    child ∈ trees rs :=
  mem_trees_trans hr (mem_tree.2 (.inr (mem_trees_of_mem hc)))

/-! ## Names that stand once -/

/-- No name stands twice among the rules and those nested in them. -/
def DistinctNames (rs : List Rule) : Prop := ((trees rs).map name).Nodup

namespace DistinctNames

theorem eq_of_name (h : DistinctNames rs) (hq : q ∈ trees rs) (hp : p ∈ trees rs)
    (same : q.name = p.name) : q = p :=
  List.inj_on_of_nodup_map h hq hp same

theorem nodup_names (h : DistinctNames rs) : (rs.map name).Nodup := by
  have sub : rs.Sublist (trees rs) := by
    induction rs with
    | nil => exact List.Sublist.refl _
    | cons r rest ih =>
      rw [DistinctNames, trees_eq, List.flatMap_cons, ← trees_eq, List.map_append] at h
      rw [trees, tree_eq]
      exact ((ih (List.nodup_append.1 h).2.1).trans (List.sublist_append_right _ _)).cons_cons r
  exact List.Nodup.sublist (sub.map name) h

/-- The names of one tree: that of the rule, and those below it. -/
theorem nested (h : DistinctNames rs) (hr : r ∈ rs) :
    r.name ∉ (trees r.children).map name ∧ DistinctNames r.children := by
  rw [DistinctNames, trees_eq, List.map_flatMap] at h
  have one := (List.nodup_flatMap.1 h).1 r hr
  rw [tree_eq, List.map_cons] at one
  exact List.nodup_cons.1 one

theorem name_ne (h : DistinctNames rs) (hr : r ∈ rs) (hq : q ∈ trees r.children) :
    q.name ≠ r.name := by
  intro same
  exact (h.nested hr).1 (same ▸ List.mem_map_of_mem hq)

/-- Of two rules side by side, only one has a name in its tree. -/
theorem eq_of_tree (h : DistinctNames rs) {r' : Rule} (hr : r ∈ rs) (hr' : r' ∈ rs)
    (hq : q ∈ r.tree) (hp : p ∈ r'.tree) (same : q.name = p.name) : r = r' := by
  rw [DistinctNames, trees_eq, List.map_flatMap] at h
  by_contra apart
  have symm : Std.Symm (Function.onFun List.Disjoint fun r : Rule => r.tree.map name) :=
    ⟨fun _ _ d _ ha hb => d hb ha⟩
  have disjoint := (List.nodup_flatMap.1 h).2.forall hr hr' apart
  exact disjoint (List.mem_map_of_mem hq) (same ▸ List.mem_map_of_mem hp)

/-- A rule above one in a tree is in the same tree. -/
theorem above_cases (h : DistinctNames rs) {above : Rule} (hr : r ∈ rs) (hq : q ∈ r.tree)
    (ha : above ∈ trees rs) (below : q ∈ above.tree) :
    above = r ∨ above ∈ trees r.children := by
  obtain ⟨r', hr', ha⟩ := mem_trees.1 ha
  have same : r' = r := h.eq_of_tree hr' hr (mem_tree_trans ha below) hq rfl
  exact mem_tree.1 (same ▸ ha)

/-- No rule stands above one on top. -/
theorem eq_of_above (h : DistinctNames rs) {above : Rule} (hr : r ∈ rs) (ha : above ∈ trees rs)
    (below : r ∈ above.tree) : above = r := by
  rcases h.above_cases hr r.mem_tree_self ha below with same | nested
  · exact same
  · exact absurd rfl (h.name_ne hr (mem_trees_trans nested below))

end DistinctNames

/-- All names, down to the innermost rules, are as the check wants them. -/
def UsualNames (rs : List Rule) : Prop := ∀ r ∈ trees rs, isUsualName r.name = true

end PageHarvest.Rule
