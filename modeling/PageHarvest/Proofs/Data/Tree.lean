import Mathlib.Data.List.Nodup
import PageHarvest.Data.Tree
import PageHarvest.Proofs.Fallible
import PageHarvest.Proofs.Json.WellFormed

/-!
# Trees of values, and fields read from them

The tree of a value denotes the value again, and the fields of its records are those of its objects.
What is read from a tree is well formed.

* `Tree.value?_ofJson`, `Tree.wellFormed_of_value?`: values read from trees;
* `Tree.get?_ofEntries`, `Tree.record?_ofEntries`: the fields of an object;
* `Tree.Hereditary`: what holds of the fields of a record because it holds of the tree.
-/

namespace PageHarvest

/-! ## Natural numbers up to a limit -/

theorem Number.nat?_le {limit m : Nat} {n : Number} (read : n.nat? limit = some m) : m ≤ limit := by
  unfold Number.nat? at read
  split at read
  · split at read
    · rename_i within
      cases read
      omega
    · cases read
  · cases read

theorem Plain.nat?_le {limit n : Nat} {s : String} (read : Plain.nat? limit s = some n) :
    n ≤ limit := by
  unfold Plain.nat? at read
  split at read
  · cases read
  · exact of_decide_eq_true (Option.filter_eq_some_iff.1 read).2

theorem Number.nat?_int {limit n : Nat} (le : n ≤ limit) : (Number.int n).nat? limit = some n := by
  rw [Number.nat?, if_pos ⟨Int.natCast_nonneg n, Int.ofNat_le.2 le⟩, Int.toNat_natCast]

namespace Tree

variable {entries : Entries Json} {fields : List String} {name tag : String}

/-! ## Values -/

theorem ofItems_eq (items : List Json) : ofItems items = items.map ofJson := by
  induction items with
  | nil => rfl
  | cons j rest ih => rw [ofItems, ih, List.map_cons]

theorem ofEntries_eq (entries : Entries Json) :
    ofEntries entries = entries.map fun e => (e.1, ofJson e.2) := by
  induction entries with
  | nil => rfl
  | cons e rest ih => rw [ofEntries, ih, List.map_cons]

mutual

theorem toJson?_ofJson (j : Json) : (ofJson j).toJson? = some j := by
  cases j with
  | null | bool | num | str => rfl
  | arr items => rw [ofJson, toJson?, itemsToJson?_ofItems]; rfl
  | obj entries => rw [ofJson, toJson?, entriesToJson?_ofEntries]; rfl

theorem itemsToJson?_ofItems (items : List Json) :
    itemsToJson? (ofItems items) = some items := by
  cases items with
  | nil => rfl
  | cons j rest =>
    rw [ofItems, itemsToJson?, toJson?_ofJson, itemsToJson?_ofItems]
    rfl

theorem entriesToJson?_ofEntries (entries : Entries Json) :
    entriesToJson? (ofEntries entries) = some entries := by
  cases entries with
  | nil => rfl
  | cons e rest =>
    rw [ofEntries, entriesToJson?, toJson?_ofJson, entriesToJson?_ofEntries]
    rfl

end

theorem value?_eq_collapse (j : Json) : (ofJson j).value? = some j.collapse := by
  rw [value?, toJson?_ofJson, Option.map_some]

theorem value?_ofJson {j : Json} (wf : j.WellFormed) : (ofJson j).value? = some j := by
  rw [value?_eq_collapse, Json.collapse_of_wellFormed wf]

theorem wellFormed_of_value? {t : Tree} {j : Json} (read : t.value? = some j) : j.WellFormed := by
  obtain ⟨j', _, rfl⟩ := Option.map_eq_some_iff.1 read
  exact Json.wellFormed_collapse j'

theorem text?_ofJson (j : Json) : (ofJson j).text? = j.text? := by
  cases j <;> rfl

theorem nat?_le {limit n : Nat} {t : Tree} (read : t.nat? limit = some n) : n ≤ limit := by
  unfold nat? at read
  split at read
  · exact Number.nat?_le read
  · exact Plain.nat?_le read
  · cases read

theorem isNull_ofJson {j : Json} : (ofJson j).isNull = true ↔ j = .null := by
  cases j <;> simp [ofJson, isNull]

/-! ## Fields -/

theorem get?_ofEntries (name : String) (entries : Entries Json) :
    Entries.get? name (ofEntries entries) = (entries.get? name).map ofJson := by
  rw [ofEntries_eq, Entries.get?_map]

theorem keys_ofEntries (entries : Entries Json) :
    Entries.keys (ofEntries entries) = entries.keys := by
  rw [ofEntries_eq, Entries.keys, List.map_map]
  rfl

theorem noneRepeated_ofEntries :
    noneRepeated fields (ofEntries entries) = true ↔
      ∀ f ∈ fields, (entries.filter fun e => e.1 == f).length ≤ 1 := by
  rw [noneRepeated, List.all_eq_true]
  refine forall₂_congr fun f _ => ?_
  rw [decide_eq_true_iff, ofEntries_eq, Entries.length_filter_map]

theorem noneRepeated_of_nodup {es : Entries Tree} (distinct : es.keys.Nodup)
    (fields : List String) : noneRepeated fields es = true := by
  refine List.all_eq_true.2 fun f _ => decide_eq_true ?_
  have once : es.keys.count f ≤ 1 := List.nodup_iff_count_le_one.1 distinct f
  rwa [Entries.keys, List.count, List.countP_map, List.countP_eq_length_filter] at once

theorem record?_ofJson (distinct : entries.keys.Nodup) (fields : List String) :
    (ofJson (.obj entries)).record? fields = some (ofEntries entries) := by
  rw [ofJson, record?, if_pos (noneRepeated_of_nodup (keys_ofEntries entries ▸ distinct) fields)]

theorem taggedRecord?_ofJson (distinct : entries.keys.Nodup) (tag : String)
    (fields : List String) :
    (ofJson (.obj entries)).taggedRecord? tag fields = some (ofEntries entries) :=
  record?_ofJson distinct (tag :: fields)

/-! ### Single fields -/

section fields

variable {α : Type} {read : Tree → Option α} {es : Entries Tree} {a default : α} {v : Json}

theorem required?_ofEntries (found : entries.get? name = some v) :
    required? read name (ofEntries entries) = read (ofJson v) := by
  rw [required?, get?_ofEntries, found]
  rfl

theorem orDefault?_ofEntries (found : entries.get? name = some v) :
    orDefault? read default name (ofEntries entries) = read (ofJson v) := by
  rw [orDefault?, get?_ofEntries, found]
  rfl

theorem optional?_absent (absent : entries.get? name = none) :
    optional? read name (ofEntries entries) = some none := by
  rw [optional?, get?_ofEntries, absent]
  rfl

theorem optional?_null (found : entries.get? name = some .null) :
    optional? read name (ofEntries entries) = some none := by
  rw [optional?, get?_ofEntries, found]
  rfl

theorem optional?_present (found : entries.get? name = some v) (present : v ≠ .null) :
    optional? read name (ofEntries entries) = (read (ofJson v)).map some := by
  rw [optional?, get?_ofEntries, found, Option.map_some]
  exact if_neg fun null => present (isNull_ofJson.1 null)

theorem optional?_value (found : entries.get? name = some v) (wf : v.WellFormed) :
    optional? value? name (ofEntries entries) = some (Json.present? (some v)) := by
  by_cases null : v = .null
  · subst null
    exact optional?_null found
  · rw [optional?_present found null, value?_ofJson wf, Json.present?_of_ne null]
    rfl

theorem optional?_ofOption_value {value : Option Json}
    (found : entries.get? name = some (Json.ofOption (fun v => v) value))
    (wf : ∀ v, value = some v → v.WellFormed) :
    optional? value? name (ofEntries entries) = some (Json.present? value) := by
  cases value with
  | none => exact optional?_null found
  | some v => exact optional?_value found (wf v rfl)

theorem optional?_ofOption {f : α → Json} {value : Option α}
    (found : entries.get? name = some (Json.ofOption f value)) (present : ∀ a, f a ≠ .null)
    (reads : ∀ a, value = some a → read (ofJson (f a)) = some a) :
    optional? read name (ofEntries entries) = some value := by
  cases value with
  | none => exact optional?_null found
  | some a =>
    have read_some : read (ofJson (Json.ofOption f (some a))) = some a := reads a rfl
    rw [optional?_present found (present a), read_some]
    rfl

theorem of_required? (h : required? read name es = some a) :
    ∃ t, (name, t) ∈ es ∧ read t = some a := by
  obtain ⟨t, found, h⟩ := Option.bind_eq_some_iff.1 h
  exact ⟨t, Entries.mem_of_get? found, h⟩

theorem of_optional? (h : optional? read name es = some (some a)) :
    ∃ t, (name, t) ∈ es ∧ t.isNull = false ∧ read t = some a := by
  unfold optional? at h
  split at h
  · cases h
  · rename_i t found
    split at h
    · cases h
    · rename_i present
      obtain ⟨a', h, ⟨⟩⟩ := Option.map_eq_some_iff.1 h
      exact ⟨t, Entries.mem_of_get? found, Bool.eq_false_iff.2 present, h⟩

theorem of_orDefault? (h : orDefault? read default name es = some a) :
    a = default ∨ ∃ t, (name, t) ∈ es ∧ read t = some a := by
  unfold orDefault? at h
  split at h
  · cases h
    exact .inl rfl
  · rename_i t found
    exact .inr ⟨t, Entries.mem_of_get? found, h⟩

theorem wellFormed_of_required? (h : required? value? name es = some v) : v.WellFormed := by
  obtain ⟨_, _, h⟩ := of_required? h
  exact wellFormed_of_value? h

theorem wellFormed_of_optional? {value : Option Json}
    (h : optional? value? name es = some value) : ∀ v, value = some v → v.WellFormed := by
  rintro v rfl
  obtain ⟨_, _, _, h⟩ := of_optional? h
  exact wellFormed_of_value? h

end fields

/-! ## What fields have from the tree -/

/-- A property that goes over from a tree to its parts. -/
structure Hereditary (good : Tree → Prop) : Prop where
  record : ∀ {es : List (String × Tree)}, good (.record es) → ∀ e ∈ es, good e.2
  keyed : ∀ {es : List (Tree × Tree)}, good (.keyed es) → ∀ e ∈ es, good e.2
  list : ∀ {ts : List Tree}, good (.list ts) → ∀ t ∈ ts, good t

theorem hereditary_true : Hereditary fun _ => True :=
  ⟨fun _ _ _ => trivial, fun _ _ _ => trivial, fun _ _ _ => trivial⟩

theorem hereditary_ofJson : Hereditary fun t => ∃ j, t = ofJson j where
  record := by
    rintro es ⟨j, hj⟩ e he
    cases j <;> cases hj
    rw [ofEntries_eq] at he
    obtain ⟨e', _, rfl⟩ := List.mem_map.1 he
    exact ⟨e'.2, rfl⟩
  keyed := by
    rintro es ⟨j, hj⟩
    cases j <;> cases hj
  list := by
    rintro ts ⟨j, hj⟩ t ht
    cases j <;> cases hj
    rw [ofItems_eq] at ht
    obtain ⟨a, _, rfl⟩ := List.mem_map.1 ht
    exact ⟨a, rfl⟩

/-- What is read from values as an optional value is never an explicit null. -/
theorem present?_of_optional? {es : Entries Tree} {value : Option Json}
    (values : ∀ e ∈ es, ∃ j, e.2 = ofJson j) (read : optional? value? name es = some value) :
    Json.present? value = value := by
  cases value with
  | none => rfl
  | some v =>
    obtain ⟨t, field, present, read⟩ := of_optional? read
    obtain ⟨j, rfl⟩ := values _ field
    refine Json.present?_of_ne fun null => ?_
    subst null
    rw [value?_eq_collapse, Option.some.injEq, Json.collapse_eq_null] at read
    rw [isNull_ofJson.2 read] at present
    cases present

namespace Hereditary

variable {good : Tree → Prop} (h : Hereditary good) {t : Tree} {es : Entries Tree}

include h

theorem of_named? {es' : List (Tree × Tree)} (good_keyed : good (.keyed es'))
    (read : named? fields es' = some es) : ∀ e ∈ es, good e.2 := by
  intro e he
  obtain ⟨named, names, ⟨⟩⟩ := Option.bind_eq_some_iff.1 read
  obtain ⟨pair, hpair, he⟩ := List.mem_filterMap.1 he
  obtain ⟨e', he', hpair⟩ := exists_of_mem_mapM names hpair
  obtain ⟨_, _, rfl⟩ := Option.map_eq_some_iff.1 hpair
  obtain ⟨_, _, rfl⟩ := Option.map_eq_some_iff.1 he
  exact h.keyed good_keyed e' he'

theorem of_record? (good_tree : good t) (read : t.record? fields = some es) :
    ∀ e ∈ es, good e.2 := by
  unfold record? at read
  split at read
  · split at read
    · cases read
      exact h.record good_tree
    · cases read
  · exact h.of_named? good_tree (Option.filter_eq_some_iff.1 read).1
  · split at read
    · cases read
      exact fun e he => h.list good_tree e.2 (List.of_mem_zip he).2
    · cases read
  · cases read
    exact nofun
  · cases read

theorem of_taggedRecord? (good_tree : good t) (read : t.taggedRecord? tag fields = some es) :
    ∀ e ∈ es, good e.2 := by
  unfold taggedRecord? at read
  split at read
  · exact h.of_named? good_tree (Option.filter_eq_some_iff.1 read).1
  · exact h.of_record? good_tree read

end Hereditary

end Tree

end PageHarvest
