import PageHarvest.Json.Access
import PageHarvest.Proofs.Data.Entries

/-!
# Values with every key once

A value that was read has every key of an object once. Merging repeated keys makes a value well
formed, and changes nothing in one that is.
-/

namespace PageHarvest.Json

mutual

/-- Whether every object in a value has each of its keys once. -/
def WellFormed : Json → Prop
  | .null | .bool _ | .num _ | .str _ => True
  | .arr items => ItemsWellFormed items
  | .obj entries => (Entries.keys entries).Nodup ∧ EntriesWellFormed entries

def ItemsWellFormed : List Json → Prop
  | [] => True
  | a :: rest => a.WellFormed ∧ ItemsWellFormed rest

def EntriesWellFormed : List (String × Json) → Prop
  | [] => True
  | (_, a) :: rest => a.WellFormed ∧ EntriesWellFormed rest

end

variable {items : List Json} {entries : Entries Json} {s : String}

@[simp]
theorem wellFormed_null : WellFormed .null := trivial

@[simp]
theorem wellFormed_str : (Json.str s).WellFormed := trivial

@[simp]
theorem wellFormed_int (n : Int) : (Json.int n).WellFormed := trivial

@[simp]
theorem wellFormed_arr : (Json.arr items).WellFormed ↔ ∀ a ∈ items, a.WellFormed := by
  show ItemsWellFormed items ↔ _
  induction items with
  | nil => simp [ItemsWellFormed]
  | cons a rest ih => simp [ItemsWellFormed, ih]

@[simp]
theorem wellFormed_ofOption {α : Type} {f : α → Json} {value : Option α} :
    (ofOption f value).WellFormed ↔ ∀ a, value = some a → (f a).WellFormed := by
  cases value with
  | none => exact ⟨fun _ => nofun, fun _ => trivial⟩
  | some a => exact ⟨by rintro wf _ ⟨⟩; exact wf, fun wf => wf a rfl⟩

theorem entriesWellFormed_iff : EntriesWellFormed entries ↔ ∀ e ∈ entries, e.2.WellFormed := by
  induction entries with
  | nil => simp [EntriesWellFormed]
  | cons e rest ih => simp [EntriesWellFormed, ih]

theorem wellFormed_obj :
    (Json.obj entries).WellFormed ↔ entries.keys.Nodup ∧ ∀ e ∈ entries, e.2.WellFormed := by
  rw [← entriesWellFormed_iff]
  rfl

/-! ## Merging -/

theorem collapse_eq_null {j : Json} : j.collapse = .null ↔ j = .null := by
  cases j <;> simp [collapse]

theorem collapseEntries_eq (entries : Entries Json) :
    collapseEntries entries = entries.map fun e => (e.1, e.2.collapse) := by
  induction entries with
  | nil => rfl
  | cons e rest ih => rw [collapseEntries, ih, List.map_cons]

mutual

theorem collapse_of_wellFormed {j : Json} (wf : j.WellFormed) : j.collapse = j := by
  cases j with
  | null | bool | num | str => rfl
  | arr items => rw [collapse, collapseItems_of_wellFormed wf]
  | obj entries =>
    obtain ⟨distinct, values⟩ := wf
    rw [collapse, collapseEntries_of_wellFormed values, Entries.ofList_of_nodup distinct]

theorem collapseItems_of_wellFormed {items : List Json} (wf : ItemsWellFormed items) :
    collapseItems items = items := by
  cases items with
  | nil => rfl
  | cons a rest =>
    rw [collapseItems, collapse_of_wellFormed wf.1, collapseItems_of_wellFormed wf.2]

theorem collapseEntries_of_wellFormed {entries : Entries Json} (wf : EntriesWellFormed entries) :
    collapseEntries entries = entries := by
  cases entries with
  | nil => rfl
  | cons e rest =>
    obtain ⟨k, a⟩ := e
    rw [collapseEntries, collapse_of_wellFormed wf.1, collapseEntries_of_wellFormed wf.2]

end

mutual

theorem wellFormed_collapse (j : Json) : j.collapse.WellFormed := by
  cases j with
  | null | bool | num | str => trivial
  | arr items => exact wellFormed_collapseItems items
  | obj entries =>
    have values := entriesWellFormed_iff.1 (wellFormed_collapseEntries entries)
    refine wellFormed_obj.2 ⟨Entries.nodup_keys_ofList _, fun e he => ?_⟩
    exact values e (Entries.mem_of_mem_ofList he)

theorem wellFormed_collapseItems (items : List Json) :
    ItemsWellFormed (collapseItems items) := by
  cases items with
  | nil => trivial
  | cons a rest => exact ⟨wellFormed_collapse a, wellFormed_collapseItems rest⟩

theorem wellFormed_collapseEntries (entries : Entries Json) :
    EntriesWellFormed (collapseEntries entries) := by
  cases entries with
  | nil => trivial
  | cons e rest => exact ⟨wellFormed_collapse e.2, wellFormed_collapseEntries rest⟩

end

/-! ## Texts and optional values -/

theorem text?_eq_some {j : Json} : j.text? = some s ↔ j = .str s := by
  cases j <;> simp [text?]

/-- A value that is there and not null. -/
def present? : Option Json → Option Json
  | some .null => none
  | v => v

theorem present?_eq_self {v : Option Json} : present? v = v ↔ v ≠ some .null := by
  match v with
  | none => simp [present?]
  | some .null => simp [present?]
  | some (.bool _) | some (.num _) | some (.str _) | some (.arr _) | some (.obj _) =>
    simp [present?]

theorem present?_of_ne {v : Json} (ne : v ≠ .null) : present? (some v) = some v :=
  present?_eq_self.2 fun null => ne (Option.some.inj null)

end PageHarvest.Json
