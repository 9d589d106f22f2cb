import PageHarvest.Extraction.Refine

/-!
# What refining changes

Refining by a pattern and a transform changes texts, a text by itself and the texts in a list, and
leaves all else as it is. Only a pattern that is none leaves nothing of what was read.

* `Rule.refine_eq_mapTexts`, `Rule.refine_of_drops`: refining in the two cases;
* `Rule.refine_texts`: what becomes of a text, of a list and of any other value.
-/

namespace PageHarvest.Rule

variable {r : Rule} {f : String → String} {v : Json} {items : List Json}

/-! ## Changing texts -/

theorem mapTexts_of_other (noText : ∀ s, v ≠ .str s) (noList : ∀ items, v ≠ .arr items) :
    mapTexts f v = v := by
  cases v with
  | str s => exact absurd rfl (noText s)
  | arr items => exact absurd rfl (noList items)
  | _ => rfl

/-- A list and what it becomes when its texts are changed and nothing else. -/
structure ChangesTexts (change : String → String) (items items' : List Json) : Prop where
  length : items'.length = items.length
  text : ∀ (i : Nat) (s : String), items[i]? = some (.str s) →
    items'[i]? = some (.str (change s))
  other : ∀ (i : Nat) (item : Json), items[i]? = some item → (∀ s, item ≠ .str s) →
    items'[i]? = some item

theorem exists_mapTexts_arr (f : String → String) (items : List Json) :
    ∃ items', mapTexts f (.arr items) = .arr items' ∧ ChangesTexts f items items' := by
  refine ⟨_, rfl, ?length, ?text, ?other⟩
  case length => exact List.length_map ..
  case text =>
    intro i s hi
    rw [List.getElem?_map, hi, Option.map_some]
  case other =>
    intro i item hi noText
    rw [List.getElem?_map, hi, Option.map_some]
    cases item with
    | str s => exact absurd rfl (noText s)
    | _ => rfl

theorem mapTexts_id (v : Json) : mapTexts (fun s => s) v = v := by
  cases v with
  | arr items =>
    refine congrArg Json.arr ((List.map_congr_left fun item _ => ?_).trans (List.map_id items))
    cases item <;> rfl
  | _ => rfl

/-! ## Refining -/

/-- Whether a rule would refine texts by a pattern that is none. -/
def Drops (r : Rule) : Prop :=
  r.kind ≠ .screenshot ∧ ∃ pattern, r.regex = some pattern ∧ Regex.ofPattern? pattern = none

theorem refine_of_drops (drops : r.Drops) (v : Json) : r.refine v = .null := by
  obtain ⟨kind, pattern, regex, none⟩ := drops
  have refines : r.refines = true := by
    rw [Rule.refines, regex]
    simpa using kind
  rw [refine, refines, if_neg (by decide), regex]
  simp only [none]

theorem refine_eq_mapTexts (keeps : ¬ r.Drops) :
    ∃ change, ∀ v, r.refine v = mapTexts change v := by
  by_cases refines : r.refines = true
  · cases regex : r.regex with
    | none =>
      refine ⟨refineText none r.transform, fun v => ?_⟩
      rw [refine, refines, if_neg (by decide), regex]
    | some pattern =>
      have kind : r.kind ≠ .screenshot := by
        rintro picture
        rw [Rule.refines, picture] at refines
        exact absurd refines (by simp)
      cases compiled : Regex.ofPattern? pattern with
      | none => exact absurd ⟨kind, pattern, regex, compiled⟩ keeps
      | some p =>
        refine ⟨refineText (some p) r.transform, fun v => ?_⟩
        rw [refine, refines, if_neg (by decide), regex]
        simp only [compiled]
  · refine ⟨fun s => s, fun v => ?_⟩
    rw [refine, Bool.eq_false_iff.2 refines, if_pos (by decide), mapTexts_id]

/-- Unless a rule drops texts, it changes them and nothing else: each text by itself and each text
in a list to the same, while a list keeps its length and its other items. A rule that drops texts
leaves null of a text, and of a list with a text in it. -/
theorem refine_texts (r : Rule) :
    (¬ r.Drops → ∃ change : String → String,
      (∀ s, r.refine (.str s) = .str (change s)) ∧
      (∀ v, (∀ s, v ≠ .str s) → (∀ items, v ≠ .arr items) → r.refine v = v) ∧
      ∀ items, ∃ items', r.refine (.arr items) = .arr items' ∧ ChangesTexts change items items') ∧
    (r.Drops →
      (∀ s, r.refine (.str s) = .null) ∧
      ∀ items s, .str s ∈ items → r.refine (.arr items) = .null) := by
  constructor
  · intro keeps
    obtain ⟨change, refined⟩ := refine_eq_mapTexts keeps
    refine ⟨change, fun s => refined (.str s), fun v noText noList => ?_, fun items => ?_⟩
    · rw [refined v, mapTexts_of_other noText noList]
    · rw [refined (.arr items)]
      exact exists_mapTexts_arr change items
  · intro drops
    exact ⟨fun s => refine_of_drops drops (.str s), fun items _ _ => refine_of_drops drops _⟩

/-- A list with a text and a number, by a rule with a transform. -/
theorem refine_texts_mixed :
    let r : Rule := { ofKind "n" .text with transform := some .uppercase }
    ¬ r.Drops ∧ ∃ text, r.refine (.arr [.str "a", .int 3]) = .arr [.str text, .int 3] := by
  intro r
  have keeps : ¬ r.Drops := by
    rintro ⟨-, pattern, regex, -⟩
    cases regex
  obtain ⟨change, -, -, lists⟩ := (refine_texts r).1 keeps
  obtain ⟨items', refined, changed⟩ := lists [.str "a", .int 3]
  have text := changed.text 0 "a" rfl
  have number := changed.other 1 (.int 3) rfl (fun s => Json.noConfusion)
  refine ⟨keeps, change "a", refined.trans (congrArg Json.arr ?_)⟩
  match items', changed.length with
  | [_, _], _ =>
    cases text
    cases number
    rfl

/-- The same list by a rule with a group that is not closed. -/
theorem refine_texts_unclosed :
    let r : Rule := { ofKind "n" .text with regex := some "(unclosed" }
    r.refine (.arr [.str "a", .int 3]) = .null := by
  intro r
  refine refine_of_drops ⟨by decide, "(unclosed", rfl, ?_⟩ _
  decide +kernel

end PageHarvest.Rule
