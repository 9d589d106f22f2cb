import Mathlib.Data.List.Forall2
import PageHarvest.Extraction.Read
import PageHarvest.Page.Site
import PageHarvest.Proofs.Data.Entries
import PageHarvest.Proofs.Page.Registry

/-!
# Tables and forms as records

The first row of a table names the columns of all others. Headers may be blank, equal to each other,
or equal to the name of a column without one, and rows may be shorter and longer than the first one.

A form is one record, with its controls under their names. Radio buttons of one name are one field,
which is on if one of them is, wherever they stand. Of other controls of one name the last one
counts.

* `columnKey`: the key of a cell, which depends on its column and the headers alone;
* `IsRecord`: what a record has of its row; cells of one key leave the last one, and nothing else
  gets lost, moved or added;
* `readTable_records`: a table has such a record for each row after the first one;
* `IsForm`: what the record of a form has of its controls;
* `isForm_record`: one control after the other is added to such a record;
* `readForm_record`: what is read from a form is such a record;
* `readForm_site`: on a site, one of all inputs, selections and text areas in the form.
-/

namespace PageHarvest

open Text

namespace Walker

variable {σ : Type} {w : Walker σ}

/-- The texts of the cells of a row, as the page gives them. -/
def rawCells (w : Walker σ) (row : Handle) : Act σ (List String) := do
  (← w.page.queryAll (some row) (.css "th, td")).mapM w.page.text

/-- The key of the cells in a column: the text of the header without the blanks around it, if there
is one, and otherwise the number of the column. -/
def columnKey (headers : List String) (i : Nat) : String :=
  match headers[i]? with
  | some header => if trim header = "" then "col_" ++ toString i else trim header
  | none => "col_" ++ toString i

/-- Each cell of a row with the key of its column. -/
def keyedCells (key : Nat → String) (cells : List String) : List (String × Json) :=
  cells.zipIdx.map fun c => (key c.2, .str (trim c.1))

/-- What the record of a row is. -/
structure IsRecord (key : Nat → String) (cells : List String) (record : Entries Json) : Prop where
  /-- The keys in the order in which they come first. -/
  keys : record.keys = ((List.range cells.length).map key).eraseDups
  /-- Of the cells with one key, the last one counts. -/
  last : ∀ i cell, cells[i]? = some cell →
    (∀ j, i < j → j < cells.length → key j ≠ key i) → record.get? (key i) = some (.str (trim cell))
  /-- Where no two cells have one key, the record is the cells in order. -/
  whole : ((List.range cells.length).map key).Nodup → record = keyedCells key cells

/-! ## Rows -/

section Rows

variable {key : Nat → String} {headers cells : List String}

theorem keys_keyedCells (key : Nat → String) (cells : List String) :
    (keyedCells key cells).map Prod.fst = (List.range cells.length).map key := by
  rw [keyedCells, List.map_map]
  show cells.zipIdx.map (key ∘ Prod.snd) = _
  rw [← List.map_map, List.zipIdx_map_snd, List.range_eq_range']

theorem getElem?_keyedCells (key : Nat → String) (cells : List String) (i : Nat) :
    (keyedCells key cells)[i]? = (cells[i]?).map fun cell => (key i, .str (trim cell)) := by
  rw [keyedCells, List.getElem?_map, List.getElem?_zipIdx, Option.map_map, Nat.zero_add]
  rfl

theorem isRecord_ofList (key : Nat → String) (cells : List String) :
    IsRecord key cells (Entries.ofList (keyedCells key cells)) where
  keys := by rw [Entries.keys_ofList, keys_keyedCells]
  last i cell here lastOfKey := by
    have entry : (keyedCells key cells)[i]? = some (key i, .str (trim cell)) := by
      rw [getElem?_keyedCells, here, Option.map_some]
    refine Entries.get?_ofList_of_last entry fun j e after there => ?_
    rw [getElem?_keyedCells, Option.map_eq_some_iff] at there
    obtain ⟨other, there, rfl⟩ := there
    exact lastOfKey j after (List.getElem?_eq_some_iff.1 there).1
  whole distinct := Entries.ofList_of_nodup (by rwa [keys_keyedCells])

/-- The key of a cell is the name of its column, or made up like one where the names end. -/
theorem columnNames_getD (headers : List String) (i : Nat) :
    ((columnNames (headers.map trim))[i]?).getD (columnName i) = columnKey headers i := by
  rw [columnNames, columnKey, List.getElem?_map, List.getElem?_zipIdx, List.getElem?_map]
  cases headers[i]? with
  | none => rfl
  | some header => simp only [Option.map_some, Option.getD_some, Nat.zero_add, columnName]

theorem rowRecord_isRecord (headers cells : List String) :
    IsRecord (columnKey headers) cells
      (rowRecord (columnNames (headers.map trim)) (cells.map trim)) := by
  have entries : rowRecord (columnNames (headers.map trim)) (cells.map trim) =
      Entries.ofList (keyedCells (columnKey headers) cells) := by
    rw [rowRecord, keyedCells, List.zipIdx_map, List.map_map]
    simp only [columnNames_getD, Function.comp_def, Prod.map]
    rfl
  rw [entries]
  exact isRecord_ofList _ cells

end Rows

/-! ## Runs -/

section Runs

variable {s s' : σ} {row : Handle} {rows : List Handle} {headers : List String}

theorem cellTexts_runIn_ok {cells : List String}
    (read : (w.rawCells row).runIn s = (.ok cells, s')) :
    (w.cellTexts row).runIn s = (.ok (cells.map trim), s') := by
  obtain ⟨found, s₁, query, texts⟩ := Act.runIn_bind_eq_ok.1 read
  refine (Act.runIn_bind_ok query).trans (Act.runIn_mapM_ok (fun h s text s' run => ?_) texts).2
  exact (Act.runIn_bind_ok run).trans rfl

/-- If the rows of a table and their cells can be read, the table is an array with one record for
each row after the first one, which has the cells of its row under the keys of their columns. -/
theorem readTable_records {table header : Handle} {s₁ s₂ s₃ : σ} {cells : List (List String)}
    (found : (w.page.queryAll (some table) (.css "tr")).runIn s = (.ok (header :: rows), s₁))
    (titles : (w.rawCells header).runIn s₁ = (.ok headers, s₂))
    (read : (rows.mapM w.rawCells).runIn s₂ = (.ok cells, s₃)) :
    ∃ records : List (Entries Json),
      (w.readTable table).runIn s = (.ok (.arr (records.map .obj)), s₃) ∧
      records.length = rows.length ∧
      List.Forall₂ (IsRecord (columnKey headers)) cells records := by
  let record (texts : List String) : Entries Json :=
    rowRecord (columnNames (headers.map trim)) (texts.map trim)
  let readRow (row : Handle) : Act σ Json :=
    return .obj (rowRecord (columnNames (headers.map trim)) (← w.cellTexts row))
  have each (row : Handle) (s : σ) (texts : List String) (s' : σ)
      (read : (w.rawCells row).runIn s = (.ok texts, s')) :
      (readRow row).runIn s = (.ok (.obj (record texts)), s') :=
    (Act.runIn_bind_ok (cellTexts_runIn_ok read)).trans rfl
  obtain ⟨length, all⟩ := Act.runIn_mapM_ok each read
  refine ⟨cells.map record, ?_, by rw [List.length_map, length], ?_⟩
  · rw [readTable, Act.runIn_bind_ok found]
    dsimp only
    rw [Act.runIn_bind_ok (cellTexts_runIn_ok titles), Act.runIn_bind_ok all, List.map_map]
    rfl
  · rw [List.forall₂_map_right_iff, List.forall₂_same]
    exact fun texts _ => rowRecord_isRecord headers texts

end Runs

def ledger : Site where
  sources := []
  url := ⟨"about", none, "a", none, none⟩
  document := .parse
    "<table><tr><th>Name<th> <th>col_1<th>Name<tr><td>a<td>b<td>c<td>d<td>e<tr><td> x </table>"
  registered := [[0, 1, 0]]
  generation := 0
  waited := 0
  isBroken := false

def ledgerWalker : Walker Site := ⟨Site.page, none, {}⟩

/-- A blank header, two of the same text and one that reads like the name of a column, over a row
that is longer and one that is shorter. -/
theorem readTable_records_ledger :
    ∃ records : List (Entries Json),
      ((ledgerWalker.readTable ⟨0, 0⟩).runIn ledger).1 = .ok (.arr (records.map .obj)) ∧
      records.length = 2 ∧
      List.Forall₂ (IsRecord (columnKey ["Name", " ", "col_1", "Name"]))
        [["a", "b", "c", "d", "e"], [" x "]] records := by
  let query : Act Site (List Handle) := ledgerWalker.page.queryAll (some ⟨0, 0⟩) (.css "tr")
  let header : Act Site (List String) := ledgerWalker.rawCells ⟨0, 1⟩
  let rows : Act Site (List (List String)) := [⟨0, 2⟩, ⟨0, 3⟩].mapM ledgerWalker.rawCells
  obtain ⟨found, titles, read⟩ : (query.runIn ledger).1.toOption = some [⟨0, 1⟩, ⟨0, 2⟩, ⟨0, 3⟩] ∧
      (header.runIn (query.runIn ledger).2).1.toOption = some ["Name", " ", "col_1", "Name"] ∧
      (rows.runIn (header.runIn (query.runIn ledger).2).2).1.toOption =
        some [["a", "b", "c", "d", "e"], [" x "]] := by
    decide +kernel
  obtain ⟨records, run, length, rowwise⟩ := readTable_records (Act.runIn_eq_of_ok found)
    (Act.runIn_eq_of_ok titles) (Act.runIn_eq_of_ok read)
  exact ⟨records, congrArg Prod.fst run, length, rowwise⟩

end Walker

/-! ## Forms -/

/-- A control of a form, as a page tells of it. -/
structure FormControl where
  name : Option String := none
  id : Option String := none
  type : Option String := none
  isOn : Bool := false
  value : String := ""
  deriving DecidableEq

namespace FormControl

/-- The name of a control, or the id of one without a name. -/
def key? (c : FormControl) : Option String :=
  (c.name.filter (· ≠ "")).orElse fun _ => c.id.filter (· ≠ "")

def kind (c : FormControl) : String := asciiLower (c.type.getD "")

/-- The key of the field that a control belongs to; buttons belong to none. -/
def field? (c : FormControl) : Option String :=
  if c.kind ∈ ["submit", "button", "reset", "image"] then none else c.key?

/-- What a control holds by itself. -/
def content (c : FormControl) : Json := if c.kind = "checkbox" then .bool c.isOn else .str c.value

/-- The controls that belong to the field of a key. -/
def ofField (key : String) (cs : List FormControl) : List FormControl :=
  cs.filter fun c => c.field? = some key

/-- The fields of a form with one more control. -/
def addTo (fields : Entries Json) (c : FormControl) : Entries Json :=
  match c.field? with
  | none => fields
  | some key =>
    if c.kind = "radio" then
      fields.insert key (.bool (((fields.get? key).bind Json.truth?).getD false || c.isOn))
    else fields.insert key c.content

/-- The fields of a form with the given controls. -/
def record (cs : List FormControl) : Entries Json := cs.foldl addTo []

end FormControl

/-- What the record of a form is. -/
structure IsForm (cs : List FormControl) (fields : Entries Json) : Prop where
  /-- The keys in the order in which they come first. -/
  keys : fields.keys = (cs.filterMap FormControl.field?).eraseDups
  /-- Radio buttons of one key are on together if one of them is. -/
  radios : ∀ key, FormControl.ofField key cs ≠ [] →
    (∀ c ∈ FormControl.ofField key cs, c.kind = "radio") →
    fields.get? key = some (.bool ((FormControl.ofField key cs).any FormControl.isOn))
  /-- Of other controls of one key, the last one counts. -/
  last : ∀ key c, (FormControl.ofField key cs).getLast? = some c →
    (∀ c ∈ FormControl.ofField key cs, c.kind ≠ "radio") → fields.get? key = some c.content

namespace FormControl

variable {cs : List FormControl} {c : FormControl} {key : String}

theorem record_concat (cs : List FormControl) (c : FormControl) :
    record (cs ++ [c]) = addTo (record cs) c := by
  simp [record]

theorem ofField_concat (key : String) (cs : List FormControl) (c : FormControl) :
    ofField key (cs ++ [c]) =
      if c.field? = some key then ofField key cs ++ [c] else ofField key cs := by
  by_cases own : c.field? = some key <;> simp [ofField, own]

/-- A control of another field leaves the value of a key. -/
theorem get?_addTo_of_ne (fields : Entries Json) (other : c.field? ≠ some key) :
    (addTo fields c).get? key = fields.get? key := by
  rw [addTo]
  cases field : c.field? with
  | none => rfl
  | some key' =>
    have ne : key' ≠ key := fun same => other (by rw [field, same])
    dsimp only
    split <;> rw [Entries.get?_insert, if_neg ne]

theorem keys_record (cs : List FormControl) :
    (record cs).keys = (cs.filterMap field?).eraseDups := by
  induction cs using List.reverseRecOn with
  | nil => rfl
  | append_singleton cs c ih =>
    rw [record_concat, addTo, List.filterMap_append]
    cases field : c.field? with
    | none => simp [field, ih]
    | some key =>
      dsimp only
      split <;> simp [field, Entries.keys_insert_eraseDups ih]

/-- The value of a key of radio buttons: whether one has been on so far. -/
theorem get?_record_of_radios (radios : ∀ c ∈ ofField key cs, c.kind = "radio") :
    (record cs).get? key =
      if ofField key cs = [] then none else some (.bool ((ofField key cs).any isOn)) := by
  induction cs using List.reverseRecOn with
  | nil => rfl
  | append_singleton cs c ih =>
    rw [record_concat]
    rw [ofField_concat] at radios ⊢
    by_cases own : c.field? = some key
    · rw [if_pos own] at radios ⊢
      obtain ⟨before, radio⟩ := List.forall_mem_append.1 radios
      have radio : c.kind = "radio" := radio c (List.mem_singleton_self c)
      rw [addTo, own]
      dsimp only
      rw [if_pos radio, Entries.get?_insert, if_pos rfl, ih before]
      by_cases first : ofField key cs = [] <;> simp [first, Json.truth?]
    · rw [if_neg own] at radios ⊢
      rw [get?_addTo_of_ne _ own, ih radios]

/-- The value of a key without radio buttons: what its last control holds. -/
theorem get?_record_of_no_radio (others : ∀ c ∈ ofField key cs, c.kind ≠ "radio") :
    (record cs).get? key = (ofField key cs).getLast?.map content := by
  induction cs using List.reverseRecOn with
  | nil => rfl
  | append_singleton cs c ih =>
    rw [record_concat]
    rw [ofField_concat] at others ⊢
    by_cases own : c.field? = some key
    · rw [if_pos own] at others ⊢
      have other : c.kind ≠ "radio" := others c (by simp)
      rw [addTo, own]
      dsimp only
      rw [if_neg other, Entries.get?_insert, if_pos rfl, List.getLast?_concat, Option.map_some]
    · rw [if_neg own] at others ⊢
      rw [get?_addTo_of_ne _ own, ih others]

theorem isForm_record (cs : List FormControl) : IsForm cs (record cs) where
  keys := keys_record cs
  radios key used radios := by rw [get?_record_of_radios radios, if_neg used]
  last key c last others := by rw [get?_record_of_no_radio others, last, Option.map_some]

end FormControl

namespace Walker

variable {σ : Type} {w : Walker σ}

/-- Asks for the id of a control that has no name. -/
def askId (w : Walker σ) (h : Handle) (c : FormControl) : Act σ FormControl :=
  if c.name.getD "" = "" then return { c with id := ← w.page.attributeOf h "id" } else return c

/-- Asks for the state or the value of a control, whichever its kind has. -/
def askContent (w : Walker σ) (h : Handle) (c : FormControl) : Act σ FormControl :=
  if c.kind = "checkbox" ∨ c.kind = "radio" then
    return { c with isOn := ← w.page.isChecked h }
  else return { c with value := ← w.page.inputValue h }

/-- Asks for what a form keeps of a control, one question after the other. What is not asked for
stays as it is. -/
def askControl (w : Walker σ) (h : Handle) (c : FormControl) : Act σ FormControl := do
  let name ← w.page.attributeOf h "name"
  let c ← w.askId h { c with name }
  if c.key? = none then return c
  let type ← w.page.attributeOf h "type"
  if FormControl.field? { c with type } = none then return { c with type }
  w.askContent h { c with type }

section Runs

variable {s s₁ s₂ : σ} {h : Handle} {c c' : FormControl}

theorem isButton_iff {kind : String} :
    isButton kind = true ↔ kind ∈ ["submit", "button", "reset", "image"] :=
  List.contains_iff_mem

/-- A text that counts as one only if it is not empty. -/
theorem filter_ne_empty (text : Option String) :
    text.filter (· ≠ "") = if text.getD "" = "" then none else some (text.getD "") := by
  cases text <;> simp [Option.filter]

theorem controlName?_runIn_ok
    (named : (w.page.attributeOf h "name").runIn s = (.ok c.name, s₁))
    (asked : (w.askId h c).runIn s₁ = (.ok c', s₂)) :
    (w.controlName? h).runIn s = (.ok c'.key?, s₂) := by
  rw [controlName?, Act.runIn_bind_ok named, FormControl.key?, filter_ne_empty, filter_ne_empty]
  rw [askId] at asked
  by_cases empty : c.name.getD "" = ""
  · rw [if_pos empty] at asked
    obtain ⟨id, s', answered, last⟩ := Act.runIn_bind_eq_ok.1 asked
    cases last
    simp only [empty, ne_eq, not_true_eq_false, if_false, if_true, Option.orElse]
    rw [Act.runIn_bind_ok answered]
    by_cases unnamed : id.getD "" = "" <;> simp [unnamed]
  · rw [if_neg empty] at asked
    cases asked
    simp [empty]

/-- What is asked of the content of a control decides what is added for it. -/
theorem addContent_runIn_ok {key : String} (fields : Entries Json) (field : c.field? = some key)
    (asked : (w.askContent h c).runIn s = (.ok c', s₁)) :
    Act.runIn (if c.kind = "checkbox" then
        return fields.insert key (.bool (← w.page.isChecked h))
      else if c.kind = "radio" then do
        let isOn ← w.page.isChecked h
        let wasOn := ((fields.get? key).bind Json.truth?).getD false
        return fields.insert key (.bool (wasOn || isOn))
      else return fields.insert key (.str (← w.page.inputValue h))) s =
      (.ok (c'.addTo fields), s₁) := by
  rw [askContent] at asked
  by_cases checkbox : c.kind = "checkbox"
  · rw [if_pos (.inl checkbox)] at asked
    obtain ⟨isOn, s₂, state, last⟩ := Act.runIn_bind_eq_ok.1 asked
    cases last
    have kind : FormControl.kind { c with isOn } = "checkbox" := checkbox
    have same : FormControl.field? { c with isOn } = some key := field
    rw [if_pos checkbox, Act.runIn_bind_ok state, FormControl.addTo, same]
    simp [FormControl.content, kind]
  · rw [if_neg checkbox]
    by_cases radio : c.kind = "radio"
    · rw [if_pos (.inr radio)] at asked
      obtain ⟨isOn, s₂, state, last⟩ := Act.runIn_bind_eq_ok.1 asked
      cases last
      have kind : FormControl.kind { c with isOn } = "radio" := radio
      have same : FormControl.field? { c with isOn } = some key := field
      rw [if_pos radio, Act.runIn_bind_ok state, FormControl.addTo, same]
      simp [kind]
    · rw [if_neg (by simp [checkbox, radio])] at asked
      obtain ⟨value, s₂, state, last⟩ := Act.runIn_bind_eq_ok.1 asked
      cases last
      have kind : FormControl.kind { c with value } = c.kind := rfl
      have same : FormControl.field? { c with value } = some key := field
      rw [if_neg radio, Act.runIn_bind_ok state, FormControl.addTo, same]
      simp [FormControl.content, kind, checkbox, radio]

/-- A control is added by the questions that it is asked. -/
theorem addControl_runIn_ok (fields : Entries Json)
    (asked : (w.askControl h c).runIn s = (.ok c', s₁)) :
    (w.addControl fields h).runIn s = (.ok (c'.addTo fields), s₁) := by
  rw [askControl] at asked
  obtain ⟨name, s₂, named, asked⟩ := Act.runIn_bind_eq_ok.1 asked
  obtain ⟨b, s₃, identified, asked⟩ := Act.runIn_bind_eq_ok.1 asked
  rw [addControl, Act.runIn_bind_ok (controlName?_runIn_ok named identified)]
  cases key : b.key? with
  | none =>
    rw [if_pos key] at asked
    cases asked
    simp [FormControl.addTo, FormControl.field?, key]
  | some key' =>
    rw [if_neg (by simp [key])] at asked
    obtain ⟨type, s₄, typed, asked⟩ := Act.runIn_bind_eq_ok.1 asked
    dsimp only
    rw [Act.runIn_bind_ok typed]
    by_cases button : asciiLower (type.getD "") ∈ ["submit", "button", "reset", "image"]
    · have field : FormControl.field? { b with type } = none := if_pos button
      rw [if_pos field] at asked
      cases asked
      rw [if_pos (isButton_iff.2 button), FormControl.addTo, field]
      rfl
    · have field : FormControl.field? { b with type } = some key' := (if_neg button).trans key
      rw [if_neg (by simp [field])] at asked
      rw [if_neg (mt isButton_iff.1 button)]
      have added := addContent_runIn_ok fields field asked
      simp only [FormControl.kind] at added
      exact added

/-- If the controls of a form and what is asked of them can be read, the form is a record of these
controls. -/
theorem readForm_record {form : Handle} {handles : List Handle} {cs : List FormControl}
    (found : (w.page.queryAll (some form) (.css "input, select, textarea")).runIn s =
      (.ok handles, s₁))
    (asked : (handles.mapM fun h => w.askControl h {}).runIn s₁ = (.ok cs, s₂)) :
    ∃ fields : Entries Json, (w.readForm form).runIn s = (.ok (.obj fields), s₂) ∧
      cs.length = handles.length ∧ IsForm cs fields := by
  have each (fields : Entries Json) (h : Handle) (s : σ) (c : FormControl) (s' : σ)
      (run : (w.askControl h {}).runIn s = (.ok c, s')) :
      (w.addControl fields h).runIn s = (.ok (c.addTo fields), s') := addControl_runIn_ok fields run
  have filled : (handles.foldlM w.addControl []).runIn s₁ = (.ok (FormControl.record cs), s₂) :=
    Act.runIn_foldlM_ok each asked []
  refine ⟨FormControl.record cs, ?_, ?_, FormControl.isForm_record cs⟩
  · rw [readForm, Act.runIn_bind_ok found, Act.runIn_bind_ok filled]
    rfl
  · exact (Act.runIn_mapM_ok (each []) asked).1

end Runs

def survey : Site :=
  let node (name : String) (attributes : List (String × String)) (children : List Html.Node) :=
    Html.Node.element 0 .html name (attributes.map fun a => ⟨"", a.1, a.2⟩) children
  let input (attributes : List (String × String)) := node "input" attributes []
  let form := node "form" []
    [input [("type", "radio"), ("name", "size")],
      input [("type", "checkbox"), ("name", "gift"), ("checked", "")],
      input [("type", "RADIO"), ("name", "size"), ("checked", "")],
      node "select" [("id", "color")] [node "option" [] [.text "red"],
        node "option" [("selected", "")] [.text " blue "]],
      input [("type", "radio"), ("name", "ship")],
      input [("type", "submit"), ("name", "go")],
      input [("type", "radio"), ("name", "size")],
      node "textarea" [("name", "gift")] [.text "no"],
      input [("name", ""), ("value", "lost")]]
  { ledger with document := ⟨[form], []⟩, registered := [[0]] }

def surveyControls : List FormControl :=
  [{ name := some "size", type := some "radio" },
    { name := some "gift", type := some "checkbox", isOn := true },
    { name := some "size", type := some "RADIO", isOn := true },
    { id := some "color", value := "blue" },
    { name := some "ship", type := some "radio" },
    { name := some "go", type := some "submit" },
    { name := some "size", type := some "radio" },
    { name := some "gift", value := "no" },
    { name := some "" }]

/-- Two groups of radio buttons with other controls between them, a key with two controls of other
kinds, a button, and a control without a key. -/
theorem readForm_record_survey :
    ∃ fields : Entries Json,
      ((ledgerWalker.readForm ⟨0, 0⟩).runIn survey).1 = .ok (.obj fields) ∧
      IsForm surveyControls fields ∧ fields.keys = ["size", "gift", "color", "ship"] ∧
      fields.get? "size" = some (.bool true) ∧ fields.get? "ship" = some (.bool false) ∧
      fields.get? "gift" = some (.str "no") := by
  let query : Act Site (List Handle) :=
    ledgerWalker.page.queryAll (some ⟨0, 0⟩) (.css "input, select, textarea")
  let handles : List Handle := (List.range 9).map fun i => ⟨0, i + 1⟩
  let questions : Act Site (List FormControl) :=
    handles.mapM fun h => ledgerWalker.askControl h {}
  obtain ⟨found, asked⟩ : (query.runIn survey).1.toOption = some handles ∧
      (questions.runIn (query.runIn survey).2).1.toOption = some surveyControls := by
    decide +kernel
  let controls (key : String) : List FormControl := FormControl.ofField key surveyControls
  obtain ⟨keys, ⟨size, sizes, oneOn⟩, ⟨ship, ships, noneOn⟩, gift, gifts⟩ :
      (surveyControls.filterMap FormControl.field?).eraseDups = ["size", "gift", "color", "ship"] ∧
      (controls "size" ≠ [] ∧ (∀ c ∈ controls "size", c.kind = "radio") ∧
        (controls "size").any FormControl.isOn = true) ∧
      (controls "ship" ≠ [] ∧ (∀ c ∈ controls "ship", c.kind = "radio") ∧
        (controls "ship").any FormControl.isOn = false) ∧
      (controls "gift").getLast? = some { name := some "gift", value := "no" } ∧
        ∀ c ∈ controls "gift", c.kind ≠ "radio" := by
    decide +kernel
  obtain ⟨fields, run, _, form⟩ :=
    readForm_record (Act.runIn_eq_of_ok found) (Act.runIn_eq_of_ok asked)
  have isOn := form.radios "size" size sizes
  have isOff := form.radios "ship" ship ships
  rw [oneOn] at isOn
  rw [noneOn] at isOff
  exact ⟨fields, congrArg Prod.fst run, form, form.keys.trans keys, isOn, isOff,
    form.last "gift" _ gift gifts⟩

/-! ## Forms of a site -/

section Sites

open Html

/-- The control that an element is. -/
def controlOf (d : Document) (p : Place) (e : Element) : FormControl where
  name := e.attribute? "name"
  id := e.attribute? "id"
  type := e.attribute? "type"
  isOn := e.isOn
  value := d.controlValue p e

/-- The controls in an element, in the order of the document. -/
def controlsBelow (d : Document) (p : Place) : List FormControl :=
  (d.placesBelow p).filterMap fun q =>
    ((d.element? q).filter fun e => e.name ∈ ["input", "select", "textarea"]).map (controlOf d q)

variable {s : Site} {h : Handle} {p : Place} {e : Element} {w : Walker Site}

/-- A site tells of a control what the element is. -/
theorem askControl_controlOf (site : w.page = Site.page) (here : s.element h = .ok (p, e)) :
    (w.askControl h (controlOf s.document p e)).runIn s = (.ok (controlOf s.document p e), s) := by
  have answer {α : Type} (f : Document → Place → Element → α) :
      (Site.read f h).runIn s = (.ok (f s.document p e), s) := by
    rw [Site.read_runIn, here]
    rfl
  have text (name : String) : (w.page.attributeOf h name).runIn s = (.ok (e.attribute? name), s) :=
    site ▸ answer fun _ _ e => e.attribute? name
  have identified : (w.askId h (controlOf s.document p e)).runIn s =
      (.ok (controlOf s.document p e), s) := by
    rw [askId]
    split
    · exact Act.runIn_bind_ok (text "id")
    · rfl
  have filled : (w.askContent h (controlOf s.document p e)).runIn s =
      (.ok (controlOf s.document p e), s) := by
    rw [askContent, site]
    split
    · exact Act.runIn_bind_ok (answer fun _ _ e => e.isOn)
    · exact Act.runIn_bind_ok (answer Document.controlValue)
  rw [askControl, Act.runIn_bind_ok (text "name")]
  refine (Act.runIn_bind_ok identified).trans ?_
  split
  · rfl
  · refine (Act.runIn_bind_ok (text "type")).trans ?_
    split
    · rfl
    · exact filled

/-- The selector of the names that controls have. -/
def controlSelector : Css.Selector :=
  ⟨[.compound [.type "input"], .compound [.type "select"], .compound [.type "textarea"]]⟩

theorem read?_controls : Css.Selector.read? "input, select, textarea" = some controlSelector := by
  have tokens : Css.Token.tokenize "input, select, textarea" =
      [.ident "input", .comma, .space, .ident "select", .comma, .space, .ident "textarea"] := by
    decide +kernel
  rw [Css.Selector.read?, tokens]
  rfl

theorem filterMap_selectBelow (d : Document) (p : Place) :
    (controlSelector.selectBelow d p).filterMap
      (fun q => (d.element? q).map (controlOf d q)) = controlsBelow d p := by
  rw [Css.Selector.selectBelow, List.filterMap_filter, controlsBelow]
  refine List.filterMap_congr fun q _ => ?_
  have named (e : Element) : Css.nameFor e "input" = "input" ∧ Css.nameFor e "select" = "select" ∧
      Css.nameFor e "textarea" = "textarea" := by
    simp only [Css.nameFor, show asciiLower "input" = "input" by decide,
      show asciiLower "select" = "select" by decide,
      show asciiLower "textarea" = "textarea" by decide, ite_self, and_self]
  cases he : d.element? q with
  | none => simp
  | some e =>
    by_cases control : e.name = "input" ∨ e.name = "select" ∨ e.name = "textarea" <;>
      simp [controlSelector, Css.Selector.holds, Css.Complex.anyHolds, Css.Complex.holds,
        Css.Simple.allHold, Css.Simple.holds, he, named, Option.filter, control]

/-- The controls at known places are added as they stand in the document. -/
theorem foldlM_addControl_site (site : w.page = Site.page) {d : Document} (shown : s.document = d)
    {hs : List Handle} {qs : List Place}
    (known : List.Forall₂ (fun h q => s.placeOf h = .ok q) hs qs)
    (present : ∀ q ∈ qs, ∃ e, d.element? q = some e) (fields : Entries Json) :
    (hs.foldlM w.addControl fields).runIn s =
      (.ok ((qs.filterMap fun q => (d.element? q).map (controlOf d q)).foldl
        FormControl.addTo fields), s) := by
  subst shown
  induction known generalizing fields with
  | nil => rfl
  | @cons h q hs qs here _ ih =>
    obtain ⟨⟨e, he⟩, rest⟩ := List.forall_mem_cons.1 present
    have element : s.element h = .ok (q, e) := Site.element_eq_ok.2 ⟨here, he⟩
    have added := addControl_runIn_ok fields (askControl_controlOf site element)
    rw [List.foldlM_cons, Act.runIn_bind_ok added, ih _ rest, List.filterMap_cons, he]
    rfl

/-- The record of a form on a site is that of the inputs, selections and text areas in the form, in
the order of the document. -/
theorem readForm_site (site : w.page = Site.page) {form : Handle} (here : s.placeOf form = .ok p) :
    ∃ (fields : Entries Json) (after : Site),
      (w.readForm form).runIn s = (.ok (.obj fields), after) ∧ s.Extends after ∧
      IsForm (controlsBelow s.document p) fields := by
  have found : s.findPlaces (some form) (.css "input, select, textarea") =
      .ok (controlSelector.selectBelow s.document p) := by
    rw [Site.findPlaces_eq rfl read?_controls]
    dsimp only
    rw [here]
    rfl
  obtain ⟨extended, known⟩ := Site.registerAll_run s (controlSelector.selectBelow s.document p)
  have query := Site.query_runIn_ok found
  have filled := foldlM_addControl_site site extended.document known
    (Site.element?_of_findPlaces found) []
  rw [filterMap_selectBelow] at filled
  refine ⟨_, _, ?_, extended, FormControl.isForm_record _⟩
  rw [readForm, site]
  refine (Act.runIn_bind_ok query).trans ?_
  rw [Act.runIn_bind_ok filled]
  rfl

end Sites

end Walker

end PageHarvest
