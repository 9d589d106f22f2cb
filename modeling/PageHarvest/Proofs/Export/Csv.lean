import Mathlib.Data.List.Forall2
import PageHarvest.Export.Format

/-!
# Tables read back

A reader of comma-separated values goes over a text one character at a time. It gives back the
records of a rendered table as they were, whatever stands in their fields.

- A field ends at a comma or at the end of its record. A record ends at a line feed, at a carriage
  return, or at both in this order.
- In quotes these three are characters like any other, and two quotes are one.
- Readers differ on blank lines, so the records that such a line stands for are a parameter.

* `Reading.run_field`: what the reader makes of one field, by its steps;
* `read?_render`: what it makes of all records;
* `Result.toCsv_reads`: what follows for the table of results.
-/

namespace PageHarvest

namespace Csv

/-! ## The reader -/

/-- Where a reader stands. -/
inductive Place
  /-- In front of a record; whether the one before ended with a carriage return. -/
  | record (returned : Bool)
  /-- Behind a comma. -/
  | field
  | bare
  | quoted
  /-- Behind a quote in quotes, which ends the field or is the first of two. -/
  | closing

/-- What was read: complete records, fields of the open record, characters of the open field. -/
structure Reading where
  records : List (List String)
  fields : List String
  chars : List Char
  place : Place

namespace Reading

def isLineEnd (c : Char) : Bool := c = '\n' || c = '\r'

def push (s : Reading) (c : Char) (place : Place) : Reading :=
  { s with chars := s.chars ++ [c], place }

def endField (s : Reading) : Reading :=
  { s with fields := s.fields ++ [String.ofList s.chars], chars := [], place := .field }

def endRecord (s : Reading) (c : Char) : Reading :=
  ⟨s.records ++ [s.fields ++ [String.ofList s.chars]], [], [], .record (c = '\r')⟩

/-- Ends the open field at a comma or a line end. -/
def close? (s : Reading) (c : Char) : Option Reading :=
  if c = ',' then some s.endField else if isLineEnd c then some (s.endRecord c) else none

/-- Starts a field. -/
def start (s : Reading) (c : Char) : Reading :=
  if c = '"' then { s with place := .quoted } else s.push c .bare

/-- The next character. A quote has no place in a field without quotes, and nothing but the end has
a place behind the quotes of a field. -/
def step (blank : List (List String)) (s : Reading) (c : Char) : Option Reading :=
  match s.place with
  | .record returned =>
    if isLineEnd c then
      if returned ∧ c = '\n' then some { s with place := .record false }
      else some { s with records := s.records ++ blank, place := .record (c = '\r') }
    else some ((s.close? c).getD (s.start c))
  | .field => some ((s.close? c).getD (s.start c))
  | .bare => if c = '"' then none else some ((s.close? c).getD (s.push c .bare))
  | .quoted => some (if c = '"' then { s with place := .closing } else s.push c .quoted)
  | .closing => if c = '"' then some (s.push c .quoted) else s.close? c

def run (blank : List (List String)) (s : Reading) (cs : List Char) : Option Reading :=
  cs.foldlM (step blank) s

/-- The records at the end of the text; the last one may go without a line end. -/
def finish? (s : Reading) : Option (List (List String)) :=
  match s.place with
  | .record _ => some s.records
  | .quoted => none
  | .field | .bare | .closing => some (s.endRecord '\n').records

/-- In front of a record, the given ones being complete. -/
def after (records : List (List String)) : Reading := ⟨records, [], [], .record false⟩

end Reading

/-- The records of a text, if it is one of comma-separated values. -/
def read? (blank : List (List String)) (text : String) : Option (List (List String)) :=
  ((Reading.after []).run blank text.toList).bind Reading.finish?

/-! ## Fields -/

namespace Reading

variable {blank : List (List String)} {s t : Reading} {c d : Char} {cs ds : List Char}

theorem run_cons (h : s.step blank c = some t) : s.run blank (c :: cs) = t.run blank cs := by
  rw [run, List.foldlM_cons, h]
  rfl

theorem run_append (h : s.run blank cs = some t) : s.run blank (cs ++ ds) = t.run blank ds := by
  rw [run, List.foldlM_append]
  show (s.run blank cs).bind _ = _
  rw [h]
  rfl

theorem run_doubleQuotes (quoted : s.place = .quoted) :
    s.run blank (doubleQuotes cs) = some { s with chars := s.chars ++ cs } := by
  induction cs generalizing s with
  | nil => simp [doubleQuotes, run]
  | cons c cs ih =>
    have further := ih (s := s.push c .quoted) rfl
    by_cases quote : c = '"'
    · have closing : s.step blank c = some { s with place := .closing } := by
        simp [step, quoted, quote]
      have doubled : step blank { s with place := .closing } c = some (s.push c .quoted) := by
        simp [step, quote, push]
      have text : doubleQuotes (c :: cs) = c :: c :: doubleQuotes cs := by
        simp [doubleQuotes, quote]
      rw [text, run_cons closing, run_cons doubled, further]
      simp [push, quoted]
    · have pushed : s.step blank c = some (s.push c .quoted) := by
        simp [step, quoted, quote]
      have text : doubleQuotes (c :: cs) = c :: doubleQuotes cs := by
        simp [doubleQuotes, quote]
      rw [text, run_cons pushed, further]
      simp [push, quoted]

theorem needsQuotes_cons :
    needsQuotes (c :: cs) = false ↔
      (c ≠ ',' ∧ c ≠ '"' ∧ isLineEnd c = false) ∧ needsQuotes cs = false := by
  simp [needsQuotes, isLineEnd, and_assoc]

theorem close?_eq_none (comma : c ≠ ',') (inside : isLineEnd c = false) : s.close? c = none := by
  simp [close?, comma, inside]

theorem run_bare (bare : s.place = .bare) (plain : needsQuotes cs = false) :
    s.run blank cs = some { s with chars := s.chars ++ cs } := by
  induction cs generalizing s with
  | nil => simp [run]
  | cons c cs ih =>
    obtain ⟨⟨comma, quote, inside⟩, further⟩ := needsQuotes_cons.1 plain
    have pushed : s.step blank c = some (s.push c .bare) := by
      simp [step, bare, quote, close?_eq_none comma inside]
    rw [run_cons pushed, ih (s := s.push c .bare) rfl further]
    simp [push, bare]

/-- In front of a field. -/
structure IsOpen (s : Reading) : Prop where
  chars : s.chars = []
  place : s.place = .field ∨ ∃ returned, s.place = .record returned

theorem step_open (opens : s.IsOpen) (inside : isLineEnd c = false) :
    s.step blank c = some ((s.close? c).getD (s.start c)) := by
  rcases opens.place with place | ⟨returned, place⟩ <;> simp [step, place, inside]

/-- A field and the mark behind it. A line end alone would be a blank line. -/
theorem run_field (opens : s.IsOpen) (mark : d = ',' ∨ d = '\n')
    (written : s.place = .field ∨ cs ≠ [] ∨ d = ',') :
    s.run blank (field cs ++ [d]) = close? { s with chars := cs } d := by
  have noQuote : d ≠ '"' := by rintro rfl; simp at mark
  have closes (t : Reading) : (t.close? d).isSome := by
    rcases mark with rfl | rfl <;> simp [close?, isLineEnd]
  cases needs : needsQuotes cs with
  | true =>
    have opened : s.step blank '"' = some { s with place := .quoted } := by
      rw [step_open opens (by decide)]
      simp [close?, isLineEnd, start]
    have body : run blank { s with place := .quoted } (doubleQuotes cs) =
        some { s with chars := cs, place := .quoted } := by
      rw [run_doubleQuotes rfl, opens.chars]
      rfl
    have closed : step blank { s with chars := cs, place := .quoted } '"' =
        some { s with chars := cs, place := .closing } := by
      simp [step]
    have ended : step blank { s with chars := cs, place := .closing } d =
        close? { s with chars := cs } d := by
      simp [step, noQuote, close?, endField, endRecord]
    have text : field cs ++ [d] = '"' :: (doubleQuotes cs ++ ['"', d]) := by simp [field, needs]
    obtain ⟨t, ht⟩ := Option.isSome_iff_exists.1 (closes { s with chars := cs })
    rw [text, run_cons opened, run_append body, run_cons closed, run_cons (ended.trans ht), ht]
    rfl
  | false =>
    have text : field cs = cs := by simp [field, needs]
    rw [text]
    obtain ⟨t, ht⟩ := Option.isSome_iff_exists.1 (closes { s with chars := cs })
    cases cs with
    | nil =>
      have same : { s with chars := [] } = s := by rw [← opens.chars]
      rw [same] at ht ⊢
      have ended : s.step blank d = some t := by
        rcases written with place | nonempty | rfl
        · simp [step, place, ht]
        · exact absurd rfl nonempty
        · rw [step_open opens (by decide), ht]
          rfl
      rw [List.nil_append, run_cons ended, ht]
      rfl
    | cons c cs =>
      obtain ⟨⟨comma, quote, inside⟩, further⟩ := needsQuotes_cons.1 needs
      have opened : s.step blank c = some { s with chars := [c], place := .bare } := by
        rw [step_open opens inside, close?_eq_none comma inside]
        simp [start, quote, push, opens.chars]
      have body : run blank { s with chars := [c], place := .bare } cs =
          some { s with chars := c :: cs, place := .bare } := by
        rw [run_bare rfl further]
        rfl
      have ended : step blank { s with chars := c :: cs, place := .bare } d = some t := by
        have same : close? { s with chars := c :: cs, place := .bare } d = some t := ht
        simp [step, noQuote, same]
      rw [List.cons_append, run_cons opened, run_append body, run_cons ended, ht]
      rfl

/-! ## Records -/

theorem run_joinFields {fields : List (List Char)} (some_field : fields ≠ []) (opens : s.IsOpen)
    (written : s.place = .field ∨ joinFields fields ≠ []) :
    s.run blank (joinFields fields ++ ['\n']) =
      some (after (s.records ++ [s.fields ++ fields.map String.ofList])) := by
  induction fields generalizing s with
  | nil => exact absurd rfl some_field
  | cons cs rest ih =>
    cases rest with
    | nil =>
      have nonempty : s.place = .field ∨ cs ≠ [] ∨ '\n' = ',' := by
        refine written.imp_right fun some_char => .inl fun empty => some_char ?_
        simp [joinFields, field, needsQuotes, empty]
      rw [joinFields, run_field opens (.inr rfl) nonempty]
      simp [close?, isLineEnd, endRecord, after]
    | cons ds rest =>
      have first : s.run blank (field cs ++ [',']) =
          some ⟨s.records, s.fields ++ [String.ofList cs], [], .field⟩ :=
        run_field opens (.inl rfl) (.inr (.inr rfl))
      have text : joinFields (cs :: ds :: rest) ++ ['\n'] =
          field cs ++ [','] ++ (joinFields (ds :: rest) ++ ['\n']) := by simp [joinFields]
      rw [text, run_append first, ih (by simp) ⟨rfl, .inl rfl⟩ (.inl rfl)]
      simp

theorem run_line {records : List (List String)} {r : List String} (some_field : r ≠ []) :
    (after records).run blank (line r) = some (after (records ++ [r])) := by
  have fields : (r.map String.toList).map String.ofList = r := by simp
  by_cases empty : joinFields (r.map String.toList) = []
  · -- the one record without a written field: it stands in quotes
    have alone : r = [""] := by
      match r with
      | [] => exact absurd rfl some_field
      | [a] =>
        have none : a.toList = [] := by
          by_contra some
          simp only [List.map_cons, List.map_nil, joinFields, field] at empty
          split at empty
          · cases empty
          · exact some empty
        rw [String.toList_eq_nil_iff.1 none]
      | a :: b :: rest => simp [joinFields] at empty
    subst alone
    rfl
  · have text : line r = joinFields (r.map String.toList) ++ ['\n'] := by simp [line, empty]
    rw [text, run_joinFields (by simpa using some_field) ⟨rfl, .inr ⟨false, rfl⟩⟩ (.inr empty),
      fields]
    rfl

theorem run_lines {records done : List (List String)} (some_field : ∀ r ∈ records, r ≠ []) :
    (after done).run blank (records.flatMap line) = some (after (done ++ records)) := by
  induction records generalizing done with
  | nil => simp [run]
  | cons r rest ih =>
    obtain ⟨first, others⟩ := List.forall_mem_cons.1 some_field
    rw [List.flatMap_cons, run_append (run_line first), ih others, List.append_assoc]
    rfl

end Reading

/-- A rendered table reads as its records, if none of them is without fields. -/
theorem read?_render (blank : List (List String)) {records : List (List String)}
    (some_field : ∀ r ∈ records, r ≠ []) : read? blank (render records) = some records := by
  rw [read?, render, String.toList_ofList, Reading.run_lines some_field]
  rfl

/-! ## The writer -/

/-- Writes records line by line. A record of another width than the one before is refused. -/
def writeLines? : Option Nat → List (List String) → Option (List Char)
  | _, [] => some []
  | width, r :: rest =>
    if width.all (· = r.length) then (writeLines? (some r.length) rest).map (line r ++ ·) else none

def write? (records : List (List String)) : Option String :=
  (writeLines? none records).map String.ofList

theorem writeLines?_eq {records : List (List String)} {width : Option Nat} {n : Nat}
    (expected : width.all (· = n)) (even : ∀ r ∈ records, r.length = n) :
    writeLines? width records = some (records.flatMap line) := by
  induction records generalizing width with
  | nil => rfl
  | cons r rest ih =>
    obtain ⟨first, others⟩ := List.forall_mem_cons.1 even
    rw [writeLines?, first, if_pos expected, ih (by simp) others]
    rfl

/-- Records of one width are written. -/
theorem write?_eq_render {records : List (List String)} {n : Nat}
    (even : ∀ r ∈ records, r.length = n) : write? records = some (render records) := by
  have lines : writeLines? none records = some (records.flatMap line) := writeLines?_eq rfl even
  rw [write?, lines]
  rfl

end Csv

/-! ## Tables of results -/

namespace Result

/-- The text that stands for a field of a result in a table. -/
inductive CellText : Option Json → String → Prop
  | missing : CellText none ""
  | null : CellText (some .null) ""
  | text (s : String) : CellText (some (.str s)) s
  | json {v : Json} : v ≠ .null → (∀ s, v ≠ .str s) → CellText (some v) v.compact

theorem cellText_cell (v : Option Json) : CellText v (cell v) := by
  match v with
  | none => exact .missing
  | some .null => exact .null
  | some (.str s) => exact .text s
  | some (.bool _) | some (.num _) | some (.arr _) | some (.obj _) => exact .json nofun nofun

theorem length_of_mem_table {first : Result} {rest : List Result} {record : List String}
    (mem : record ∈ table (first :: rest)) : record.length = first.data.keys.length := by
  rcases List.mem_cons.1 mem with rfl | mem
  · rfl
  · obtain ⟨r, _, rfl⟩ := List.mem_map.1 mem
    exact List.length_map ..

/-- The table of results is written, and reads as one record more than there are results, all of the
same width: the names of the columns are the fields of the first result in their order, and each
further record has the texts of these fields of one result. -/
theorem toCsv_reads (first : Result) (rest : List Result) (some_column : first.data ≠ [])
    (blank : List (List String)) :
    Csv.write? (table (first :: rest)) = some (toCsv (first :: rest)) ∧
      ∃ records, Csv.read? blank (toCsv (first :: rest)) = some (first.data.keys :: records) ∧
        records.length = (first :: rest).length ∧
        (∀ record ∈ records, record.length = first.data.keys.length) ∧
        List.Forall₂ (fun (r : Result) record =>
          List.Forall₂ (fun column text => CellText (r.data.get? column) text) first.data.keys
            record) (first :: rest) records := by
  have even (record : List String) (mem : record ∈ table (first :: rest)) :
      record.length = first.data.keys.length := length_of_mem_table mem
  have columns : 0 < first.data.keys.length := by
    simpa [Entries.keys] using List.length_pos_iff.2 some_column
  have some_field (record : List String) (mem : record ∈ table (first :: rest)) : record ≠ [] := by
    intro none
    have width := even record mem
    simp [none] at width
    omega
  refine ⟨Csv.write?_eq_render even, _, Csv.read?_render blank some_field, List.length_map .., ?_,
    ?_⟩
  · exact fun record mem => even record (List.mem_cons_of_mem _ mem)
  · refine List.forall₂_map_right_iff.2 (List.forall₂_same.2 fun r _ => ?_)
    exact List.forall₂_map_right_iff.2 (List.forall₂_same.2 fun column _ => cellText_cell _)

/-- Marks and line ends in names and cells, a name and a row that are empty, and fields that the
first result does not have. -/
theorem toCsv_reads_marks :
    let first : Result := ⟨"s", "", ⟨0, 0⟩, [("a,\"b\"\r\n", .arr [.str "\"", .null]), ("", .null)],
      [], 1⟩
    let last : Result := ⟨"s", "", ⟨0, 0⟩, [("c", .bool true), ("", .str "\n")], [], 2⟩
    let single : Result := ⟨"s", "", ⟨0, 0⟩, [("", .null)], [], 1⟩
    table [first, last] = [["a,\"b\"\r\n", ""], ["[\"\\\"\",null]", ""], ["", "\n"]] ∧
      (∃ records, Csv.read? [] (toCsv [first, last]) = some (["a,\"b\"\r\n", ""] :: records) ∧
        records.length = 2 ∧ ∀ record ∈ records, record.length = 2) ∧
      toCsv [single, last] = "\"\"\n\"\"\n\"\n\"\n" ∧
      ∃ records, Csv.read? [] (toCsv [single, last]) = some ([""] :: records) ∧
        records.length = 2 := by
  intro first last single
  obtain ⟨-, records, read, count, even, -⟩ := toCsv_reads first [last] (by decide) []
  obtain ⟨-, rows, rows_read, rows_count, -⟩ := toCsv_reads single [last] (by decide) []
  exact ⟨by decide +kernel, ⟨records, read, count, even⟩, by decide +kernel, rows, rows_read,
    rows_count⟩

end Result

end PageHarvest
