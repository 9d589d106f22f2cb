import PageHarvest.Export.Format
import PageHarvest.Proofs.Data.Tree
import PageHarvest.Proofs.Extraction.Calls
import PageHarvest.Proofs.Extraction.Sessions
import PageHarvest.Proofs.Json.Spelling

/-!
# Results read back from what is exported

The written form of a result denotes the result again. In JSON a list of results is one value, over
several lines or in one; line by line it has one line for each result, since no compact form of a
value has a line end in it.

* `ofTree?_toJson`: a result is read from its written form;
* `readAll?_render`: results are read from JSON in both layouts;
* `split_toJsonLines`, `read?_compact`: the lines of an export, each of which is read as its result;
* `Session.holds_last_and_reads_back`: what a session holds at any time, and that it is not lost in
  an export.
-/

namespace PageHarvest

namespace Result

/-- What holds of every result: its numbers fit their types, and every key stands once. -/
structure WellFormed (r : Result) : Prop where
  distinct : r.data.keys.Nodup
  values : ∀ e ∈ r.data, e.2.WellFormed
  integers : ∀ e ∈ r.data, ∀ n, Number.int n ∈ e.2.numbers →
    Number.minInt ≤ n ∧ n ≤ Number.maxInt
  pageNumber : r.pageNumber ≤ Json.max32

/-- The texts of its point in time and of its floating point numbers are read back. -/
structure ReadsBack (r : Result) : Prop where
  instant : Instant.read? r.timestamp.text = some r.timestamp
  floats : ∀ e ∈ r.data, ∀ f, Number.float f ∈ e.2.numbers → Json.ReadsBack (.float f)

/-- How many arrays and objects stand inside each other in the values of a result at most. -/
def NestedWithin (depth : Nat) (r : Result) : Prop := ∀ e ∈ r.data, e.2.nesting ≤ depth

/-- The result of a text. -/
def read? (s : String) : Option Result := (Json.readTree? s).bind ofTree?

/-- The results of a text. -/
def readAll? (s : String) : Option (List Result) :=
  (Json.readTree? s).bind fun t => t.items?.bind (·.mapM ofTree?)

variable {r : Result} {results : List Result} {depth : Nat}

/-! ## Fields -/

theorem entries?_ofEntries {data : Entries Json} (distinct : data.keys.Nodup)
    (values : ∀ e ∈ data, e.2.WellFormed) :
    entries? (.record (Tree.ofEntries data)) = some data := by
  have reads : (Tree.ofEntries data).mapM (fun e => e.2.value?.map (e.1, ·)) = some data := by
    rw [Tree.ofEntries_eq]
    refine mapM_map_eq_some fun e he => ?_
    rw [Tree.value?_ofJson (values e he)]
    rfl
  simp only [entries?, reads, Option.bind_eq_bind, Option.bind_some,
    Entries.ofList_of_nodup distinct]
  rfl

theorem texts?_ofItems (texts : List String) :
    ((Tree.ofJson (.arr (texts.map Json.str))).items?.bind (·.mapM Tree.text?)) = some texts := by
  show (Tree.ofItems (texts.map Json.str)).mapM Tree.text? = some texts
  rw [Tree.ofItems_eq, List.map_map]
  exact mapM_map_eq_some fun _ _ => rfl

theorem ofTree?_toJson (wf : r.WellFormed) (reads : r.ReadsBack) :
    ofTree? (.ofJson r.toJson) = some r := by
  have distinct : (Entries.keys [("schemaId", Json.str r.schemaId), ("url", .str r.url),
    ("timestamp", .str r.timestamp.text), ("data", .obj r.data),
    ("errors", .arr (r.errors.map Json.str)), ("pageNumber", .int r.pageNumber)]).Nodup := by
    show ["schemaId", "url", "timestamp", "data", "errors", "pageNumber"].Nodup
    decide
  have instant : (Tree.ofJson (.str r.timestamp.text)).text?.bind Instant.read? =
      some r.timestamp := by
    rw [Tree.text?_ofJson]
    exact (Option.bind_some ..).trans reads.instant
  have data : entries? (Tree.ofJson (.obj r.data)) = some r.data :=
    entries?_ofEntries wf.distinct wf.values
  have pageNumber : (Tree.ofJson (.int r.pageNumber)).nat? Json.max32 = some r.pageNumber :=
    Number.nat?_int wf.pageNumber
  rw [toJson, ofTree?, Tree.record?_ofJson distinct]
  simp only [Option.bind_eq_bind, Option.bind_some]
  rw [Tree.required?_ofEntries (v := .str r.schemaId) rfl, Tree.text?_ofJson,
    Tree.required?_ofEntries (v := .str r.url) rfl, Tree.text?_ofJson,
    Tree.required?_ofEntries (v := .str r.timestamp.text) rfl, instant,
    Tree.required?_ofEntries (v := .obj r.data) rfl, data,
    Tree.required?_ofEntries (v := .arr (r.errors.map Json.str)) rfl, texts?_ofItems,
    Tree.required?_ofEntries (v := .int r.pageNumber) rfl, pageNumber]
  rfl

/-! ## Depth and numbers of the written form -/

theorem nesting_toJson (shallow : r.NestedWithin depth) : r.toJson.nesting ≤ depth + 2 := by
  have data : (Json.obj r.data).nesting ≤ depth + 1 :=
    Nat.succ_le_succ (Json.nestingOfEntries_le shallow)
  have errors : (Json.arr (r.errors.map Json.str)).nesting ≤ 1 := by
    refine Nat.succ_le_succ (Json.nestingOfItems_le ?_)
    exact List.forall_mem_map.2 fun _ _ => Nat.le_refl 0
  show _ + 1 ≤ depth + 1 + 1
  refine Nat.succ_le_succ (Json.nestingOfEntries_le ?_)
  simp only [List.forall_mem_cons, List.not_mem_nil, false_implies, implies_true, and_true]
  have flat : 0 ≤ depth + 1 := Nat.zero_le _
  exact ⟨flat, flat, flat, data, by omega, flat⟩

theorem nesting_listToJson (shallow : ∀ r ∈ results, r.NestedWithin depth) :
    (listToJson results).nesting ≤ depth + 3 :=
  Nat.succ_le_succ (Json.nestingOfItems_le
    (List.forall_mem_map.2 fun r hr => nesting_toJson (shallow r hr)))

theorem numbers_toJson (r : Result) :
    r.toJson.numbers = (r.data.flatMap fun e => e.2.numbers) ++ [.int r.pageNumber] := by
  have errors : Json.numbersOfItems (r.errors.map Json.str) = [] := by
    rw [Json.numbersOfItems_eq, List.flatMap_eq_nil_iff]
    exact List.forall_mem_map.2 fun _ _ => rfl
  show Json.numbersOfEntries _ = _
  simp [Json.numbersOfEntries, Json.numbers, errors, Json.numbersOfEntries_eq, Json.int]

theorem readsBack_toJson (wf : r.WellFormed) (reads : r.ReadsBack) :
    ∀ n ∈ r.toJson.numbers, Json.ReadsBack n := by
  rw [numbers_toJson]
  refine List.forall_mem_append.2 ⟨List.forall_mem_flatMap.2 fun e he n hn => ?_, ?_⟩
  · cases n with
    | int n => exact Json.readsBack_int (wf.integers e he n hn).1 (wf.integers e he n hn).2
    | float f => exact reads.floats e he f hn
  · have greatest : (Json.max32 : Int) ≤ Number.maxInt := by decide
    have least : Number.minInt ≤ 0 := by decide
    have within := wf.pageNumber
    exact List.forall_mem_singleton.2 (Json.readsBack_int (by omega) (by omega))

/-! ## Texts -/

theorem read?_compact (wf : r.WellFormed) (reads : r.ReadsBack) (shallow : r.NestedWithin 124) :
    read? r.toJson.compact = some r := by
  have nested : r.toJson.nesting ≤ Json.maxDepth := Nat.le_succ_of_le (nesting_toJson shallow)
  rw [read?, Json.readTree?_compact (readsBack_toJson wf reads) nested, Option.bind_some,
    ofTree?_toJson wf reads]

theorem readAll?_render (wf : ∀ r ∈ results, r.WellFormed) (reads : ∀ r ∈ results, r.ReadsBack)
    (shallow : ∀ r ∈ results, r.NestedWithin 124) (isPretty : Bool) :
    readAll? (render results isPretty .json) = some results := by
  have nested : (listToJson results).nesting ≤ Json.maxDepth := nesting_listToJson shallow
  have readBack : ∀ n ∈ (listToJson results).numbers, Json.ReadsBack n := by
    show ∀ n ∈ Json.numbersOfItems (results.map toJson), _
    rw [Json.numbersOfItems_eq]
    refine List.forall_mem_flatMap.2 (List.forall_mem_map.2 fun r hr => ?_)
    exact readsBack_toJson (wf r hr) (reads r hr)
  have tree : Json.readTree? (render results isPretty .json) =
      some (.ofJson (listToJson results)) := by
    cases isPretty with
    | true => exact Json.readTree?_pretty readBack nested
    | false => exact Json.readTree?_compact readBack nested
  have items : (Tree.ofJson (listToJson results)).items? =
      some (results.map fun r => Tree.ofJson r.toJson) := by
    rw [listToJson, Tree.ofJson, Tree.ofItems_eq, List.map_map]
    rfl
  rw [readAll?, tree, Option.bind_some, items, Option.bind_some]
  exact mapM_map_eq_some fun r hr => ofTree?_toJson (wf r hr) (reads r hr)

/-! ## Lines -/

theorem splitChars_lines {lines : List (List Char)} (whole : ∀ line ∈ lines, '\n' ∉ line) :
    Text.splitChars (· == '\n') (lines.flatMap (· ++ ['\n'])) = lines ++ [[]] := by
  induction lines with
  | nil => rfl
  | cons line rest ih =>
    obtain ⟨first, others⟩ := List.forall_mem_cons.1 whole
    have plain : ∀ c ∈ line, (c == '\n') = false := fun c hc =>
      beq_eq_false_iff_ne.2 fun e => first (e ▸ hc)
    rw [List.flatMap_cons, List.append_assoc, List.singleton_append,
      Text.splitChars_append plain rfl, ih others, List.cons_append]

theorem toList_toJsonLines (results : List Result) :
    (toJsonLines results).toList =
      (results.map fun r => r.toJson.compactChars).flatMap (· ++ ['\n']) := by
  rw [toJsonLines, String.toList_join, List.flatMap_map, List.flatMap_map]
  refine List.flatMap_congr fun r _ => ?_
  rw [String.toList_append, Json.compact, String.toList_ofList]
  rfl

/-- Splitting at the line ends gives the compact forms and what follows the last line end. -/
theorem split_toJsonLines (results : List Result) :
    Text.splitChars (· == '\n') (toJsonLines results).toList =
      (results.map fun r => r.toJson.compactChars) ++ [[]] := by
  rw [toList_toJsonLines]
  refine splitChars_lines (List.forall_mem_map.2 fun r _ => ?_)
  exact Json.newline_not_mem_compactChars r.toJson

end Result

namespace Session

variable {σ : Type}

/-- Whatever an engine is asked for, its session holds what the last run over pages gave if that did
not fail and was not cleared, and nothing otherwise. Results whose values are not nested too deep
are read back from JSON in both layouts, and from the lines of an export one by one. -/
theorem holds_last_and_reads_back (settings : ExtractionSettings) :
    (∀ (requests : List (Request σ)) (page : σ),
      let ran := ((empty.run settings requests).run page).1
      ran.1.map Sigma.fst = requests ∧
        (∀ results, EndsWith ran.1 results → ran.2.results = results) ∧
        ((¬ ∃ results, EndsWith ran.1 results) → ran.2.results = [])) ∧
    ∀ results : List Result, (∀ r ∈ results, r.WellFormed) → (∀ r ∈ results, r.ReadsBack) →
      (∀ r ∈ results, r.NestedWithin 124) →
      (∀ isPretty, Result.readAll? (Result.render results isPretty .json) = some results) ∧
        ∀ isPretty, ∃ lines, Text.splitChars (· == '\n')
            (Result.render results isPretty .jsonLines).toList = lines ++ [[]] ∧
          List.Forall₂ (fun line r => line ≠ [] ∧ Result.read? (String.ofList line) = some r)
            lines results := by
  refine ⟨fun requests page => ⟨requests_run settings empty requests page, ?_, ?_⟩, ?_⟩
  · intro results ends
    rw [results_run, foldl_leave_of_endsWith ends]
  · intro none
    rw [results_run]
    exact foldl_leave_of_not_endsWith none
  · intro results wf reads shallow
    refine ⟨Result.readAll?_render wf reads shallow, fun isPretty => ?_⟩
    refine ⟨_, Result.split_toJsonLines results, ?_⟩
    refine List.forall₂_map_left_iff.2 (List.forall₂_same.2 fun r hr => ⟨nofun, ?_⟩)
    exact Result.read?_compact (wf r hr) (reads r hr) (shallow r hr)

/-- A result with quotes, line ends, control characters, a fraction and nested values. -/
def escaped : Result :=
  ⟨"s", "\r\n", ⟨1700000000, 5000000⟩,
    [("\"", .arr [.obj [("\\", .num (.float 2.5)), ("", .null)], .str "\n\x01€"]),
      ("", .int (-5))], ["price: \t"], 7⟩

theorem escaped_wellFormed : escaped.WellFormed where
  distinct := by decide
  values := by
    have fraction : (Json.num (.float 2.5)).WellFormed := trivial
    simp [escaped, Json.wellFormed_obj, Entries.keys, fraction]
  integers := by
    have integer : ∀ n, Number.int n ∈ [Number.int (-5)] →
        Number.minInt ≤ n ∧ n ≤ Number.maxInt := by
      intro n hn
      cases List.mem_singleton.1 hn
      decide
    simpa [escaped, Json.numbers, Json.numbersOfItems, Json.numbersOfEntries, Json.int]
      using integer
  pageNumber := by decide

theorem escaped_readsBack : escaped.ReadsBack where
  instant := by decide +kernel
  floats := by
    have fraction : Json.ReadsBack (.float 2.5) := by decide +kernel
    simpa [escaped, Json.numbers, Json.numbersOfItems, Json.numbersOfEntries, Json.int]
      using fraction

theorem escaped_nestedWithin : escaped.NestedWithin 124 := by
  unfold Result.NestedWithin
  decide

/-- Two pages stay held through an extraction that is not kept, and are gone after a run that fails.
A result is read back with all its characters. -/
theorem holds_last_and_reads_back_escaped :
    let policy : Pagination := { nextSelector := some "a", maxPages := some 2 }
    let turning : Schema := { id := "s", rules := [], pagination := some policy }
    let lost : Schema := { id := "t", rules := [.ofKind "price" .text] }
    let first : List (Request Unit) :=
      [.extract .unreadable (fun _ => return true) ⟨0, 0⟩ turning,
        .extractSchema .unreadable ⟨0, 0⟩ turning 9]
    let last : List (Request Unit) :=
      first ++ [.extract .unreadable (fun _ => return true) ⟨0, 0⟩ lost]
    ((empty.run {} first).run ()).1.2.results.map Result.pageNumber = [1, 2] ∧
      ((empty.run {} last).run ()).1.2.results = [] ∧
      Result.readAll? (Result.render [escaped, escaped] true .json) = some [escaped, escaped] ∧
      ∃ line, Text.splitChars (· == '\n') (Result.render [escaped] true .jsonLines).toList =
          [line, []] ∧ Result.read? (String.ofList line) = some escaped := by
  intro policy turning lost first last
  obtain ⟨sessions, exports⟩ := holds_last_and_reads_back (σ := Unit) {}
  obtain ⟨-, held, -⟩ := sessions first ()
  obtain ⟨-, -, dropped⟩ := sessions last ()
  have pages : EndsWith ((empty.run {} first).run ()).1.1 _ :=
    ⟨[], _, _, _, _, [⟨_, _⟩], rfl, List.forall_mem_singleton.2 trivial⟩
  have failed : ¬ ∃ results, EndsWith ((empty.run {} last).run ()).1.1 results :=
    fun ⟨_, ends⟩ => not_endsWith_fault [⟨_, _⟩, ⟨_, _⟩] ends
  have exported (results : List Result) (same : ∀ r ∈ results, r = escaped) :=
    exports results (fun r hr => same r hr ▸ escaped_wellFormed)
      (fun r hr => same r hr ▸ escaped_readsBack) (fun r hr => same r hr ▸ escaped_nestedWithin)
  obtain ⟨all, -⟩ := exported [escaped, escaped] (by simp)
  obtain ⟨-, split⟩ := exported [escaped] (by simp)
  obtain ⟨lines, split, readEach⟩ := split true
  obtain ⟨line, rest, ⟨-, read⟩, rest_read, rfl⟩ := List.forall₂_cons_right_iff.1 readEach
  obtain rfl := List.forall₂_nil_right_iff.1 rest_read
  refine ⟨?_, dropped failed, all true, line, split, read⟩
  rw [held _ pages]
  rfl

end Session

end PageHarvest
