import PageHarvest.Proofs.Json.Spelling
import PageHarvest.Proofs.Schema.Nesting
import PageHarvest.Schema.Source

/-!
# Schemas read back from what is written

What is absent is not written, and what is not written is absent again after reading. A rule is
written with some of its fields, in their order, so no field stands twice.

* `Tree.optional?_field?`, `Json.get?_field?`: a field that is written only if it has a value;
* `Rule.ofTree?_toJson`, `Pagination.ofTree?_toJson`: the parts of a schema;
* `Schema.read_write`: schemas, as values and as texts.
-/

namespace PageHarvest

variable {name : String}

/-! ## Fields that may be absent -/

namespace Entries

variable {α : Type}

@[simp]
theorem get?_append (name : String) (es fs : Entries α) :
    get? name (es ++ fs) = (es.get? name).or (fs.get? name) := by
  induction es with
  | nil => rfl
  | cons e rest ih =>
    obtain ⟨k, v⟩ := e
    by_cases own : k = name
    · simp [get?, own]
    · simp [get?, own, ih]

@[simp]
theorem keys_append (es fs : Entries α) : keys (es ++ fs) = es.keys ++ fs.keys := List.map_append

end Entries

namespace Json

@[simp]
theorem get?_field? (name field : String) (v : Option Json) :
    Entries.get? name (field? field v) = if field = name then v else none := by
  cases v with
  | none => simp [field?, Entries.get?]
  | some v => rfl

theorem numbersOfEntries_append (es fs : Entries Json) :
    numbersOfEntries (es ++ fs) = numbersOfEntries es ++ numbersOfEntries fs := by
  simp only [numbersOfEntries_eq, List.flatMap_append]

theorem numbersOfEntries_field? (field : String) (v : Option Json) :
    numbersOfEntries (field? field v) = v.elim [] numbers := by
  cases v with
  | none => rfl
  | some v => exact List.append_nil _

theorem numbersOfEntries_text (field : String) (v : Option String) :
    numbersOfEntries (field? field (v.map Json.str)) = [] := by
  cases v <;> rfl

theorem keys_field? (field : String) (v : Option Json) :
    (Entries.keys (field? field v)).Sublist [field] := by
  cases v with
  | none => exact List.nil_sublist _
  | some v => exact List.Sublist.refl _

end Json

namespace Tree

variable {α : Type} {read : Tree → Option α} {entries : Entries Json}

theorem optional?_field? {f : α → Json} {value : Option α}
    (found : entries.get? name = value.map f) (present : ∀ a, f a ≠ .null)
    (reads : ∀ a, value = some a → read (ofJson (f a)) = some a) :
    optional? read name (ofEntries entries) = some value := by
  cases value with
  | none => exact optional?_absent found
  | some a => rw [optional?_present found (present a), reads a rfl, Option.map_some]

theorem optional?_text {value : Option String} (found : entries.get? name = value.map Json.str) :
    optional? text? name (ofEntries entries) = some value :=
  optional?_field? found nofun fun _ _ => rfl

theorem optional?_nat {limit : Nat} {value : Option Nat}
    (found : entries.get? name = value.map fun n : Nat => Json.int n)
    (fits : ∀ n, value = some n → n ≤ limit) :
    optional? (nat? limit) name (ofEntries entries) = some value :=
  optional?_field? found nofun fun n h => Number.nat?_int (fits n h)

end Tree

/-! ## Rules -/

namespace RuleKind

theorem ofName?_name (k : RuleKind) : ofName? k.name = some k := by cases k <;> decide

end RuleKind

namespace Transform

theorem ofName?_name (t : Transform) : ofName? t.name = some t := by cases t <;> decide

end Transform

namespace Rule

/-- The fields of the written form. -/
def entries (r : Rule) : Entries Json :=
  [("id", .str r.id), ("name", .str r.name), ("type", .str r.kind.name)] ++
    Json.field? "selector" (r.selector.map Json.str) ++
    Json.field? "xpath" (r.xpath.map Json.str) ++
    Json.field? "attribute" (r.attributeName.map Json.str) ++
    Json.field? "regex" (r.regex.map Json.str) ++
    Json.field? "transform" ((r.transform.map Transform.name).map Json.str) ++
    [("multiple", .bool r.multiple), ("optional", .bool r.optional)] ++
    Json.field? "fallbackSelector" (r.fallbackSelector.map Json.str) ++ childrenToJson r.children

theorem toJson_eq (r : Rule) : r.toJson = .obj r.entries := by
  cases r
  rw [toJson]
  rfl

theorem listToJson_eq (rs : List Rule) : listToJson rs = rs.map toJson := by
  induction rs with
  | nil => rfl
  | cons r rest ih => rw [listToJson, ih, List.map_cons]

theorem childrenToJson_eq (rs : List Rule) :
    childrenToJson rs =
      Json.field? "children" (if rs = [] then none else some (.arr (listToJson rs))) := by
  cases rs <;> rfl

theorem keys_entries (r : Rule) : r.entries.keys.Sublist fields := by
  unfold entries
  simp only [Entries.keys_append, childrenToJson_eq]
  have same (ks : List String) : ks.Sublist ks := List.Sublist.refl ks
  exact ((((((((same _).append (Json.keys_field? _ _)).append (Json.keys_field? _ _)).append
    (Json.keys_field? _ _)).append (Json.keys_field? _ _)).append (Json.keys_field? _ _)).append
    (same _)).append (Json.keys_field? _ _)).append (Json.keys_field? _ _)

theorem ofEntries?_entries (r : Rule) :
    ofEntries? (Tree.ofEntries r.entries) r.children = some r := by
  have text (field : String) (value : Option String)
      (found : r.entries.get? field = value.map Json.str) :
      Tree.optional? Tree.text? field (Tree.ofEntries r.entries) = some value :=
    Tree.optional?_text found
  have selector := text "selector" r.selector
    (by simp [entries, childrenToJson_eq, Entries.get?])
  have xpath := text "xpath" r.xpath (by simp [entries, childrenToJson_eq, Entries.get?])
  have attributeName := text "attribute" r.attributeName
    (by simp [entries, childrenToJson_eq, Entries.get?])
  have regex := text "regex" r.regex (by simp [entries, childrenToJson_eq, Entries.get?])
  have fallbackSelector := text "fallbackSelector" r.fallbackSelector
    (by simp [entries, childrenToJson_eq, Entries.get?])
  have transform : Tree.optional? (fun t => t.choice?.bind Transform.ofName?) "transform"
      (Tree.ofEntries r.entries) = some r.transform :=
    Tree.optional?_field? (f := fun t : Transform => Json.str t.name)
      (by simp [entries, childrenToJson_eq, Entries.get?, Function.comp_def])
      (fun _ null => by cases null) fun t _ => t.ofName?_name
  have kind : Tree.required? (fun t => t.choice?.bind RuleKind.ofName?) "type"
      (Tree.ofEntries r.entries) = some r.kind :=
    (Tree.required?_ofEntries (v := .str r.kind.name) rfl).trans r.kind.ofName?_name
  have multiple : r.entries.get? "multiple" = some (.bool r.multiple) := by
    simp [entries, childrenToJson_eq, Entries.get?]
  have optional : r.entries.get? "optional" = some (.bool r.optional) := by
    simp [entries, childrenToJson_eq, Entries.get?]
  rw [ofEntries?]
  simp only [selector, xpath, attributeName, regex, transform, fallbackSelector]
  rw [Tree.orDefault?_ofEntries (v := .str r.id) rfl,
    Tree.required?_ofEntries (v := .str r.name) rfl, kind, Tree.orDefault?_ofEntries multiple,
    Tree.orDefault?_ofEntries optional]
  cases r
  rfl

/-! ### Children -/

theorem childrenIn?_eq (es : Entries Tree) :
    childrenIn? es = (es.get? "children").elim (some []) listOfTree? := by
  induction es with
  | nil => rfl
  | cons e rest ih =>
    obtain ⟨k, t⟩ := e
    by_cases own : k = "children"
    · rw [childrenIn?, Entries.get?, if_pos own, if_pos own]
      rfl
    · rw [childrenIn?, Entries.get?, if_neg own, if_neg own, ih]

theorem allOfTree?_eq (ts : List Tree) : allOfTree? ts = ts.mapM ofTree? := by
  induction ts with
  | nil => rfl
  | cons t rest ih => rw [allOfTree?, ih, List.mapM_cons]

theorem listOfTree?_listToJson {rs : List Rule}
    (each : ∀ r ∈ rs, ofTree? (.ofJson r.toJson) = some r) :
    listOfTree? (.ofJson (.arr (listToJson rs))) = some rs := by
  rw [listToJson_eq, Tree.ofJson, listOfTree?, allOfTree?_eq, Tree.ofItems_eq, List.map_map]
  exact mapM_map_eq_some each

theorem childrenIn?_entries {r : Rule}
    (each : ∀ child ∈ r.children, ofTree? (.ofJson child.toJson) = some child) :
    childrenIn? (Tree.ofEntries r.entries) = some r.children := by
  have found : r.entries.get? "children" =
      if r.children = [] then none else some (.arr (listToJson r.children)) := by
    simp [entries, childrenToJson_eq, Entries.get?]
  rw [childrenIn?_eq, Tree.get?_ofEntries, found]
  by_cases none : r.children = []
  · rw [if_pos none, none]
    rfl
  · rw [if_neg none]
    exact listOfTree?_listToJson each

theorem ofTree?_toJson (r : Rule) : ofTree? (.ofJson r.toJson) = some r := by
  induction r using Rule.induct with
  | step r ih =>
    have distinct : r.entries.keys.Nodup := r.keys_entries.nodup (by decide)
    have record := Tree.record?_ofJson distinct fields
    rw [Tree.ofJson] at record
    rw [toJson_eq, Tree.ofJson, ofTree?, record, childrenIn?_entries ih]
    simp only [Option.bind_eq_bind, Option.bind_some]
    exact r.ofEntries?_entries

/-! ### Numbers -/

theorem numbers_listToJson {rs : List Rule} (each : ∀ r ∈ rs, r.toJson.numbers = []) :
    Json.numbersOfItems (listToJson rs) = [] := by
  rw [Json.numbersOfItems_eq, listToJson_eq, List.flatMap_eq_nil_iff]
  exact List.forall_mem_map.2 each

/-- No number is written in a rule. -/
theorem numbers_toJson (r : Rule) : r.toJson.numbers = [] := by
  induction r using Rule.induct with
  | step r ih =>
    have children : Json.numbersOfEntries (childrenToJson r.children) = [] := by
      rw [childrenToJson_eq, Json.numbersOfEntries_field?]
      by_cases none : r.children = []
      · rw [if_pos none]
        rfl
      · rw [if_neg none]
        exact numbers_listToJson ih
    rw [toJson_eq]
    show Json.numbersOfEntries r.entries = []
    unfold entries
    simp only [Json.numbersOfEntries_append, Json.numbersOfEntries_text, children]
    rfl

end Rule

/-! ## Schemas -/

namespace Pagination

/-- The counts fit their types. -/
structure Fits (p : Pagination) : Prop where
  maxPages : ∀ n, p.maxPages = some n → n ≤ Json.max32
  waitBetweenPages : ∀ n, p.waitBetweenPages = some n → n ≤ Json.max64

/-- The fields of the written form. -/
def entries (p : Pagination) : Entries Json :=
  Json.field? "nextSelector" (p.nextSelector.map Json.str) ++
    Json.field? "maxPages" (p.maxPages.map fun n : Nat => Json.int n) ++
    Json.field? "waitBetweenPages" (p.waitBetweenPages.map fun n : Nat => Json.int n)

theorem keys_entries (p : Pagination) :
    p.entries.keys.Sublist ["nextSelector", "maxPages", "waitBetweenPages"] := by
  unfold entries
  simp only [Entries.keys_append]
  exact ((Json.keys_field? _ _).append (Json.keys_field? _ _)).append (Json.keys_field? _ _)

theorem ofTree?_toJson {p : Pagination} (fits : p.Fits) : ofTree? (.ofJson p.toJson) = some p := by
  have distinct : p.entries.keys.Nodup := p.keys_entries.nodup (by decide)
  have nextSelector : Tree.optional? Tree.text? "nextSelector" (Tree.ofEntries p.entries) =
      some p.nextSelector := Tree.optional?_text (by simp [entries])
  have maxPages : Tree.optional? (Tree.nat? Json.max32) "maxPages" (Tree.ofEntries p.entries) =
      some p.maxPages := Tree.optional?_nat (by simp [entries]) fits.maxPages
  have waitBetweenPages : Tree.optional? (Tree.nat? Json.max64) "waitBetweenPages"
      (Tree.ofEntries p.entries) = some p.waitBetweenPages :=
    Tree.optional?_nat (by simp [entries]) fits.waitBetweenPages
  show ofTree? (.ofJson (.obj p.entries)) = some p
  rw [ofTree?, Tree.record?_ofJson distinct]
  simp only [Option.bind_eq_bind, Option.bind_some, nextSelector, maxPages, waitBetweenPages]
  rfl

theorem readsBack_toJson {p : Pagination} (fits : p.Fits) :
    ∀ n ∈ p.toJson.numbers, Json.ReadsBack n := by
  have count {field : String} {limit : Nat} (small : limit ≤ Json.max64) {value : Option Nat}
      (within : ∀ n, value = some n → n ≤ limit) :
      ∀ n ∈ Json.numbersOfEntries (Json.field? field (value.map fun n : Nat => Json.int n)),
        Json.ReadsBack n := by
    rw [Json.numbersOfEntries_field?]
    cases value with
    | none => exact List.forall_mem_nil _
    | some k =>
      have least : Number.minInt ≤ 0 := by decide
      have greatest : (Json.max64 : Int) = Number.maxInt := by decide
      have bound := within k rfl
      exact List.forall_mem_singleton.2 (Json.readsBack_int (by omega) (by omega))
  show ∀ n ∈ Json.numbersOfEntries p.entries, Json.ReadsBack n
  unfold entries
  simp only [Json.numbersOfEntries_append, Json.numbersOfEntries_text, List.nil_append]
  exact List.forall_mem_append.2
    ⟨count (by decide) fits.maxPages, count (Nat.le_refl _) fits.waitBetweenPages⟩

end Pagination

namespace Schema

/-- The counts of the policy fit their types. -/
def Fits (s : Schema) : Prop := ∀ p, s.pagination = some p → p.Fits

/-- The fields of the written form. -/
def entries (s : Schema) : Entries Json :=
  [("id", .str s.id)] ++ Json.field? "name" (s.name.map Json.str) ++
    [("rules", .arr (Rule.listToJson s.rules))] ++
    Json.field? "pagination" (s.pagination.map Pagination.toJson)

theorem keys_entries (s : Schema) :
    s.entries.keys.Sublist ["id", "name", "rules", "pagination"] := by
  unfold entries
  simp only [Entries.keys_append]
  have same (ks : List String) : ks.Sublist ks := List.Sublist.refl ks
  exact (((same _).append (Json.keys_field? _ _)).append (same _)).append (Json.keys_field? _ _)

theorem ofTree?_toJson {s : Schema} (fits : s.Fits) : ofTree? (.ofJson s.toJson) = some s := by
  have distinct : s.entries.keys.Nodup := s.keys_entries.nodup (by decide)
  have name : Tree.optional? Tree.text? "name" (Tree.ofEntries s.entries) = some s.name :=
    Tree.optional?_text (by simp [entries, Entries.get?])
  have found : s.entries.get? "rules" = some (.arr (Rule.listToJson s.rules)) := by
    simp [entries, Entries.get?]
  have rules : Rule.listOfTree? (.ofJson (.arr (Rule.listToJson s.rules))) = some s.rules :=
    Rule.listOfTree?_listToJson fun r _ => r.ofTree?_toJson
  have pagination : Tree.optional? Pagination.ofTree? "pagination" (Tree.ofEntries s.entries) =
      some s.pagination :=
    Tree.optional?_field? (f := Pagination.toJson) (by simp [entries, Entries.get?])
      (fun p null => Json.noConfusion (null : Json.obj p.entries = .null))
      fun p h => Pagination.ofTree?_toJson (fits p h)
  show ofTree? (.ofJson (.obj s.entries)) = some s
  rw [ofTree?, Tree.record?_ofJson distinct]
  simp only [Option.bind_eq_bind, Option.bind_some]
  rw [Tree.required?_ofEntries (v := .str s.id) rfl, name, Tree.required?_ofEntries found, rules,
    pagination]
  rfl

theorem readsBack_toJson {s : Schema} (fits : s.Fits) :
    ∀ n ∈ s.toJson.numbers, Json.ReadsBack n := by
  have rules : Json.numbersOfItems (Rule.listToJson s.rules) = [] :=
    Rule.numbers_listToJson fun r _ => r.numbers_toJson
  have written : s.toJson.numbers = (s.pagination.map Pagination.toJson).elim [] Json.numbers := by
    show Json.numbersOfEntries s.entries = _
    unfold entries
    simp only [Json.numbersOfEntries_append, Json.numbersOfEntries_text]
    rw [Json.numbersOfEntries_field? "pagination"]
    simp [Json.numbersOfEntries, Json.numbers, rules]
  rw [written]
  cases policy : s.pagination with
  | none => exact List.forall_mem_nil _
  | some p => exact Pagination.readsBack_toJson (fits p policy)

theorem read_of_readTree? {s : Schema} (fits : s.Fits)
    (reads : Json.readTree? (s.write .json) = some (.ofJson s.toJson)) :
    read .json (s.write .json) = .ok s := by
  rw [read, treeOf?, reads, Option.bind_some, ofTree?_toJson fits]

/-- A schema is read from its written form, however deep its rules are nested, and from its text if
the text is read as the written form. Up to the depth that is read at all, it is. -/
theorem read_write {s : Schema} (fits : s.Fits) :
    ofTree? (.ofJson s.toJson) = some s ∧
      (Json.readTree? (s.write .json) = some (.ofJson s.toJson) →
        read .json (s.write .json) = .ok s) ∧
      (s.toJson.nesting ≤ Json.maxDepth → read .json (s.write .json) = .ok s) := by
  refine ⟨ofTree?_toJson fits, read_of_readTree? fits, fun shallow => ?_⟩
  exact read_of_readTree? fits (Json.readTree?_pretty (readsBack_toJson fits) shallow)

/-- Rules inside rules, empty texts, a policy without a limit, and the greatest waiting time. -/
theorem read_write_nested :
    let price : Rule := { Rule.ofKind "price" .text with
      id := "", selector := some "", transform := some .number, multiple := true }
    let tags : Rule := { Rule.ofKind "tags" .list with
      xpath := some "//li", regex := some "\\d\n", children := [price] }
    let items : Rule := { Rule.ofKind "" .list with
      optional := true, fallbackSelector := some "ul", children := [price, tags] }
    let policy : Pagination := { waitBetweenPages := some Json.max64 }
    let s : Schema := { id := "", rules := [items, price], pagination := some policy }
    ofTree? (.ofJson s.toJson) = some s ∧ read .json (s.write .json) = .ok s := by
  intro price tags items policy s
  have fits : s.Fits := by
    rintro p ⟨⟩
    exact ⟨nofun, fun n h => Nat.le_of_eq (Option.some.inj h).symm⟩
  have shallow : s.toJson.nesting ≤ Json.maxDepth := by decide
  obtain ⟨tree, text, -⟩ := read_write fits
  exact ⟨tree, text (Json.readTree?_pretty (readsBack_toJson fits) shallow)⟩

end Schema

end PageHarvest
