import PageHarvest.Flow.Condition
import PageHarvest.Proofs.Data.Tree

/-!
# Conditions read from trees

A condition that is read has every key of an object once. The written form of such a condition reads
as the condition again, but for one thing: an explicit null on the right of a comparison is written,
and read as no right side at all.

* `Condition.Closed`: what holds of all conditions that are read from a tree;
* `Condition.withoutNulls`: the condition that the written form denotes;
* `Condition.ofTreeIn?_toJson`: what is written is read as that.
-/

namespace PageHarvest

namespace Condition

open PageHarvest.Tree

/-! ## What holds of conditions that are read -/

theorem good_of_entries? {good : Tree → Prop} (hereditary : Hereditary good) {isInner : Bool}
    {t : Tree} {kind : String} {es : Entries Tree} (good_tree : good t)
    (read : entries? isInner t = some (kind, es)) : ∀ e ∈ es, good e.2 := by
  obtain ⟨_, _, read⟩ := Option.bind_eq_some_iff.1 read
  obtain ⟨_, _, read⟩ := Option.bind_eq_some_iff.1 read
  obtain ⟨es', read, ⟨⟩⟩ := Option.bind_eq_some_iff.1 read
  exact hereditary.of_taggedRecord? good_tree read

/-- What a property of conditions needs in order to hold of all that are read from good trees. -/
structure Closed (good : Tree → Prop) (P : Condition → Prop) : Prop where
  leaf : ∀ {kind es c}, (∀ e ∈ es, good e.2) → leaf? kind es = some c → P c
  compound : ∀ {logic members}, (∀ m ∈ members, P m) → P (.compound logic members)

namespace Closed

variable {good : Tree → Prop} {P : Condition → Prop}

/-- A condition with a kind and fields, whatever gives its members. -/
theorem of_fields (closed : Closed good P) (hereditary : Hereditary good) {isInner : Bool}
    {t : Tree} {c : Condition} {members? : Option (List Condition)} (good_tree : good t)
    (members : ∀ cs, members? = some cs → ∀ m ∈ cs, P m)
    (read : (match entries? isInner t with
      | some ("compound", es) => do
        let logic ← logic? es
        return .compound logic (← members?)
      | some (kind, es) => leaf? kind es
      | none => none) = some c) : P c := by
  split at read
  · obtain ⟨logic, _, read⟩ := Option.bind_eq_some_iff.1 read
    obtain ⟨cs, hcs, ⟨⟩⟩ := Option.bind_eq_some_iff.1 read
    exact closed.compound (members cs hcs)
  · rename_i fields
    exact closed.leaf (good_of_entries? hereditary good_tree fields) read
  · cases read

-- one theorem for each reader, since they call one another along the tree
mutual

theorem ofTreeIn? (closed : Closed good P) (hereditary : Hereditary good) {isInner : Bool}
    {t : Tree} {c : Condition} (good_tree : good t)
    (read : Condition.ofTreeIn? isInner t = some c) : P c := by
  cases t with
  | record entries =>
    rw [Condition.ofTreeIn?] at read
    refine closed.of_fields hereditary good_tree (fun _ => ?_) read
    exact membersIn? closed hereditary (hereditary.record good_tree)
  | keyed entries =>
    rw [Condition.ofTreeIn?] at read
    refine closed.of_fields hereditary good_tree (fun _ => ?_) read
    exact membersUnder? closed hereditary (hereditary.keyed good_tree)
  | list items =>
    rw [Condition.ofTreeIn?] at read
    refine closed.of_fields hereditary good_tree (fun _ => ?_) read
    exact membersAt? closed hereditary (hereditary.list good_tree)
  | null | truth | number | notFinite | text | plain | unread => cases read

theorem membersIn? (closed : Closed good P) (hereditary : Hereditary good)
    {entries : List (String × Tree)} {cs : List Condition} (good_trees : ∀ e ∈ entries, good e.2)
    (read : Condition.membersIn? entries = some cs) : ∀ c ∈ cs, P c := by
  cases entries with
  | nil =>
    cases read
    exact nofun
  | cons e rest =>
    obtain ⟨key, t⟩ := e
    obtain ⟨first, further⟩ := List.forall_mem_cons.1 good_trees
    rw [Condition.membersIn?] at read
    split at read
    · exact membersOf? closed hereditary first read
    · exact membersIn? closed hereditary further read

theorem membersUnder? (closed : Closed good P) (hereditary : Hereditary good)
    {entries : List (Tree × Tree)} {cs : List Condition} (good_trees : ∀ e ∈ entries, good e.2)
    (read : Condition.membersUnder? entries = some cs) : ∀ c ∈ cs, P c := by
  cases entries with
  | nil =>
    cases read
    exact nofun
  | cons e rest =>
    obtain ⟨key, t⟩ := e
    obtain ⟨first, further⟩ := List.forall_mem_cons.1 good_trees
    rw [Condition.membersUnder?] at read
    split at read
    · exact membersOf? closed hereditary first read
    · exact membersUnder? closed hereditary further read

theorem membersAt? (closed : Closed good P) (hereditary : Hereditary good) {n : Nat}
    {items : List Tree} {cs : List Condition} (good_trees : ∀ t ∈ items, good t)
    (read : Condition.membersAt? n items = some cs) : ∀ c ∈ cs, P c := by
  cases items with
  | nil =>
    cases n <;> cases read <;> exact nofun
  | cons t rest =>
    obtain ⟨first, further⟩ := List.forall_mem_cons.1 good_trees
    cases n with
    | zero => exact membersOf? closed hereditary first read
    | succ n => exact membersAt? closed hereditary further read

theorem membersOf? (closed : Closed good P) (hereditary : Hereditary good) {t : Tree}
    {cs : List Condition} (good_tree : good t) (read : Condition.membersOf? t = some cs) :
    ∀ c ∈ cs, P c := by
  cases t with
  | list items => exact allOfTree? closed hereditary (hereditary.list good_tree) read
  | null | truth | number | notFinite | text | plain | record | keyed | unread => cases read

theorem allOfTree? (closed : Closed good P) (hereditary : Hereditary good) {items : List Tree}
    {cs : List Condition} (good_trees : ∀ t ∈ items, good t)
    (read : Condition.allOfTree? items = some cs) : ∀ c ∈ cs, P c := by
  cases items with
  | nil =>
    cases read
    exact nofun
  | cons t rest =>
    obtain ⟨first, further⟩ := List.forall_mem_cons.1 good_trees
    rw [Condition.allOfTree?] at read
    obtain ⟨c, hc, read⟩ := Option.bind_eq_some_iff.1 read
    obtain ⟨cs', hcs, ⟨⟩⟩ := Option.bind_eq_some_iff.1 read
    exact List.forall_mem_cons.2 ⟨ofTreeIn? closed hereditary first hc,
      allOfTree? closed hereditary further hcs⟩

end

end Closed

variable {c : Condition} {left : Json} {op : Operator} {right : Option Json} {logic : Logic}
  {members : List Condition} {source kind : String} {t : Tree} {isInner : Bool}

/-- What a condition without members can be. -/
theorem leaf?_cases {es : Entries Tree} (read : leaf? kind es = some c) :
    (∃ left op right, c = .simple left (Operator.ofName op) right ∧
        required? value? "left" es = some left ∧ optional? value? "right" es = some right) ∨
      ∃ source, c = .expression source := by
  unfold leaf? at read
  split at read
  · obtain ⟨left, hleft, read⟩ := Option.bind_eq_some_iff.1 read
    obtain ⟨op, _, read⟩ := Option.bind_eq_some_iff.1 read
    obtain ⟨right, hright, made⟩ := Option.bind_eq_some_iff.1 read
    exact .inl ⟨left, op, right, (Option.some.inj made).symm, hleft, hright⟩
  · obtain ⟨source, _, made⟩ := Option.map_eq_some_iff.1 read
    exact .inr ⟨source, made.symm⟩
  · cases read

/-! ## Keys -/

theorem membersToJson_eq (members : List Condition) :
    membersToJson members = members.map toJson := by
  induction members with
  | nil => rfl
  | cons c rest ih => rw [membersToJson, ih, List.map_cons]

theorem wellFormed_simple :
    (toJson (.simple left op right)).WellFormed ↔
      left.WellFormed ∧ ∀ v, right = some v → v.WellFormed := by
  cases right with
  | none => simp [toJson, Json.field?, Json.wellFormed_obj, Entries.keys]
  | some v => simp [toJson, Json.field?, Json.wellFormed_obj, Entries.keys]

theorem wellFormed_compound :
    (toJson (.compound logic members)).WellFormed ↔ ∀ m ∈ members, m.toJson.WellFormed := by
  simp [toJson, membersToJson_eq, Json.wellFormed_obj, Entries.keys]

theorem wellFormed_expression : (toJson (.expression source)).WellFormed := by
  simp [toJson, Json.wellFormed_obj, Entries.keys]

theorem closed_wellFormed : Closed (fun _ => True) fun c => c.toJson.WellFormed where
  leaf _ read := by
    obtain ⟨left, op, right, rfl, hleft, hright⟩ | ⟨source, rfl⟩ := leaf?_cases read
    · exact wellFormed_simple.2 ⟨wellFormed_of_required? hleft, wellFormed_of_optional? hright⟩
    · exact wellFormed_expression
  compound := wellFormed_compound.2

theorem wellFormed_of_ofTreeIn? (read : ofTreeIn? isInner t = some c) : c.toJson.WellFormed :=
  closed_wellFormed.ofTreeIn? hereditary_true trivial read

/-! ## Explicit nulls -/

mutual

/-- The operators of the comparisons whose right side is an explicit null. -/
def nullTests : Condition → List Operator
  | .simple _ op right =>
    match right with
    | some .null => [op]
    | _ => []
  | .compound _ members => nullTestsOf members
  | .expression _ => []

def nullTestsOf : List Condition → List Operator
  | [] => []
  | c :: cs => c.nullTests ++ nullTestsOf cs

end

mutual

/-- The condition with every explicit null on a right side taken as missing. -/
def withoutNulls : Condition → Condition
  | .simple left op right => .simple left op (Json.present? right)
  | .compound logic members => .compound logic (withoutNullsOf members)
  | .expression source => .expression source

def withoutNullsOf : List Condition → List Condition
  | [] => []
  | c :: cs => c.withoutNulls :: withoutNullsOf cs

end

mutual

theorem withoutNulls_eq_self (c : Condition) : c.withoutNulls = c ↔ c.nullTests = [] := by
  cases c with
  | simple left op right =>
    rw [withoutNulls, Condition.simple.injEq, Json.present?_eq_self]
    unfold nullTests
    split <;> simp_all
  | expression source => simp [withoutNulls, nullTests]
  | compound logic members =>
    rw [withoutNulls, nullTests, Condition.compound.injEq, ← withoutNullsOf_eq_self members]
    simp

theorem withoutNullsOf_eq_self (cs : List Condition) :
    withoutNullsOf cs = cs ↔ nullTestsOf cs = [] := by
  cases cs with
  | nil => simp [withoutNullsOf, nullTestsOf]
  | cons c cs =>
    rw [withoutNullsOf, nullTestsOf, List.cons.injEq, withoutNulls_eq_self c,
      withoutNullsOf_eq_self cs, List.append_eq_nil_iff]

end

theorem nullTestsOf_eq_nil (nulls : ∀ c ∈ members, c.nullTests = []) :
    nullTestsOf members = [] := by
  induction members with
  | nil => rfl
  | cons c cs ih =>
    obtain ⟨first, further⟩ := List.forall_mem_cons.1 nulls
    rw [nullTestsOf, first, ih further, List.append_nil]

theorem closed_nullTests :
    Closed (fun t => ∃ j, t = .ofJson j) fun c => c.nullTests = [] where
  leaf values read := by
    obtain ⟨left, op, right, rfl, _, hright⟩ | ⟨source, rfl⟩ := leaf?_cases read
    · refine (withoutNulls_eq_self _).1 ?_
      rw [withoutNulls, present?_of_optional? values hright]
    · rfl
  compound nulls := nullTestsOf_eq_nil nulls

/-- A condition that is read from a value has no explicit null on a right side. -/
theorem nullTests_of_ofTreeIn? {j : Json} (read : ofTreeIn? isInner (.ofJson j) = some c) :
    c.nullTests = [] :=
  closed_nullTests.ofTreeIn? hereditary_ofJson ⟨j, rfl⟩ read

/-! ## Reading what is written -/

theorem ofName_name (op : Operator) : Operator.ofName op.name = op := by
  cases op <;> rfl

theorem ofName?_name (logic : Logic) : Logic.ofName? logic.name = some logic := by
  cases logic <;> rfl

theorem entries?_ofEntries {fields : List String} {rest : Entries Json}
    (known : fieldsOf? kind = some fields)
    (distinct : (Entries.keys (("type", Json.str kind) :: rest)).Nodup) :
    entries? isInner (.record (ofEntries (("type", .str kind) :: rest))) =
      some (kind, ofEntries (("type", .str kind) :: rest)) := by
  have kind_eq : kind? isInner (ofJson (.obj (("type", .str kind) :: rest))) = some kind := rfl
  have record_eq := taggedRecord?_ofJson distinct "type" fields
  rw [ofJson] at kind_eq record_eq
  rw [entries?, kind_eq, Option.bind_eq_bind, Option.bind_some, known, Option.bind_eq_bind,
    Option.bind_some, record_eq]
  rfl

theorem leaf?_simple (wf : (toJson (.simple left op right)).WellFormed) :
    leaf? "simple" (ofEntries (("type", .str "simple") :: ("left", left) ::
      ("operator", .str op.name) :: Json.field? "right" right)) =
        some (.simple left op (Json.present? right)) := by
  obtain ⟨left_wf, right_wf⟩ := wellFormed_simple.1 wf
  have right_read : optional? value? "right" (ofEntries (("type", .str "simple") ::
      ("left", left) :: ("operator", .str op.name) :: Json.field? "right" right)) =
        some (Json.present? right) := by
    cases right with
    | none => exact optional?_absent rfl
    | some v => exact optional?_value (v := v) rfl (right_wf v rfl)
  simp only [leaf?]
  rw [required?_ofEntries (v := left) rfl, value?_ofJson left_wf,
    required?_ofEntries (v := .str op.name) rfl, right_read]
  show some (Condition.simple left (Operator.ofName op.name) _) = _
  rw [ofName_name]

mutual

theorem ofTreeIn?_toJson (isInner : Bool) (c : Condition) (wf : c.toJson.WellFormed) :
    ofTreeIn? isInner (.ofJson c.toJson) = some c.withoutNulls := by
  cases c with
  | simple left op right =>
    have written : toJson (.simple left op right) = .obj (("type", .str "simple") ::
      ("left", left) :: ("operator", .str op.name) :: Json.field? "right" right) := rfl
    have distinct := (Json.wellFormed_obj.1 (written ▸ wf)).1
    rw [written, ofJson, ofTreeIn?, entries?_ofEntries rfl distinct]
    exact leaf?_simple wf
  | expression source =>
    rw [toJson, ofJson, ofTreeIn?, entries?_ofEntries rfl (Json.wellFormed_obj.1 wf).1]
    rfl
  | compound logic members =>
    have read := allOfTree?_membersToJson members (wellFormed_compound.1 wf)
    rw [toJson, ofJson, ofTreeIn?, entries?_ofEntries rfl (Json.wellFormed_obj.1 wf).1]
    have logic_read : logic? (ofEntries [("type", .str "compound"), ("logic", .str logic.name),
        ("conditions", .arr (membersToJson members))]) = some logic := by
      rw [logic?, required?_ofEntries (v := .str logic.name) rfl]
      exact ofName?_name logic
    have members_read : membersIn? (ofEntries [("type", .str "compound"),
        ("logic", .str logic.name), ("conditions", .arr (membersToJson members))]) =
          some (withoutNullsOf members) := read
    simp only [logic_read, members_read]
    rfl

theorem allOfTree?_membersToJson (cs : List Condition) (wf : ∀ c ∈ cs, c.toJson.WellFormed) :
    allOfTree? (ofItems (membersToJson cs)) = some (withoutNullsOf cs) := by
  cases cs with
  | nil => rfl
  | cons c cs =>
    obtain ⟨first, further⟩ := List.forall_mem_cons.1 wf
    rw [membersToJson, ofItems, allOfTree?, ofTreeIn?_toJson true c first,
      allOfTree?_membersToJson cs further]
    rfl

end

end Condition

end PageHarvest
