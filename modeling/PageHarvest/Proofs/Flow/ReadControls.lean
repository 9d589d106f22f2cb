import PageHarvest.Proofs.Flow.Loops
import PageHarvest.Proofs.Flow.NullTests
import PageHarvest.Proofs.Flow.ReadSteps
import PageHarvest.Yaml.Node

/-!
# Control steps read from trees

The written form of a control step, with an id, is a workflow step that reads as the control step
again. What may get lost is an explicit null where a value is optional. No such null is read from a
JSON value; a number that is not finite is read as one.

* `Control.ofTree?_eq_some_iff`: what a control step is read from;
* `Control.readable_of_ofTree?`, `Control.ofStep?_asStep`: what is read can be written and read;
* `Control.expand_withoutNulls`: when the nulls make no difference;
* `Control.ofStep?_toJson`: the way through a workflow step.
-/

namespace PageHarvest

/-- The object with a name set. -/
def Json.withEntry (j : Json) (name : String) (value : Json) : Json :=
  match j with
  | .obj entries => .obj (Entries.insert name value entries)
  | other => other

open PageHarvest.Tree

namespace Control

/-- Where the parts of a control step stand among its fields. -/
def ReadFrom (es : Entries Tree) : Control → Prop
  | branch condition thenSteps elseSteps =>
    required? (Condition.ofTreeIn? true) "condition" es = some condition ∧
      orDefault? Step.listOfTree? [] "thenSteps" es = some thenSteps ∧
      orDefault? Step.listOfTree? [] "elseSteps" es = some elseSteps
  | switch value cases default =>
    required? text? "switchValue" es = some value ∧
      orDefault? SwitchCase.listOfTree? [] "cases" es = some cases ∧
      orDefault? Step.listOfTree? [] "defaultCase" es = some default
  | repeatWhile condition body cap =>
    required? (Condition.ofTreeIn? true) "condition" es = some condition ∧
      orDefault? Step.listOfTree? [] "thenSteps" es = some body ∧
      optional? (nat? Json.max64) "maxIterations" es = some cap
  | countUp loopVar start stop step body cap =>
    optional? text? "loopVariable" es = some loopVar ∧
      optional? value? "loopStart" es = some start ∧
      optional? value? "loopEnd" es = some stop ∧
      optional? value? "loopStep" es = some step ∧
      orDefault? Step.listOfTree? [] "thenSteps" es = some body ∧
      optional? (nat? Json.max64) "maxIterations" es = some cap
  | forEach loopVar items body cap =>
    optional? text? "loopVariable" es = some loopVar ∧
      required? value? "loopItems" es = some items ∧
      orDefault? Step.listOfTree? [] "thenSteps" es = some body ∧
      optional? (nat? Json.max64) "maxIterations" es = some cap

theorem ofTree?_eq_some_iff {t : Tree} {c : Control} :
    ofTree? t = some c ↔
      (t.tag? "type").bind text? = some c.kind ∧ ∃ fields es, fieldsOf? c.kind = some fields ∧
        t.taggedRecord? "type" fields = some es ∧ c.ReadFrom es := by
  constructor
  · intro read
    obtain ⟨kind, tagged, read⟩ := Option.bind_eq_some_iff.1 read
    obtain ⟨fields, known, read⟩ := Option.bind_eq_some_iff.1 read
    obtain ⟨es, record, read⟩ := Option.bind_eq_some_iff.1 read
    dsimp only at read
    split at read
    · obtain ⟨condition, hcondition, read⟩ := Option.bind_eq_some_iff.1 read
      obtain ⟨thenSteps, hthen, read⟩ := Option.bind_eq_some_iff.1 read
      obtain ⟨elseSteps, helse, made⟩ := Option.bind_eq_some_iff.1 read
      obtain rfl := Option.some.inj made
      exact ⟨tagged, fields, es, known, record, hcondition, hthen, helse⟩
    · obtain ⟨value, hvalue, read⟩ := Option.bind_eq_some_iff.1 read
      obtain ⟨cases, hcases, read⟩ := Option.bind_eq_some_iff.1 read
      obtain ⟨default, hdefault, made⟩ := Option.bind_eq_some_iff.1 read
      obtain rfl := Option.some.inj made
      exact ⟨tagged, fields, es, known, record, hvalue, hcases, hdefault⟩
    · obtain ⟨condition, hcondition, read⟩ := Option.bind_eq_some_iff.1 read
      obtain ⟨body, hbody, read⟩ := Option.bind_eq_some_iff.1 read
      obtain ⟨cap, hcap, made⟩ := Option.bind_eq_some_iff.1 read
      obtain rfl := Option.some.inj made
      exact ⟨tagged, fields, es, known, record, hcondition, hbody, hcap⟩
    · obtain ⟨loopVar, hvar, read⟩ := Option.bind_eq_some_iff.1 read
      obtain ⟨start, hstart, read⟩ := Option.bind_eq_some_iff.1 read
      obtain ⟨stop, hstop, read⟩ := Option.bind_eq_some_iff.1 read
      obtain ⟨step, hstep, read⟩ := Option.bind_eq_some_iff.1 read
      obtain ⟨body, hbody, read⟩ := Option.bind_eq_some_iff.1 read
      obtain ⟨cap, hcap, made⟩ := Option.bind_eq_some_iff.1 read
      obtain rfl := Option.some.inj made
      exact ⟨tagged, fields, es, known, record, hvar, hstart, hstop, hstep, hbody, hcap⟩
    · obtain ⟨loopVar, hvar, read⟩ := Option.bind_eq_some_iff.1 read
      obtain ⟨items, hitems, read⟩ := Option.bind_eq_some_iff.1 read
      obtain ⟨body, hbody, read⟩ := Option.bind_eq_some_iff.1 read
      obtain ⟨cap, hcap, made⟩ := Option.bind_eq_some_iff.1 read
      obtain rfl := Option.some.inj made
      exact ⟨tagged, fields, es, known, record, hvar, hitems, hbody, hcap⟩
    · cases read
  · rintro ⟨tagged, fields, es, known, record, parts⟩
    rw [ofTree?, tagged, Option.bind_eq_bind, Option.bind_some, known, Option.bind_eq_bind,
      Option.bind_some, record]
    cases c with
    | branch condition thenSteps elseSteps =>
      obtain ⟨hcondition, hthen, helse⟩ := parts
      simp only [kind, Option.bind_eq_bind, Option.bind_some, hcondition, hthen, helse]
      rfl
    | switch value cases default =>
      obtain ⟨hvalue, hcases, hdefault⟩ := parts
      simp only [kind, Option.bind_eq_bind, Option.bind_some, hvalue, hcases, hdefault]
      rfl
    | repeatWhile condition body cap =>
      obtain ⟨hcondition, hbody, hcap⟩ := parts
      simp only [kind, Option.bind_eq_bind, Option.bind_some, hcondition, hbody, hcap]
      rfl
    | countUp loopVar start stop step body cap =>
      obtain ⟨hvar, hstart, hstop, hstep, hbody, hcap⟩ := parts
      simp only [kind, Option.bind_eq_bind, Option.bind_some, hvar, hstart, hstop, hstep, hbody,
        hcap]
      rfl
    | forEach loopVar items body cap =>
      obtain ⟨hvar, hitems, hbody, hcap⟩ := parts
      simp only [kind, Option.bind_eq_bind, Option.bind_some, hvar, hitems, hbody, hcap]
      rfl


/-! ## What is read -/

/-- The most rounds that a step names itself. -/
def cap? : Control → Option Nat
  | branch .. | switch .. => none
  | repeatWhile _ _ cap | countUp _ _ _ _ _ cap | forEach _ _ _ cap => cap

/-- Every step that is read is such, and the written form of such a step can be read. -/
structure Readable (c : Control) : Prop where
  wellFormed : c.toJson.WellFormed
  cap_le : ∀ n, c.cap? = some n → n ≤ Json.max64

/-- The step with every explicit null that stands for an optional value taken as missing: on the
right side of a comparison, and at a bound of a counting loop. -/
def withoutNulls : Control → Control
  | branch condition thenSteps elseSteps => .branch condition.withoutNulls thenSteps elseSteps
  | switch value cases default => .switch value cases default
  | repeatWhile condition body cap => .repeatWhile condition.withoutNulls body cap
  | countUp loopVar start stop step body cap =>
    .countUp loopVar (Json.present? start) (Json.present? stop) (Json.present? step) body cap
  | forEach loopVar items body cap => .forEach loopVar items body cap

/-- The operators of the comparisons to an explicit null in the condition of a step. -/
def nullTests : Control → List Operator
  | branch condition .. | repeatWhile condition .. => condition.nullTests
  | switch .. | countUp .. | forEach .. => []

/-- The bounds of a counting loop. -/
def bounds : Control → List (Option Json)
  | countUp _ start stop step .. => [start, stop, step]
  | branch .. | switch .. | repeatWhile .. | forEach .. => []

theorem withoutNulls_eq_self (c : Control) :
    c.withoutNulls = c ↔ c.nullTests = [] ∧ some .null ∉ c.bounds := by
  cases c with
  | branch | repeatWhile =>
    simp [withoutNulls, nullTests, bounds, Condition.withoutNulls_eq_self]
  | switch | forEach => simp [withoutNulls, nullTests, bounds]
  | countUp =>
    simp [withoutNulls, nullTests, bounds, Json.present?_eq_self, @eq_comm _ (some Json.null)]

section

variable {condition : Condition} {thenSteps elseSteps default body : List Step} {value : String}
  {cases : List SwitchCase} {loopVar : Option String} {start stop step : Option Json} {items : Json}
  {cap : Option Nat}

theorem wellFormed_branch :
    (toJson (.branch condition thenSteps elseSteps)).WellFormed ↔
      condition.toJson.WellFormed ∧ (Step.listToJson thenSteps).WellFormed ∧
        (Step.listToJson elseSteps).WellFormed := by
  simp [toJson, Json.wellFormed_obj, Entries.keys]

theorem wellFormed_switch :
    (toJson (.switch value cases default)).WellFormed ↔
      (∀ c ∈ cases, c.toJson.WellFormed) ∧ (Step.listToJson default).WellFormed := by
  simp [toJson, Json.wellFormed_obj, Entries.keys]

theorem wellFormed_repeatWhile :
    (toJson (.repeatWhile condition body cap)).WellFormed ↔
      condition.toJson.WellFormed ∧ (Step.listToJson body).WellFormed := by
  simp [toJson, Json.wellFormed_obj, Entries.keys]

theorem wellFormed_countUp :
    (toJson (.countUp loopVar start stop step body cap)).WellFormed ↔
      (∀ v, start = some v → v.WellFormed) ∧ (∀ v, stop = some v → v.WellFormed) ∧
        (∀ v, step = some v → v.WellFormed) ∧ (Step.listToJson body).WellFormed := by
  simp [toJson, Json.wellFormed_obj, Entries.keys]

theorem wellFormed_forEach :
    (toJson (.forEach loopVar items body cap)).WellFormed ↔
      items.WellFormed ∧ (Step.listToJson body).WellFormed := by
  simp [toJson, Json.wellFormed_obj, Entries.keys]

end

section

variable {es : Entries Tree} {name : String}

theorem wellFormed_of_condition {condition : Condition}
    (read : required? (Condition.ofTreeIn? true) name es = some condition) :
    condition.toJson.WellFormed := by
  obtain ⟨_, _, read⟩ := of_required? read
  exact Condition.wellFormed_of_ofTreeIn? read

theorem le_of_cap {limit : Nat} {cap : Option Nat}
    (read : optional? (nat? limit) name es = some cap) : ∀ n, cap = some n → n ≤ limit := by
  rintro n rfl
  obtain ⟨_, _, _, read⟩ := of_optional? read
  exact nat?_le read

end

variable {c : Control} {t : Tree} {id : String}

theorem readable_of_ofTree? (read : ofTree? t = some c) : c.Readable := by
  obtain ⟨_, _, es, _, _, parts⟩ := ofTree?_eq_some_iff.1 read
  cases c with
  | branch condition thenSteps elseSteps =>
    obtain ⟨hcondition, hthen, helse⟩ := parts
    exact ⟨wellFormed_branch.2 ⟨wellFormed_of_condition hcondition, Step.wellFormed_of_steps hthen,
      Step.wellFormed_of_steps helse⟩, nofun⟩
  | switch value cases default =>
    obtain ⟨_, hcases, hdefault⟩ := parts
    refine ⟨wellFormed_switch.2 ⟨?_, Step.wellFormed_of_steps hdefault⟩, nofun⟩
    obtain rfl | ⟨_, _, hcases⟩ := of_orDefault? hcases
    · exact nofun
    · exact SwitchCase.wellFormed_of_listOfTree? hcases
  | repeatWhile condition body cap =>
    obtain ⟨hcondition, hbody, hcap⟩ := parts
    exact ⟨wellFormed_repeatWhile.2 ⟨wellFormed_of_condition hcondition,
      Step.wellFormed_of_steps hbody⟩, le_of_cap hcap⟩
  | countUp loopVar start stop step body cap =>
    obtain ⟨_, hstart, hstop, hstep, hbody, hcap⟩ := parts
    exact ⟨wellFormed_countUp.2 ⟨wellFormed_of_optional? hstart, wellFormed_of_optional? hstop,
      wellFormed_of_optional? hstep, Step.wellFormed_of_steps hbody⟩, le_of_cap hcap⟩
  | forEach loopVar items body cap =>
    obtain ⟨_, hitems, hbody, hcap⟩ := parts
    exact ⟨wellFormed_forEach.2 ⟨wellFormed_of_required? hitems, Step.wellFormed_of_steps hbody⟩,
      le_of_cap hcap⟩

/-- A step that is read from a value has no explicit null to lose. -/
theorem withoutNulls_of_ofJson? {j : Json} (read : ofJson? j = some c) : c.withoutNulls = c := by
  obtain ⟨_, _, es, _, record, parts⟩ := ofTree?_eq_some_iff.1 read
  have values := hereditary_ofJson.of_taggedRecord? ⟨j, rfl⟩ record
  have same {name : String} {condition : Condition}
      (read : required? (Condition.ofTreeIn? true) name es = some condition) :
      condition.withoutNulls = condition := by
    obtain ⟨_, field, read⟩ := of_required? read
    obtain ⟨_, rfl⟩ := values _ field
    exact (Condition.withoutNulls_eq_self _).2 (Condition.nullTests_of_ofTreeIn? read)
  cases c with
  | branch condition thenSteps elseSteps => rw [withoutNulls, same parts.1]
  | switch value cases default => rfl
  | repeatWhile condition body cap => rw [withoutNulls, same parts.1]
  | countUp loopVar start stop step body cap =>
    obtain ⟨_, hstart, hstop, hstep, _⟩ := parts
    rw [withoutNulls, present?_of_optional? values hstart, present?_of_optional? values hstop,
      present?_of_optional? values hstep]
  | forEach loopVar items body cap => rfl

/-! ## What is written -/

/-- The written form behind the kind. -/
def fields (c : Control) : Entries Json :=
  match c.toJson with
  | .obj (_ :: rest) => rest
  | _ => []

theorem toJson_eq (c : Control) : c.toJson = .obj (("type", .str c.kind) :: c.fields) := by
  cases c <;> rfl

theorem fieldsOf?_kind (c : Control) : fieldsOf? c.kind = some c.fields.keys := by
  cases c <;> rfl

theorem kind_withoutNulls (c : Control) : c.withoutNulls.kind = c.kind := by
  cases c <;> rfl

theorem isKind_kind (c : Control) : isKind c.kind = true := by
  cases c <;> rfl

theorem others_fields (c : Control) : Step.others c.fields = c.fields := by
  cases c <;> rfl

/-- The step among the workflow steps. -/
def asStep (id : String) (c : Control) : Step := ⟨id, c.kind, c.fields⟩

theorem wellFormed_asStep (wf : c.toJson.WellFormed) : (c.asStep id).toJson.WellFormed := by
  rw [toJson_eq, Json.wellFormed_obj] at wf
  obtain ⟨distinct, values⟩ := wf
  refine Step.wellFormed_iff.2 ⟨(List.nodup_cons.1 distinct).2, fun e he => ?_⟩
  have kept : e ∈ Step.others c.fields := (others_fields c).symm ▸ he
  obtain ⟨no_id, no_type⟩ := Bool.and_eq_true_iff.1 (List.mem_filter.1 kept).2
  exact ⟨bne_iff_ne.1 no_id, bne_iff_ne.1 no_type, values e (List.mem_cons_of_mem _ he)⟩

theorem readFrom_entries (readable : c.Readable) :
    c.withoutNulls.ReadFrom (ofEntries (c.asStep id).entries) := by
  have number {cap : Option Nat} (le : ∀ n, cap = some n → n ≤ Json.max64) (n : Nat)
      (named : cap = some n) : nat? Json.max64 (ofJson (Json.int n)) = some n :=
    Number.nat?_int (le n named)
  have text {name : Option String} (s : String) (_ : name = some s) :
      text? (ofJson (.str s)) = some s := rfl
  obtain ⟨wf, cap_le⟩ := readable
  cases c with
  | branch condition thenSteps elseSteps =>
    obtain ⟨condition_wf, then_wf, else_wf⟩ := wellFormed_branch.1 wf
    refine ⟨?_, ?_, ?_⟩
    · exact (required?_ofEntries rfl).trans (Condition.ofTreeIn?_toJson true condition condition_wf)
    · exact (orDefault?_ofEntries rfl).trans (Step.listOfTree?_toJson then_wf)
    · exact (orDefault?_ofEntries rfl).trans (Step.listOfTree?_toJson else_wf)
  | switch value cases default =>
    obtain ⟨cases_wf, default_wf⟩ := wellFormed_switch.1 wf
    refine ⟨required?_ofEntries (v := .str value) rfl, ?_, ?_⟩
    · exact (orDefault?_ofEntries rfl).trans (SwitchCase.listOfTree?_toJson cases_wf)
    · exact (orDefault?_ofEntries rfl).trans (Step.listOfTree?_toJson default_wf)
  | repeatWhile condition body cap =>
    obtain ⟨condition_wf, body_wf⟩ := wellFormed_repeatWhile.1 wf
    refine ⟨?_, ?_, ?_⟩
    · exact (required?_ofEntries rfl).trans (Condition.ofTreeIn?_toJson true condition condition_wf)
    · exact (orDefault?_ofEntries rfl).trans (Step.listOfTree?_toJson body_wf)
    · exact optional?_ofOption rfl nofun (number cap_le)
  | countUp loopVar start stop step body cap =>
    obtain ⟨start_wf, stop_wf, step_wf, body_wf⟩ := wellFormed_countUp.1 wf
    refine ⟨optional?_ofOption rfl nofun text, optional?_ofOption_value rfl start_wf,
      optional?_ofOption_value rfl stop_wf, optional?_ofOption_value rfl step_wf, ?_, ?_⟩
    · exact (orDefault?_ofEntries rfl).trans (Step.listOfTree?_toJson body_wf)
    · exact optional?_ofOption rfl nofun (number cap_le)
  | forEach loopVar items body cap =>
    obtain ⟨items_wf, body_wf⟩ := wellFormed_forEach.1 wf
    refine ⟨optional?_ofOption rfl nofun text, ?_, ?_, ?_⟩
    · exact (required?_ofEntries rfl).trans (value?_ofJson items_wf)
    · exact (orDefault?_ofEntries rfl).trans (Step.listOfTree?_toJson body_wf)
    · exact optional?_ofOption rfl nofun (number cap_le)

theorem ofStep?_asStep (readable : c.Readable) : ofStep? (c.asStep id) = some c.withoutNulls := by
  have wf : (c.asStep id).toJson.WellFormed := wellFormed_asStep readable.wellFormed
  have distinct := (Json.wellFormed_obj.1 wf).1
  have record := taggedRecord?_ofJson distinct "type" c.fields.keys
  rw [ofStep?, if_pos (show isKind (c.asStep id).type = true from isKind_kind c)]
  refine ofTree?_eq_some_iff.2 ⟨?_, c.fields.keys, _, ?_, record, readFrom_entries readable⟩
  · rw [kind_withoutNulls]
    rfl
  · rw [kind_withoutNulls, fieldsOf?_kind]

/-- The written form with an id reads as the workflow step. -/
theorem ofJson?_withId (wf : c.toJson.WellFormed) :
    Step.ofJson? (c.toJson.withEntry "id" (.str id)) = some (c.asStep id) := by
  let written : Entries Json := ("type", .str c.kind) :: c.fields
  rw [toJson_eq] at wf ⊢
  obtain ⟨distinct, values⟩ := Json.wellFormed_obj.1 wf
  have with_id : (Json.obj (Entries.insert "id" (.str id) written)).WellFormed := by
    refine Json.wellFormed_obj.2 ⟨Entries.nodup_keys_insert distinct _ _, fun e he => ?_⟩
    obtain rfl | he := Entries.mem_of_mem_insert he
    · exact Json.wellFormed_str
    · exact values e he
  have others : Step.others (Entries.insert "id" (.str id) written) = c.fields :=
    (Entries.filter_insert (fun key => key != "id" && key != "type") ..).trans (others_fields c)
  rw [Json.withEntry, Step.ofJson?_obj_of_wellFormed with_id, others, Entries.get?_insert,
    Entries.get?_insert]
  rfl

/-! ## Nulls that make no difference -/

theorem expandWhile_congr {condition other : Condition}
    (same : ∀ context, other.evaluate context = condition.evaluate context) (body : List Step)
    (cap : Nat) (start : Context) :
    expandWhile other body cap 0 start = expandWhile condition body cap 0 start := by
  have loops : Loop.conditional start other body = Loop.conditional start condition body := by
    simp only [Loop.conditional, same]
  rw [expandWhile_eq, expandWhile_eq, loops]

theorem bound_present? (context : Context) (raw : Option Json) (default : Float) :
    bound context (Json.present? raw) default = bound context raw default := by
  match raw with
  | none | some .null => rfl
  | some (.bool _) | some (.num _) | some (.str _) | some (.arr _) | some (.obj _) => rfl

theorem expand_withoutNulls (quiet : ∀ op ∈ c.nullTests, op.tellsNull = false) (caps : LoopCaps)
    (start : Context) : c.withoutNulls.expand caps start = c.expand caps start := by
  cases c with
  | branch condition thenSteps elseSteps =>
    simp only [withoutNulls, expand, Condition.evaluate_withoutNulls _ condition quiet]
  | repeatWhile condition body cap =>
    exact expandWhile_congr (fun context => Condition.evaluate_withoutNulls context condition quiet)
      body _ start
  | countUp loopVar first stop step body cap => simp only [withoutNulls, expand, bound_present?]
  | switch value cases default => rfl
  | forEach loopVar items body cap => rfl

/-! ## The way through a workflow step -/

/-- A control step that is read, written with an id and read as a workflow step is the control step
again, but for its explicit nulls, and expands to the same unless a comparison tells such a null
from a missing value. A control step that is read from a value has no such nulls. A workflow step
has the id, the type and then all other fields of the object that it is read from, as they are and
in their order. -/
theorem ofStep?_toJson (t : Tree) (c : Control) (id : String) (read : ofTree? t = some c) :
    let back? := (Step.ofJson? (c.toJson.withEntry "id" (.str id))).bind ofStep?
    back? = some c.withoutNulls ∧
      (back? = some c ↔ c.nullTests = [] ∧ some .null ∉ c.bounds) ∧
      ((∃ j, t = .ofJson j) → back? = some c) ∧
      ((∀ op ∈ c.nullTests, op.tellsNull = false) →
        ∀ caps start, c.withoutNulls.expand caps start = c.expand caps start) ∧
      ∀ (j : Json) (entries : Entries Json) (s : Step), j.collapse = .obj entries →
        Step.ofJson? j = some s →
          entries.get? "id" = some (.str s.id) ∧ entries.get? "type" = some (.str s.type) ∧
            s.toJson = .obj (("id", .str s.id) :: ("type", .str s.type) ::
              entries.filter fun e => e.1 != "id" && e.1 != "type") := by
  intro back?
  have readable := readable_of_ofTree? read
  have back : back? = some c.withoutNulls := by
    show (Step.ofJson? _).bind ofStep? = _
    rw [ofJson?_withId readable.wellFormed, Option.bind_some, ofStep?_asStep readable]
  refine ⟨back, ?_, ?_, expand_withoutNulls, ?_⟩
  · rw [back, Option.some.injEq, withoutNulls_eq_self]
  · rintro ⟨j, rfl⟩
    rw [back, withoutNulls_of_ofJson? read]
  · intro j entries s merged read
    obtain ⟨id, type, params⟩ := Step.of_ofJson? read merged
    exact ⟨id, type, by rw [Step.toJson, Step.entries, params, Step.others]⟩

/-- A step in YAML that compares to a number that is not finite loses the null that it is read as. A
loop in JSON is read again with the step inside it, null and all. -/
theorem ofStep?_toJson_not_finite :
    let yaml := Yaml.Node.record [(.scalar true "type", .scalar true "while"),
      (.scalar true "condition", .record [(.scalar true "type", .scalar true "simple"),
        (.scalar true "left", .scalar true "x"), (.scalar true "operator", .scalar true "equals"),
        (.scalar true "right", .scalar true ".nan")]),
      (.scalar true "maxIterations", .scalar true "3")]
    let compared (right : Option Json) := repeatWhile (.simple (.str "x") .equals right) [] (some 3)
    let inner : Json := .obj [("id", .str "b"), ("type", .str "click"), ("at", .arr [.null])]
    let json : Json := .obj [("type", .str "forEach"), ("id", .str "a"),
      ("loopItems", .str "$\x7bxs\x7d"), ("thenSteps", .arr [inner])]
    let step : Step := ⟨"a", "forEach",
      [("loopItems", .str "$\x7bxs\x7d"), ("thenSteps", .arr [inner])]⟩
    let loop := forEach none (.str "$\x7bxs\x7d") [⟨"b", "click", [("at", .arr [.null])]⟩] none
    ((yaml.settle?.bind ofTree? = some (compared (some .null)) ∧
        (Step.ofJson? ((compared (some .null)).toJson.withEntry "id" (.str "a"))).bind ofStep? =
          some (compared none)) ∧
      (ofJson? json = some loop ∧
        (Step.ofJson? (loop.toJson.withEntry "id" (.str "a"))).bind ofStep? = some loop)) ∧
      (Step.ofJson? json = some step ∧
        step.toJson = .obj [("id", .str "a"), ("type", .str "forEach"),
          ("loopItems", .str "$\x7bxs\x7d"), ("thenSteps", .arr [inner])]) := by
  intro yaml compared inner json step loop
  have yaml_read : yaml.settle?.bind ofTree? = some (compared (some .null)) := by rfl
  have loop_read : ofJson? json = some loop := by rfl
  have step_read : Step.ofJson? json = some step := by rfl
  obtain ⟨t, _, tree_read⟩ := Option.bind_eq_some_iff.1 yaml_read
  obtain ⟨lost, _⟩ := ofStep?_toJson t (compared (some .null)) "a" tree_read
  obtain ⟨_, _, kept, _, fields⟩ := ofStep?_toJson (.ofJson json) loop "a" loop_read
  refine ⟨⟨⟨yaml_read, lost⟩, loop_read, kept ⟨json, rfl⟩⟩, step_read, ?_⟩
  exact (fields json _ step rfl step_read).2.2

end Control

end PageHarvest
