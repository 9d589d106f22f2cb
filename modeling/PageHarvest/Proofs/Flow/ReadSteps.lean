import PageHarvest.Flow.Step
import PageHarvest.Proofs.Data.Tree

/-!
# Workflow steps read from trees

A step that is read is an object with its id and type in front and all its other fields behind, as
they are and in their order. So it can be written and read again without a change.

* `Step.ofJson?_obj`, `Step.of_ofJson?`: what a step keeps of the object that it is read from;
* `Step.ofJson?_toJson`, `SwitchCase.ofTree?_toJson`: what is written reads as the same.
-/

namespace PageHarvest

open PageHarvest.Tree

namespace Step

variable {s : Step} {steps : List Step} {entries : Entries Json} {t : Tree}

theorem wellFormed_iff :
    s.toJson.WellFormed ↔
      s.params.keys.Nodup ∧ ∀ e ∈ s.params, e.1 ≠ "id" ∧ e.1 ≠ "type" ∧ e.2.WellFormed := by
  have keys : s.entries.keys = "id" :: "type" :: s.params.keys := rfl
  have absent (name : String) : name ∉ s.params.keys ↔ ∀ e ∈ s.params, e.1 ≠ name := by
    simp only [Entries.keys, List.mem_map, not_exists, not_and, ne_eq]
  rw [toJson, Json.wellFormed_obj, keys, List.nodup_cons, List.nodup_cons, List.mem_cons, absent,
    not_or, absent, Step.entries, List.forall_mem_cons, List.forall_mem_cons]
  constructor
  · rintro ⟨⟨⟨_, no_id⟩, no_type, distinct⟩, _, _, values⟩
    exact ⟨distinct, fun e he => ⟨no_id e he, no_type e he, values e he⟩⟩
  · rintro ⟨distinct, others⟩
    exact ⟨⟨⟨by decide, fun e he => (others e he).1⟩, fun e he => (others e he).2.1, distinct⟩,
      trivial, trivial, fun e he => (others e he).2.2⟩

/-- The fields of an object that stay with a step as they are. -/
def others (entries : Entries Json) : Entries Json :=
  entries.filter fun e => e.1 != "id" && e.1 != "type"

/-- The parameters of a step are the other fields of the object that it is read from. -/
theorem ofJson?_obj
    (once : ∀ f ∈ ["id", "type"], (entries.filter fun e => e.1 == f).length ≤ 1) :
    ofJson? (.obj entries) = do
      let id ← (entries.get? "id").bind Json.text?
      let type ← (entries.get? "type").bind Json.text?
      return ⟨id, type, others (Entries.ofList (Json.collapseEntries entries))⟩ := by
  have text (name : String) : required? text? name (ofEntries entries) =
      (entries.get? name).bind Json.text? := by
    rw [required?, get?_ofEntries, Option.bind_map]
    exact congrArg _ (funext text?_ofJson)
  have params : ((ofEntries entries).filter fun e => e.1 != "id" && e.1 != "type").mapM
      (fun e => e.2.value?.map (e.1, ·)) = some (others (Json.collapseEntries entries)) := by
    rw [others, ofEntries_eq, Json.collapseEntries_eq, List.filter_map, List.filter_map]
    exact mapM_map_eq fun e _ => congrArg (Option.map _) (value?_eq_collapse e.2)
  have filled : Entries.ofList (others (Json.collapseEntries entries)) =
      others (Entries.ofList (Json.collapseEntries entries)) :=
    Entries.ofList_filter (fun key => key != "id" && key != "type") _
  rw [ofJson?, ofJson, ofTree?, if_pos (noneRepeated_ofEntries.2 once)]
  simp only [text, params, Option.bind_eq_bind, Option.bind_some, filled]

theorem ofJson?_obj_of_wellFormed (wf : (Json.obj entries).WellFormed) :
    ofJson? (.obj entries) = do
      let id ← (entries.get? "id").bind Json.text?
      let type ← (entries.get? "type").bind Json.text?
      return ⟨id, type, others entries⟩ := by
  have own : Entries.ofList (Json.collapseEntries entries) = entries :=
    Json.obj.inj (Json.collapse_of_wellFormed wf)
  have once := noneRepeated_ofEntries.1
    (noneRepeated_of_nodup (keys_ofEntries entries ▸ (Json.wellFormed_obj.1 wf).1) ["id", "type"])
  rw [ofJson?_obj once, own]

/-- A step keeps all fields of the object that it is read from. -/
theorem of_ofJson? {j : Json} (read : ofJson? j = some s) (merged : j.collapse = .obj entries) :
    entries.get? "id" = some (.str s.id) ∧ entries.get? "type" = some (.str s.type) ∧
      s.params = others entries := by
  cases j with
  | null | bool | num | str | arr => simp [Json.collapse] at merged
  | obj raw =>
    have once : ∀ f ∈ ["id", "type"], (raw.filter fun e => e.1 == f).length ≤ 1 := by
      refine noneRepeated_ofEntries.1 (Bool.of_not_eq_false fun repeated => ?_)
      rw [ofJson?, ofJson, ofTree?, repeated] at read
      cases read
    have field {f text : String} (named : f ∈ ["id", "type"])
        (found : (Entries.get? f raw).bind Json.text? = some text) :
        entries.get? f = some (.str text) := by
      obtain ⟨v, found, is_text⟩ := Option.bind_eq_some_iff.1 found
      obtain rfl := Json.text?_eq_some.1 is_text
      rw [← Json.obj.inj merged, Json.collapseEntries_eq, Entries.get?_ofList_of_once,
        Entries.get?_map, found]
      · rfl
      · rw [Entries.length_filter_map]
        exact once f named
    rw [ofJson?_obj once] at read
    obtain ⟨id, hid, read⟩ := Option.bind_eq_some_iff.1 read
    obtain ⟨type, htype, made⟩ := Option.bind_eq_some_iff.1 read
    obtain rfl := Option.some.inj made
    exact ⟨field (by simp) hid, field (by simp) htype, congrArg others (Json.obj.inj merged)⟩

theorem wellFormed_of_ofTree? (read : ofTree? t = some s) : s.toJson.WellFormed := by
  unfold ofTree? at read
  split at read
  · rename_i entries
    split at read
    · obtain ⟨id, _, read⟩ := Option.bind_eq_some_iff.1 read
      obtain ⟨type, _, read⟩ := Option.bind_eq_some_iff.1 read
      obtain ⟨params, hparams, made⟩ := Option.bind_eq_some_iff.1 read
      cases made
      refine wellFormed_iff.2 ⟨Entries.nodup_keys_ofList params, fun e he => ?_⟩
      obtain ⟨e', he', value⟩ := exists_of_mem_mapM hparams (Entries.mem_of_mem_ofList he)
      obtain ⟨v, hv, rfl⟩ := Option.map_eq_some_iff.1 value
      obtain ⟨no_id, no_type⟩ := Bool.and_eq_true_iff.1 (List.mem_filter.1 he').2
      exact ⟨bne_iff_ne.1 no_id, bne_iff_ne.1 no_type, wellFormed_of_value? hv⟩
    · cases read
  · cases read

theorem ofJson?_toJson (wf : s.toJson.WellFormed) : ofJson? s.toJson = some s := by
  have params : others s.entries = s.params := by
    show others s.params = s.params
    refine List.filter_eq_self.2 fun e he => ?_
    obtain ⟨no_id, no_type, _⟩ := (wellFormed_iff.1 wf).2 e he
    rw [bne_iff_ne.2 no_id, bne_iff_ne.2 no_type]
    rfl
  rw [toJson, ofJson?_obj_of_wellFormed wf, params]
  rfl

theorem wellFormed_listToJson :
    (listToJson steps).WellFormed ↔ ∀ s ∈ steps, s.toJson.WellFormed := by
  simp [listToJson]

theorem listOfTree?_toJson (wf : (listToJson steps).WellFormed) :
    listOfTree? (.ofJson (listToJson steps)) = some steps := by
  rw [listToJson, ofJson, listOfTree?, ofItems_eq, List.map_map]
  exact mapM_map_eq_some fun s hs => ofJson?_toJson (wellFormed_listToJson.1 wf s hs)

theorem wellFormed_of_listOfTree? (read : listOfTree? t = some steps) :
    (listToJson steps).WellFormed := by
  unfold listOfTree? at read
  split at read
  · refine wellFormed_listToJson.2 fun s hs => ?_
    obtain ⟨_, _, read⟩ := exists_of_mem_mapM read hs
    exact wellFormed_of_ofTree? read
  · cases read

theorem wellFormed_of_steps {es : Entries Tree} {name : String}
    (read : orDefault? listOfTree? [] name es = some steps) : (listToJson steps).WellFormed := by
  obtain rfl | ⟨_, _, read⟩ := of_orDefault? read
  · exact wellFormed_listToJson.2 nofun
  · exact wellFormed_of_listOfTree? read

end Step

namespace SwitchCase

variable {c : SwitchCase} {cases : List SwitchCase} {t : Tree}

theorem wellFormed_iff :
    c.toJson.WellFormed ↔ c.value.WellFormed ∧ (Step.listToJson c.steps).WellFormed := by
  simp [toJson, Json.wellFormed_obj, Entries.keys]

theorem ofTree?_toJson (wf : c.toJson.WellFormed) : ofTree? (.ofJson c.toJson) = some c := by
  obtain ⟨value, steps⟩ := wellFormed_iff.1 wf
  rw [toJson, ofTree?, record?_ofJson (Json.wellFormed_obj.1 wf).1, Option.bind_eq_bind,
    Option.bind_some, required?_ofEntries (v := c.value) rfl, value?_ofJson value,
    orDefault?_ofEntries (v := Step.listToJson c.steps) rfl, Step.listOfTree?_toJson steps]
  rfl

theorem wellFormed_of_ofTree? (read : ofTree? t = some c) : c.toJson.WellFormed := by
  obtain ⟨es, _, read⟩ := Option.bind_eq_some_iff.1 read
  obtain ⟨value, hvalue, read⟩ := Option.bind_eq_some_iff.1 read
  obtain ⟨steps, hsteps, made⟩ := Option.bind_eq_some_iff.1 read
  obtain rfl := Option.some.inj made
  exact wellFormed_iff.2 ⟨wellFormed_of_required? hvalue, Step.wellFormed_of_steps hsteps⟩

theorem listOfTree?_toJson (wf : ∀ c ∈ cases, c.toJson.WellFormed) :
    listOfTree? (.ofJson (.arr (cases.map toJson))) = some cases := by
  rw [ofJson, listOfTree?, ofItems_eq, List.map_map]
  exact mapM_map_eq_some fun c hc => ofTree?_toJson (wf c hc)

theorem wellFormed_of_listOfTree? (read : listOfTree? t = some cases) :
    ∀ c ∈ cases, c.toJson.WellFormed := by
  unfold listOfTree? at read
  split at read
  · intro c hc
    obtain ⟨_, _, read⟩ := exists_of_mem_mapM read hc
    exact wellFormed_of_ofTree? read
  · cases read

end SwitchCase

end PageHarvest
