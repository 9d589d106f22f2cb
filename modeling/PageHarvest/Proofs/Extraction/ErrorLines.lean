import PageHarvest.Proofs.Css.Lexing
import PageHarvest.Proofs.Extraction.Results
import PageHarvest.Proofs.Schema.Nesting

/-!
# The lines among the errors of a result

An error of a result is a line of text. `ErrorLine` has what such a line says: the rule on top that
failed, or the field of an item of a list, and the fault. With names as the check wants them a line
can be taken apart again: what stands in front of the first mark is one name only.

* `errorsFor_iff`: under which name a line is found;
* `itemHead_iff`: the place of the field at the beginning of a line.
-/

namespace PageHarvest

open Text

/-- How the error on a field of an item of a list begins. -/
def itemHead (list : String) (i : Nat) (field : String) : String :=
  list ++ "[" ++ toString i ++ "]." ++ field ++ ": "

/-- What an error of a result says. -/
inductive ErrorLine
  | rule (r : Rule) (f : Fault)
  | item (list : Rule) (i : Nat) (child : Rule) (f : Fault)

namespace ErrorLine

def text : ErrorLine → String
  | rule r f => r.name ++ ": " ++ f.message
  | item list i child f => itemHead list.name i child.name ++ f.message

/-- The rule whose name stands first. -/
def subject : ErrorLine → Rule
  | rule r _ => r
  | item list _ _ _ => list

/-- The rule that failed. -/
def failed : ErrorLine → Rule
  | rule r _ => r
  | item _ _ child _ => child

def fault : ErrorLine → Fault
  | rule _ f | item _ _ _ f => f

end ErrorLine

/-! ## Names and marks -/

/-- A character of a usual name. -/
def isUsualChar (c : Char) : Bool := isAsciiLetter c || c == '_' || isAsciiDigit c || c == '-'

theorem usual_of_isUsualName {name : String} (h : isUsualName name = true) :
    ∀ c ∈ name.toList, isUsualChar c = true := by
  unfold isUsualName at h
  cases chars : name.toList with
  | nil => exact nofun
  | cons first rest =>
    simp only [chars, Bool.and_eq_true, List.all_eq_true] at h
    obtain ⟨start, others⟩ := h
    intro c hc
    rcases List.mem_cons.1 hc with rfl | hc
    · simp [isUsualChar, start]
    · simpa [isUsualChar, Bool.or_assoc] using others c hc

/-- Two texts that go up to a mark in front of which it cannot stand. -/
theorem prefix_mark_iff {p : Char → Bool} {a b u v : List Char} {m k : Char}
    (ha : ∀ c ∈ a, p c = true) (hb : ∀ c ∈ b, p c = true) (hm : p m = false) (hk : p k = false) :
    a ++ m :: u <+: b ++ k :: v ↔ a = b ∧ m = k ∧ u <+: v := by
  induction a generalizing b with
  | nil =>
    cases b with
    | nil => simp [List.cons_prefix_cons]
    | cons y b =>
      have apart : m ≠ y := (ne_of_test (hb y List.mem_cons_self) hm).symm
      simp [List.cons_prefix_cons, apart]
  | cons x a ih =>
    cases b with
    | nil =>
      have apart : x ≠ k := ne_of_test (ha x List.mem_cons_self) hk
      simp [List.cons_prefix_cons, apart]
    | cons y b =>
      have rest := @ih b (fun c hc => ha c (List.mem_cons_of_mem _ hc))
        fun c hc => hb c (List.mem_cons_of_mem _ hc)
      rw [List.cons_append, List.cons_append, List.cons_prefix_cons, rest, List.cons.injEq,
        and_assoc]

theorem startsWith_iff {t p : String} : startsWith t p = true ↔ p.toList <+: t.toList := by
  rw [startsWith, List.isPrefixOf_iff_prefix]

/-- Decimal numbers of one text are the same. -/
theorem toDigits_inj {i j : Nat} : Nat.toDigits 10 i = Nat.toDigits 10 j ↔ i = j := by
  refine ⟨fun same => ?_, congrArg _⟩
  rw [← Css.Token.natOf_toDigits i, same, Css.Token.natOf_toDigits]

theorem toList_itemHead (list : String) (i : Nat) (field : String) (rest : List Char) :
    (itemHead list i field).toList ++ rest =
      list.toList ++ '[' :: (Nat.toDigits 10 i ++ ']' :: '.' ::
        (field.toList ++ ':' :: ' ' :: rest)) := by
  simp [itemHead]

namespace ErrorLine

variable {line : ErrorLine} {name : String}

/-- The subject is followed by a mark. -/
theorem exists_mark (line : ErrorLine) : ∃ m rest,
    line.text.toList = line.subject.name.toList ++ m :: rest ∧ (m = ':' ∨ m = '[') := by
  cases line with
  | rule r f => exact ⟨':', ' ' :: f.message.toList, by simp [text, subject], .inl rfl⟩
  | item list i child f =>
    have shape := toList_itemHead list.name i child.name f.message.toList
    rw [← String.toList_append] at shape
    exact ⟨'[', _, shape, .inr rfl⟩

/-- A line is found under the name of its subject, and under no other one. -/
theorem errorsFor_iff (usual : isUsualName line.subject.name = true)
    (named : isUsualName name = true) :
    (startsWith line.text (name ++ ":") || startsWith line.text (name ++ "[")) = true ↔
      name = line.subject.name := by
  obtain ⟨m, rest, shape, mark⟩ := line.exists_mark
  have own := usual_of_isUsualName usual
  have other := usual_of_isUsualName named
  have front (k : Char) (hk : isUsualChar k = false) :
      name.toList ++ [k] <+: line.text.toList ↔ name = line.subject.name ∧ k = m := by
    have apart : isUsualChar m = false := by rcases mark with rfl | rfl <;> decide
    rw [shape, prefix_mark_iff other own hk apart, String.toList_inj]
    simp
  have colon := front ':' (by decide)
  have bracket := front '[' (by decide)
  rw [Bool.or_eq_true, startsWith_iff, startsWith_iff, String.toList_append, String.toList_append]
  constructor
  · rintro (h | h)
    · exact (colon.1 h).1
    · exact (bracket.1 h).1
  · intro same
    rcases mark with rfl | rfl
    · exact .inl (colon.2 ⟨same, rfl⟩)
    · exact .inr (bracket.2 ⟨same, rfl⟩)

/-- Only the line on a field of an item begins with the place of that field. -/
theorem itemHead_iff (line : ErrorLine) {list field : String} {i : Nat}
    (usual : isUsualName line.subject.name = true) (usualFailed : isUsualName line.failed.name = true)
    (named : isUsualName list = true) (usualField : isUsualName field = true) :
    startsWith line.text (itemHead list i field) = true ↔
      ∃ r child f, line = .item r i child f ∧ r.name = list ∧ child.name = field := by
  have colon : isUsualChar ':' = false := by decide
  have bracket : isUsualChar '[' = false := by decide
  have closing : isAsciiDigit ']' = false := by decide
  have other := usual_of_isUsualName named
  have head := toList_itemHead list i field []
  rw [List.append_nil] at head
  rw [startsWith_iff, head]
  cases line with
  | rule r f =>
    have own : ∀ c ∈ r.name.toList, isUsualChar c = true := usual_of_isUsualName usual
    have shape : (ErrorLine.rule r f).text.toList =
        r.name.toList ++ ':' :: ' ' :: f.message.toList := by simp [text]
    rw [shape, prefix_mark_iff other own bracket colon]
    simp
  | item r j child f =>
    have own : ∀ c ∈ r.name.toList, isUsualChar c = true := usual_of_isUsualName usual
    have ownField : ∀ c ∈ child.name.toList, isUsualChar c = true :=
      usual_of_isUsualName usualFailed
    have otherField := usual_of_isUsualName usualField
    have number (n : Nat) : ∀ c ∈ Nat.toDigits 10 n, isAsciiDigit c = true :=
      fun _ => isAsciiDigit_of_mem_toDigits
    rw [text, String.toList_append, toList_itemHead, prefix_mark_iff other own bracket bracket,
      prefix_mark_iff (number i) (number j) closing closing, toDigits_inj, List.cons_prefix_cons,
      prefix_mark_iff otherField ownField colon colon, String.toList_inj, String.toList_inj]
    constructor
    · rintro ⟨rfl, -, rfl, -, -, rfl, -⟩
      exact ⟨r, child, f, rfl, rfl, rfl⟩
    · rintro ⟨_, _, _, ⟨⟩, rfl, rfl⟩
      simp [List.cons_prefix_cons]

end ErrorLine

end PageHarvest
