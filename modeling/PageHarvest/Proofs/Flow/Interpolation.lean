import Mathlib.Data.List.Infix
import PageHarvest.Proofs.Flow.Comparisons
import PageHarvest.Proofs.Flow.Dependence

/-!
# Texts with references in them

A template is a text of literals with references between them. Filling it in keeps the literals and
puts the text of its value in the place of each reference.

* `interpolateChars_literal`: a literal is passed by, whatever follows it;
* `readReference?_marked`: a reference is read up to its own end mark, whatever follows it;
* `interpolate_text`: so a template is filled in, and what comes in from the values is not looked at
  again;
* `display_resolve`: a token resolves to a value with the text that the token is filled in to.
-/

namespace PageHarvest.Reference

open Text

/-! ## Templates -/

/-- How a reference is set off from the text around it. -/
inductive Marks
  /-- A dollar sign and one pair of braces. -/
  | dollar
  /-- Two pairs of braces. -/
  | double

def Marks.opening : Marks → String
  | dollar => "$\x7b"
  | double => "\x7b\x7b"

def Marks.closing : Marks → String
  | dollar => "\x7d"
  | double => "\x7d\x7d"

/-- A literal, or a literal, a reference and what follows it. -/
inductive Template
  | literal (text : String)
  | refer (before : String) (marks : Marks) (path : String) (after : Template)

/-- The text of the value at a path, which is empty if there is none. -/
def valueText (context : Context) (path : String) : String :=
  match target context path with
  | some v => Json.displayOf v
  | none => ""

namespace Template

/-- The template as it is written. -/
def text : Template → String
  | literal text => text
  | refer before marks path after =>
    before ++ marks.opening ++ path ++ marks.closing ++ after.text

/-- The template with values for its references. -/
def fill (context : Context) : Template → String
  | literal text => text
  | refer before _ path after => before ++ valueText context path ++ after.fill context

end Template

/-- No reference begins in the text. -/
def OpensNone (text : String) : Prop := ∀ m : Marks, ¬ m.opening.toList <:+: text.toList

/-- The text does not end in a character that may be the first of an opening mark. -/
def EndsOff (text : String) : Prop := ∀ c ∈ text.toList.getLast?, c ≠ '$' ∧ c ≠ '\x7b'

/-- The references of a template are those that it is written with. -/
def Template.IsPlain : Template → Prop
  | literal text => OpensNone text
  | refer before _ path after =>
    OpensNone before ∧ EndsOff before ∧ '\x7d' ∉ path.toList ∧ after.IsPlain

instance (text : String) : Decidable (OpensNone text) :=
  decidable_of_iff
    (¬ Marks.dollar.opening.toList <:+: text.toList ∧
      ¬ Marks.double.opening.toList <:+: text.toList)
    ⟨fun ⟨noDollar, noDouble⟩ m => by cases m <;> assumption, fun h => ⟨h .dollar, h .double⟩⟩

instance (text : String) : Decidable (EndsOff text) :=
  decidable_of_iff (text.toList.getLast?.all (fun c => c ≠ '$' ∧ c ≠ '\x7b') = true)
    (by simp [EndsOff, Option.all_eq_true])

instance Template.decidableIsPlain : (t : Template) → Decidable t.IsPlain
  | literal text => inferInstanceAs (Decidable (OpensNone text))
  | refer _ _ _ after =>
    have := decidableIsPlain after
    inferInstanceAs (Decidable (_ ∧ _ ∧ _ ∧ _))

/-! ## Literals and references -/

section Reading

variable {context : Context} {l rest path : List Char}

theorem readReference?_eq_none (h : ∀ m : Marks, ¬ m.opening.toList <+: l) :
    readReference? l = none := by
  unfold readReference?
  split
  · rename_i cs
    exact absurd ⟨cs, rfl⟩ (h .dollar)
  · rename_i cs
    exact absurd ⟨cs, rfl⟩ (h .double)
  · rfl

/-- An opening mark has two characters, which both may end a literal. -/
theorem Marks.exists_opening (m : Marks) :
    ∃ x y, m.opening.toList = [x, y] ∧ (x = '$' ∨ x = '\x7b') := by
  cases m
  · exact ⟨'$', '\x7b', rfl, .inl rfl⟩
  · exact ⟨'\x7b', '\x7b', rfl, .inr rfl⟩

/-- A literal is passed by: no reference begins in it, and none where it meets what follows. -/
theorem interpolateChars_literal (none : ∀ m : Marks, ¬ m.opening.toList <:+: l)
    (ends : rest = [] ∨ ∀ c ∈ l.getLast?, c ≠ '$' ∧ c ≠ '\x7b') :
    interpolateChars context (l ++ rest) = l ++ interpolateChars context rest := by
  induction l with
  | nil => rfl
  | cons c l ih =>
    have here : ∀ m : Marks, ¬ m.opening.toList <+: c :: (l ++ rest) := by
      rintro m ⟨more, same⟩
      obtain ⟨x, y, opening, hx⟩ := m.exists_opening
      rw [opening, List.cons_append, List.cons.injEq] at same
      obtain ⟨rfl, same⟩ := same
      cases l with
      | nil =>
        -- the mark would begin with the last character of the literal
        rcases ends with rfl | apart
        · cases same
        · obtain ⟨noDollar, noBrace⟩ := apart x rfl
          exact hx.elim noDollar noBrace
      | cons d l =>
        obtain ⟨rfl, _⟩ := List.cons.inj same
        apply none m
        rw [opening]
        exact ⟨[], l, rfl⟩
    have further : ∀ m : Marks, ¬ m.opening.toList <:+: l := fun m inside =>
      none m (inside.trans (List.suffix_cons c l).isInfix)
    have later : rest = [] ∨ ∀ c ∈ l.getLast?, c ≠ '$' ∧ c ≠ '\x7b' := by
      refine ends.imp_right fun apart x hx => apart x ?_
      rw [List.getLast?_cons, hx]
      rfl
    rw [List.cons_append, interpolateChars_plain (readReference?_eq_none here), ih further later,
      List.cons_append]

theorem readReference?_double (closed : '\x7d' ∉ path) (rest : List Char) :
    readReference? ('\x7b' :: '\x7b' :: (path ++ '\x7d' :: '\x7d' :: rest)) =
      some (path, rest) := by
  have inside : ∀ c ∈ path, (c != '\x7d') = true := fun c hc =>
    bne_iff_ne.2 fun e => closed (e ▸ hc)
  rw [readReference?, List.takeWhile_append_of_pos inside, List.dropWhile_append_of_pos inside]
  simp

/-- A reference is read up to its own end mark. -/
theorem readReference?_marked (closed : '\x7d' ∉ path) (m : Marks) (rest : List Char) :
    readReference? (m.opening.toList ++ (path ++ (m.closing.toList ++ rest))) =
      some (path, rest) := by
  cases m with
  | dollar => exact readReference?_braced closed rest
  | double => exact readReference?_double closed rest

theorem pathText_eq (context : Context) (path : String) :
    pathText context path.toList = (valueText context path).toList := by
  rw [pathText, valueText, target, trim]
  cases resolvePath context (String.ofList (trimChars path.toList)) <;> rfl

end Reading

/-! ## Filling in -/

theorem interpolateChars_text (context : Context) {t : Template} (plain : t.IsPlain) :
    interpolateChars context t.text.toList = (t.fill context).toList := by
  induction t with
  | literal text =>
    have passed : interpolateChars context (text.toList ++ []) =
        text.toList ++ interpolateChars context [] := interpolateChars_literal plain (.inl rfl)
    rwa [List.append_nil, interpolateChars_nil, List.append_nil] at passed
  | refer before marks path after ih =>
    obtain ⟨none, ends, closed, plain⟩ := plain
    have shape : (Template.refer before marks path after).text.toList = before.toList ++
        (marks.opening.toList ++ (path.toList ++ (marks.closing.toList ++ after.text.toList))) := by
      simp [Template.text]
    rw [shape, interpolateChars_literal none (.inr ends),
      interpolateChars_reference (readReference?_marked closed marks _), ih plain, pathText_eq,
      Template.fill, String.toList_append, String.toList_append, List.append_assoc]

/-- A template is filled in: its literals stay as they are, and each reference gives way to the text
of its value, whatever that text holds. -/
theorem interpolate_text (context : Context) {t : Template} (plain : t.IsPlain) :
    interpolate context t.text = t.fill context := by
  rw [interpolate, interpolateChars_text context plain, String.ofList_toList]

/-- A value that looks like two references, between literals with half a mark in them. -/
theorem interpolate_text_marks :
    let context : Context := ⟨[("x", .str "$\x7by\x7d\x7b\x7by\x7d\x7d"), ("y", .str "Y")], []⟩
    let t : Template := .refer "1$ \x7b " .dollar " x " (.refer "\x7d" .double "\x7by" <|
      .refer "" .double "y" (.literal "$\x7d\x7b"))
    t.IsPlain ∧ t.text = "1$ \x7b $\x7b x \x7d\x7d\x7b\x7b\x7by\x7d\x7d\x7b\x7by\x7d\x7d$\x7d\x7b" ∧
      interpolate context t.text = "1$ \x7b $\x7by\x7d\x7b\x7by\x7d\x7d\x7dY$\x7d\x7b" := by
  intro context t
  have plain : t.IsPlain := by decide
  exact ⟨plain, rfl, (interpolate_text context plain).trans rfl⟩

/-! ## What a token resolves to -/

/-- The token is one reference, from its opening mark to its closing mark. -/
def IsReference (token : String) : Prop :=
  ∃ (m : Marks) (path : String), '\x7d' ∉ path.toList ∧ token = m.opening ++ path ++ m.closing

section Resolving

variable {context : Context} {cs path rest : List Char} {token : String}

/-- The first brace that closes, and what stands in front of it. -/
theorem split_at_brace (h : cs.dropWhile (· != '\x7d') = '\x7d' :: rest) :
    '\x7d' ∉ cs.takeWhile (· != '\x7d') ∧ cs = cs.takeWhile (· != '\x7d') ++ '\x7d' :: rest := by
  refine ⟨fun inside => ?_, ?_⟩
  · have all : (cs.takeWhile (· != '\x7d')).all (· != '\x7d') = true := List.all_takeWhile
    cases List.all_eq_true.1 all _ inside
  · rw [← h, List.takeWhile_append_dropWhile]

/-- What is read as a reference has the form of one. -/
theorem readReference?_eq_some :
    readReference? cs = some (path, rest) ↔ '\x7d' ∉ path ∧
      ∃ m : Marks, cs = m.opening.toList ++ (path ++ (m.closing.toList ++ rest)) := by
  constructor
  · intro read
    unfold readReference? at read
    split at read
    · split at read
      · rename_i ends
        cases read
        obtain ⟨closed, shape⟩ := split_at_brace ends
        exact ⟨closed, .dollar, congrArg ('$' :: '\x7b' :: ·) shape⟩
      · cases read
    · split at read
      · rename_i ends
        cases read
        obtain ⟨closed, shape⟩ := split_at_brace ends
        exact ⟨closed, .double, congrArg ('\x7b' :: '\x7b' :: ·) shape⟩
      · cases read
    · cases read
  · rintro ⟨closed, m, rfl⟩
    exact readReference?_marked closed m rest

theorem isReference_iff :
    IsReference token ↔ ∃ path, readReference? token.toList = some (path, []) := by
  constructor
  · rintro ⟨m, path, closed, rfl⟩
    exact ⟨path.toList, readReference?_eq_some.2 ⟨closed, m, by simp⟩⟩
  · rintro ⟨path, read⟩
    obtain ⟨closed, m, shape⟩ := readReference?_eq_some.1 read
    refine ⟨m, String.ofList path, by rwa [String.toList_ofList], String.toList_inj.1 ?_⟩
    rw [shape]
    simp

/-- A reference resolves to the value at its path, of whatever type. -/
theorem resolve_reference (read : readReference? token.toList = some (path, [])) :
    resolve context token = resolvePath context (String.ofList (trimChars path)) := by
  rw [resolve, wholePath?, read]

theorem interpolate_reference (read : readReference? token.toList = some (path, [])) :
    interpolate context token =
      Json.display (resolvePath context (String.ofList (trimChars path))) := by
  rw [interpolate, interpolateChars_reference read, interpolateChars_nil, List.append_nil, pathText,
    String.ofList_toList]

/-- A token that is no reference resolves to a variable or to a text. -/
theorem resolve_of_not_isReference (part : ¬ IsReference token) :
    resolve context token =
      some ((context.vars.get? token).getD (.str (interpolate context token))) := by
  have noPath : wholePath? token = none := by
    unfold wholePath?
    split
    · rename_i path read
      exact absurd (isReference_iff.2 ⟨path, read⟩) part
    · rfl
  rw [resolve, noPath]
  cases context.vars.get? token <;> rfl

/-- The value of a token has the text that the token is filled in to, unless the token is the name of
a variable and no reference. -/
theorem display_resolve (h : IsReference token ∨ context.vars.get? token = none) :
    Json.display (resolve context token) = interpolate context token := by
  by_cases whole : IsReference token
  · obtain ⟨path, read⟩ := isReference_iff.1 whole
    rw [resolve_reference read, interpolate_reference read]
  · rw [resolve_of_not_isReference whole, h.resolve_left whole]
    rfl

/-- A reference that is the name of a variable, two references side by side, and half a reference
with a line end. -/
theorem display_resolve_braces :
    let context : Context := ⟨[("$\x7b x\n\x7d", .str "own"), ("x", .bool true)], []⟩
    (resolve context "$\x7b x\n\x7d" = some (.bool true) ∧
      interpolate context "$\x7b x\n\x7d" = "true") ∧
    Json.display (resolve context "$\x7bx\x7d\x7b\x7bx\x7d\x7d") = "truetrue" ∧
    Json.display (resolve context "\x7b\x7bx\n\x7d") = "\x7b\x7bx\n\x7d" := by
  intro context
  have whole : IsReference "$\x7b x\n\x7d" := ⟨.dollar, " x\n", by decide, rfl⟩
  have value : resolve context "$\x7b x\n\x7d" = some (.bool true) := rfl
  refine ⟨⟨value, ?_⟩, ?_, ?_⟩
  · rw [← display_resolve (.inl whole), value]
    rfl
  · rw [display_resolve (.inr rfl)]
    cbv
  · rw [display_resolve (.inr rfl)]
    cbv

end Resolving

end PageHarvest.Reference
