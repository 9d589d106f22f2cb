import Mathlib.Data.List.Forall2
import PageHarvest.Proofs.XPath.Scanning

/-!
# The texts that are taken for paths

`Path.Spelled w p cs` says that the characters `cs` spell the path `p`: an anchor, steps with `/`
or `//` between them, and predicates in brackets whose terms are the pieces between the joints
outside quotes. The spelling `w` says how numbers and values look.

* `documented`: a number has digits only, and a value does not contain the quote around it;
* `lenient`: a plus sign may stand in front of a number, and a value is whatever stands between two
  quotes of one kind.
-/

namespace PageHarvest.XPath

open Text

/-- How numbers and values are written. -/
structure Spelling where
  number : Nat → List Char → Prop
  value : List Char → List Char → Prop

inductive Digits : Nat → List Char → Prop
  | mk {ds : List Char} : ds ≠ [] → (∀ d ∈ ds, isAsciiDigit d = true) → Digits (decimal ds) ds

/-- Digits with a plus sign or without. -/
inductive Signed (n : Nat) : List Char → Prop
  | bare {cs : List Char} : Digits n cs → Signed n cs
  | plus {cs : List Char} : Digits n cs → Signed n ('+' :: cs)

/-- Anything between two quotes of one kind. -/
inductive Enclosed (v : List Char) : List Char → Prop
  | mk {q : Char} : isQuote q = true → Enclosed v (q :: (v ++ [q]))

namespace Spelling

def documented : Spelling := ⟨Digits, Quoted⟩

def lenient : Spelling := ⟨Signed, Enclosed⟩

/-- All that one spelling allows, the other allows. -/
structure Within (w w' : Spelling) : Prop where
  number : ∀ n cs, w.number n cs → w'.number n cs
  value : ∀ v cs, w.value v cs → w'.value v cs

theorem documented_within_lenient : documented.Within lenient where
  number _ _ := .bare
  value _ _ := fun ⟨hq, _⟩ => .mk hq

end Spelling

/-- The text of a test between its parentheses is `name`, a comma and `value`. -/
def callText (name value : List Char) : List Char :=
  "contains(".toList ++ (name ++ ',' :: value) ++ [')']

theorem callText_eq (name value : List Char) :
    callText name value = "contains(".toList ++ (name ++ ',' :: value) ++ [')'] := rfl

/-- A term in its piece of a predicate. -/
inductive Term.Spelled (w : Spelling) : Term → List Char → Prop
  | position {n : Nat} {ds cs : List Char} : w.number n ds → Padded ds cs →
      Spelled w (.position n) cs
  | has {a cs : List Char} : IsAttributeName a → Padded ('@' :: a) cs →
      Spelled w (.has (String.ofList a)) cs
  | equals {a v quoted name value : List Char} : IsAttributeName a → w.value v quoted →
      Padded ('@' :: a) name → Padded quoted value →
      Spelled w (.equals (String.ofList a) (String.ofList v)) (name ++ '=' :: value)
  | contains {a v quoted name value cs : List Char} : IsAttributeName a → w.value v quoted →
      Padded ('@' :: a) name → Padded quoted value → Padded (callText name value) cs →
      Spelled w (.contains (String.ofList a) (String.ofList v)) cs

def TermsSpelled (w : Spelling) (ts : List Term) (cs : List Char) : Prop :=
  ∃ pieces, Pieces none pieces cs ∧ List.Forall₂ (Term.Spelled w) ts pieces

inductive PredicatesSpelled (w : Spelling) : List (List Term) → List Char → Prop
  | nil : PredicatesSpelled w [] []
  | cons {ts : List Term} {ps : List (List Term)} {cs ds : List Char} : Closed none cs →
      TermsSpelled w ts cs → PredicatesSpelled w ps ds →
      PredicatesSpelled w (ts :: ps) ('[' :: (cs ++ ']' :: ds))

inductive Step.Spelled (w : Spelling) : Step → List Char → Prop
  | mk {n cs : List Char} {ps : List (List Term)} : IsElementName n → PredicatesSpelled w ps cs →
      Spelled w ⟨String.ofList n, ps⟩ (n ++ cs)

/-- The mark of an axis between two steps. -/
def Axis.mark : Axis → List Char
  | child => ['/']
  | descendant => ['/', '/']

inductive StepsSpelled (w : Spelling) : List (Axis × Step) → List Char → Prop
  | nil : StepsSpelled w [] []
  | cons {axis : Axis} {s : Step} {rest : List (Axis × Step)} {cs ds : List Char} :
      s.Spelled w cs → StepsSpelled w rest ds →
      StepsSpelled w ((axis, s) :: rest) (axis.mark ++ (cs ++ ds))

inductive Path.Spelled (w : Spelling) : Path → List Char → Prop
  | mk {a : Anchor} {s : Step} {rest : List (Axis × Step)} {cs ds : List Char} :
      s.Spelled w cs → StepsSpelled w rest ds → Spelled w ⟨a, s, rest⟩ (a.text ++ (cs ++ ds))

/-! ## From one spelling to another -/

section Within

variable {w w' : Spelling} {t : Term} {ts : List Term} {ps : List (List Term)} {s : Step}
  {steps : List (Axis × Step)} {p : Path} {cs : List Char}

theorem Term.Spelled.within (h : t.Spelled w cs) (hw : w.Within w') : t.Spelled w' cs := by
  cases h with
  | position number padded => exact .position (hw.number _ _ number) padded
  | has name padded => exact .has name padded
  | equals name value padded padded' => exact .equals name (hw.value _ _ value) padded padded'
  | contains name value padded padded' call =>
    exact .contains name (hw.value _ _ value) padded padded' call

theorem PredicatesSpelled.within (h : PredicatesSpelled w ps cs) (hw : w.Within w') :
    PredicatesSpelled w' ps cs := by
  induction h with
  | nil => exact .nil
  | cons closed terms _ ih =>
    obtain ⟨pieces, cut, spelled⟩ := terms
    exact .cons closed ⟨pieces, cut, spelled.imp fun _ _ h => h.within hw⟩ ih

theorem Step.Spelled.within (h : s.Spelled w cs) (hw : w.Within w') : s.Spelled w' cs := by
  obtain ⟨name, predicates⟩ := h
  exact .mk name (predicates.within hw)

theorem StepsSpelled.within (h : StepsSpelled w steps cs) (hw : w.Within w') :
    StepsSpelled w' steps cs := by
  induction h with
  | nil => exact .nil
  | cons step _ ih => exact .cons (step.within hw) ih

theorem Path.Spelled.within (h : p.Spelled w cs) (hw : w.Within w') : p.Spelled w' cs := by
  obtain ⟨first, rest⟩ := h
  exact .mk (first.within hw) (rest.within hw)

end Within

end PageHarvest.XPath
