import PageHarvest.Proofs.Flow.Dependence
import PageHarvest.Proofs.Flow.Loops

/-!
# Loops whose condition does not see the index

A while loop changes nothing but its index. A condition that cannot see the index has the same value
before every iteration, so the loop does not run at all or runs into its cap.

* `Condition.Sees`: the ways in which a variable can get into a condition;
* `Condition.evaluate_setVariable`: a variable that is not seen may hold anything;
* `Control.expand_repeatWhile_unseen`: what follows for the loop.
-/

namespace PageHarvest

/-! ## Variables that are not seen -/

namespace Context

variable {context : Context} {name other : String}

theorem get?_setVariable_of_ne (ne : other ≠ name) (value : Json) :
    (context.setVariable name value).vars.get? other = context.vars.get? other := by
  rw [setVariable, Entries.get?_insert, if_neg (Ne.symm ne)]

theorem lookup_setVariable_of_ne (ne : other ≠ name) (value : Json) :
    (context.setVariable name value).lookup other = context.lookup other := by
  rw [lookup, get?_setVariable_of_ne ne]
  rfl

/-- A result hides the variable of its name. -/
theorem lookup_setVariable_of_result {result : Json}
    (hidden : context.results.get? name = some result) (value : Json) :
    (context.setVariable name value).lookup name = context.lookup name := by
  have still : (context.setVariable name value).results.get? name = some result := hidden
  rw [lookup, lookup, still, hidden]
  rfl

end Context

namespace Condition

variable {c : Condition} {context : Context} {name : String}

/-- Whether a variable can make a difference to a condition: one of its texts is the name of the
variable, or it looks the name up and no result hides the variable. -/
def Sees (c : Condition) (context : Context) (name : String) : Prop :=
  name ∈ c.texts ∨ name ∈ c.roots ∧ context.results.get? name = none

theorem evaluate_setVariable (unseen : ¬ c.Sees context name) (value : Json) :
    c.evaluate (context.setVariable name value) = c.evaluate context := by
  obtain ⟨no_text, no_root⟩ := not_or.1 unseen
  refine evaluate_congr c (fun root looked_up => ?_) fun text is_text _ => ?_
  · by_cases own : root = name
    · subst own
      obtain ⟨result, hidden⟩ :=
        Option.ne_none_iff_exists'.1 fun bare => no_root ⟨looked_up, bare⟩
      exact Context.lookup_setVariable_of_result hidden value
    · exact Context.lookup_setVariable_of_ne own value
  · have other : text ≠ name := fun own => no_text (own ▸ is_text)
    exact Context.get?_setVariable_of_ne other value

theorem evaluate_before (unseen : ¬ c.Sees context loopIndex) (k : Nat) :
    c.evaluate (context.before k) = c.evaluate context := by
  cases k with
  | zero => rfl
  | succ k => exact evaluate_setVariable unseen (Json.ofNat k)

end Condition

/-! ## Loops -/

namespace Control

open Loop

/-- A while loop whose condition does not see the index does nothing if the condition is false at
the start, and has as many iterations as its cap allows if it is true. -/
theorem expand_repeatWhile_unseen (caps : LoopCaps) (start : Context) (condition : Condition)
    (body : List Step) (cap : Option Nat) (unseen : ¬ condition.Sees start loopIndex) :
    let result := expand caps start (.repeatWhile condition body cap)
    if condition.evaluate start then
      result.1.iterations.length = cap.getD caps.whileLoops ∧ result.1.truncated = true
    else result = (Expansion.empty, start) := by
  intro result
  let l := conditional start condition body
  have constant (k : Nat) : l.goesOn k = condition.evaluate start :=
    Condition.evaluate_before unseen k
  have unrolls : l.Unrolls (cap.getD caps.whileLoops) start result := by
    rw [show result = _ from expandWhile_eq start condition body _]
    exact unrolls_unrolled l _ start
  split
  case isTrue holds =>
    -- the loop cannot have ended by itself
    obtain ⟨n, _, _, ends, _⟩ | ⟨_, capped⟩ := unrolls
    · rw [constant, holds] at ends
      cases ends
    · rw [capped]
      exact ⟨by simp [repeated], rfl⟩
  case isFalse fails =>
    -- neither can it have had an iteration
    obtain ⟨n, _, before, _, ended⟩ | ⟨on, _⟩ := unrolls
    · cases n with
      | zero => exact ended
      | succ n => exact absurd ((constant 0).symm.trans (before 0 (Nat.succ_pos n))) fails
    · exact absurd ((constant 0).symm.trans (on 0 (Nat.zero_le _))) fails

/-- A result named as the index hides it, so this loop does not end before its cap of seven. -/
theorem expand_repeatWhile_unseen_hidden :
    let c := Condition.simple (.str "$\x7b_loopIndex\x7d") .notEquals (some (.int 1))
    let start : Context := ⟨[], [(loopIndex, .null)]⟩
    ¬ c.Sees start loopIndex ∧
      (expand {} start (.repeatWhile c [] (some 7))).1.iterations.length = 7 ∧
      (expand {} start (.repeatWhile c [] (some 7))).1.truncated = true := by
  intro c start
  have unseen : ¬ c.Sees start loopIndex := by
    rintro (is_text | ⟨_, bare⟩)
    · exact absurd is_text (by decide)
    · cases bare
  have holds : c.evaluate start = true := by decide +kernel
  have expansion := expand_repeatWhile_unseen {} start c [] (some 7) unseen
  rw [if_pos holds] at expansion
  exact ⟨unseen, expansion⟩

end Control

end PageHarvest
