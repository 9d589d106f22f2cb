import PageHarvest.Flow.Condition
import PageHarvest.Proofs.Data.Entries

/-!
# What a condition depends on

A condition reads a context only by name: the names that the references in its texts start with, the
names in its expressions, and its texts themselves, which may be names of variables.

* `Reference.resolve_congr`, `Expr.eval_congr`: contexts that agree on these names give the same;
* `Condition.evaluate_congr_leaves`: a condition depends on its parts without members;
* `Condition.evaluate_depends`: what follows for every condition, and for the merged context.
-/

namespace PageHarvest

variable {x y : Context}

/-! ## Contexts -/

namespace Context

/-- Every name has one variable and one result at most. -/
structure IsMap (c : Context) : Prop where
  vars : c.vars.keys.Nodup
  results : c.results.keys.Nodup

theorem isMap_empty : IsMap empty := ⟨List.nodup_nil, List.nodup_nil⟩

theorem IsMap.setVariable (h : x.IsMap) (name : String) (value : Json) :
    (x.setVariable name value).IsMap :=
  ⟨Entries.nodup_keys_insert h.vars name value, h.results⟩

theorem IsMap.setVariables (h : x.IsMap) (bindings : Entries Json) :
    (x.setVariables bindings).IsMap :=
  ⟨Entries.nodup_keys_overwrite h.vars bindings, h.results⟩

theorem IsMap.setResult (h : x.IsMap) (name : String) (value : Json) :
    (x.setResult name value).IsMap :=
  ⟨h.vars, Entries.nodup_keys_insert h.results name value⟩

/-- The context whose variables are the merged map. -/
def flat (c : Context) : Context := ⟨c.merged, []⟩

theorem IsMap.lookup_flat (h : x.IsMap) (name : String) : x.flat.lookup name = x.lookup name :=
  Entries.get?_overwrite h.results name x.vars

end Context

namespace Reference

open Text

/-! ## References -/

/-- The name that a path starts with, if it starts with one. -/
def root? (path : String) : Option String := (segments path.toList).head?.filter (· ≠ "")

/-- The paths of the references in a text. -/
def paths (cs : List Char) : List String :=
  match h : readReference? cs with
  | some (path, rest) =>
    have := length_of_readReference? h
    String.ofList (trimChars path) :: paths rest
  | none =>
    match cs with
    | [] => []
    | _ :: rest => paths rest
termination_by cs.length

/-- The names that the references in a text start with. -/
def roots (s : String) : List String := (paths s.toList).filterMap root?

theorem resolvePath_congr {path : String}
    (agree : ∀ name, root? path = some name → x.lookup name = y.lookup name) :
    resolvePath x path = resolvePath y path := by
  unfold resolvePath
  split
  · rename_i root rest hsegments
    by_cases none : root = ""
    · rw [if_pos none, if_pos none]
    · rw [if_neg none, if_neg none, agree root (by simp [root?, hsegments, none])]
  · rfl

variable {cs path rest : List Char} {c : Char}

theorem paths_reference (h : readReference? cs = some (path, rest)) :
    paths cs = String.ofList (trimChars path) :: paths rest := by
  rw [paths]
  split
  · rename_i found
    cases h.symm.trans found
    rfl
  · rename_i none
    cases h.symm.trans none

theorem interpolateChars_reference (h : readReference? cs = some (path, rest)) :
    interpolateChars x cs = pathText x path ++ interpolateChars x rest := by
  rw [interpolateChars]
  split
  · rename_i found
    cases h.symm.trans found
    rfl
  · rename_i none
    cases h.symm.trans none

theorem interpolateChars_plain (h : readReference? (c :: rest) = none) :
    interpolateChars x (c :: rest) = c :: interpolateChars x rest := by
  rw [interpolateChars]
  split
  · rename_i found
    cases h.symm.trans found
  · rfl

theorem interpolateChars_nil : interpolateChars x [] = [] := by
  rw [interpolateChars]
  rfl

theorem interpolateChars_congr
    (agree : ∀ path ∈ paths cs, resolvePath x path = resolvePath y path) :
    interpolateChars x cs = interpolateChars y cs := by
  fun_induction paths cs with
  | case1 cs path rest h _ ih =>
    obtain ⟨here, further⟩ := List.forall_mem_cons.1 agree
    have texts : pathText x path = pathText y path := by rw [pathText, here, pathText]
    rw [interpolateChars_reference h, interpolateChars_reference h, texts, ih further]
  | case2 h => rw [interpolateChars_nil, interpolateChars_nil]
  | case3 c rest h ih => rw [interpolateChars_plain h, interpolateChars_plain h, ih agree]

theorem paths_of_wholePath? {token path : String} (whole : wholePath? token = some path) :
    paths token.toList = [path] := by
  unfold wholePath? at whole
  split at whole
  · rename_i path h
    cases whole
    rw [paths_reference h]
    simp [paths, readReference?]
  · cases whole

theorem resolve_congr {token : String}
    (roots : ∀ name ∈ roots token, x.lookup name = y.lookup name)
    (vars : wholePath? token = none → x.vars.get? token = y.vars.get? token) :
    resolve x token = resolve y token := by
  have agree : ∀ path ∈ paths token.toList, resolvePath x path = resolvePath y path :=
    fun path hpath => resolvePath_congr fun name hname =>
      roots name (List.mem_filterMap.2 ⟨path, hpath, hname⟩)
  unfold resolve
  split
  · rename_i path whole
    exact agree path (by simp [paths_of_wholePath? whole])
  · rename_i part
    rw [vars part, interpolate, interpolateChars_congr agree, interpolate]

end Reference

/-! ## Expressions -/

namespace Expr

/-- The names that an expression looks up. -/
def roots : Expr → List String
  | .literal _ => []
  | .identifier name => [name]
  | .reference path => (Reference.root? path).toList
  | .member target _ => target.roots
  | .index target key => target.roots ++ key.roots
  | .not operand | .negate operand => operand.roots
  | .and left right | .or left right | .compare _ left right => left.roots ++ right.roots

theorem eval_congr {e : Expr} (agree : ∀ name ∈ e.roots, x.lookup name = y.lookup name) :
    e.eval x = e.eval y := by
  induction e with
  | literal value => rfl
  | identifier name => simp only [eval, agree name (List.mem_singleton_self name)]
  | reference path =>
    simp only [eval]
    rw [Reference.resolvePath_congr fun name hname => agree name (by simp [roots, hname])]
  | member target property ih => simp only [eval, ih agree]
  | not operand ih | negate operand ih => simp only [eval, ih agree]
  | index left right ihl ihr | and left right ihl ihr | or left right ihl ihr
  | compare op left right ihl ihr =>
    obtain ⟨inLeft, inRight⟩ := List.forall_mem_append.1 agree
    simp only [eval, ihl inLeft, ihr inRight]

theorem holds_congr {source : String}
    (agree : ∀ e, read source = .ok e → ∀ name ∈ e.roots, x.lookup name = y.lookup name) :
    holds x source = holds y source := by
  unfold holds
  cases parsed : read source with
  | error problem => rfl
  | ok e => simp only [Except.bind, evalBool, eval_congr (agree e parsed)]

end Expr

/-! ## Conditions -/

namespace Condition

/-- An operand that is a text. -/
def text? : Json → Option String
  | .str token => some token
  | _ => none

mutual

/-- The operands that are texts. -/
def texts : Condition → List String
  | .simple left _ right => (left :: right.toList).filterMap text?
  | .compound _ members => textsOf members
  | .expression _ => []

def textsOf : List Condition → List String
  | [] => []
  | c :: cs => c.texts ++ textsOf cs

end

mutual

/-- The names that a condition looks up: in its texts and its expressions. -/
def roots : Condition → List String
  | .simple left _ right => ((left :: right.toList).filterMap text?).flatMap Reference.roots
  | .compound _ members => rootsOf members
  | .expression source =>
    match Expr.read source with
    | .ok e => e.roots
    | .error _ => []

def rootsOf : List Condition → List String
  | [] => []
  | c :: cs => c.roots ++ rootsOf cs

end

theorem operand_congr {v : Json}
    (roots : ∀ t, text? v = some t → ∀ name ∈ Reference.roots t, x.lookup name = y.lookup name)
    (vars : ∀ t, text? v = some t → Reference.wholePath? t = none →
      x.vars.get? t = y.vars.get? t) :
    operand x v = operand y v := by
  cases v with
  | str token => exact Reference.resolve_congr (roots token rfl) (vars token rfl)
  | null | bool | num | arr | obj => rfl

theorem evaluate_simple_congr {left : Json} {op : Operator} {right : Option Json}
    (roots : ∀ name ∈ roots (.simple left op right), x.lookup name = y.lookup name)
    (vars : ∀ t ∈ texts (.simple left op right), Reference.wholePath? t = none →
      x.vars.get? t = y.vars.get? t) :
    evaluate x (.simple left op right) = evaluate y (.simple left op right) := by
  have same (v : Json) (hv : v ∈ left :: right.toList) : operand x v = operand y v := by
    have mem {t : String} (ht : text? v = some t) : t ∈ texts (.simple left op right) :=
      List.mem_filterMap.2 ⟨v, hv, ht⟩
    refine operand_congr (fun t ht name hname => ?_) fun t ht => vars t (mem ht)
    exact roots name (List.mem_flatMap.2 ⟨t, mem ht, hname⟩)
  have right_same : right.bind (operand x) = right.bind (operand y) := by
    cases right with
    | none => rfl
    | some v => exact same v (by simp)
  rw [evaluate, evaluate, same left (by simp), right_same]

mutual

theorem evaluate_congr (c : Condition) (roots : ∀ name ∈ c.roots, x.lookup name = y.lookup name)
    (vars : ∀ t ∈ c.texts, Reference.wholePath? t = none → x.vars.get? t = y.vars.get? t) :
    c.evaluate x = c.evaluate y := by
  cases c with
  | simple left op right => exact evaluate_simple_congr roots vars
  | expression source =>
    rw [evaluate, evaluate]
    refine Expr.holds_congr fun e parsed name hname => roots name ?_
    rw [Condition.roots, parsed]
    exact hname
  | compound logic members =>
    obtain ⟨all, any⟩ := evaluateMembers_congr members roots vars
    cases members with
    | nil => rfl
    | cons c cs =>
      cases logic with
      | and => exact all
      | or => exact any

theorem evaluateMembers_congr (cs : List Condition)
    (roots : ∀ name ∈ rootsOf cs, x.lookup name = y.lookup name)
    (vars : ∀ t ∈ textsOf cs, Reference.wholePath? t = none → x.vars.get? t = y.vars.get? t) :
    evaluateAll x cs = evaluateAll y cs ∧ evaluateAny x cs = evaluateAny y cs := by
  cases cs with
  | nil => exact ⟨rfl, rfl⟩
  | cons c cs =>
    obtain ⟨first_roots, rest_roots⟩ := List.forall_mem_append.1 roots
    obtain ⟨first_vars, rest_vars⟩ := List.forall_mem_append.1 vars
    obtain ⟨all, any⟩ := evaluateMembers_congr cs rest_roots rest_vars
    have first := evaluate_congr c first_roots first_vars
    simp only [evaluateAll, evaluateAny, first, all, any, and_self]

end

/-- A condition depends on nothing but the names that it looks up, and on the variables that its
texts may name. An expression cannot tell a context from the merged map. -/
theorem evaluate_depends :
    (∀ (c : Condition) (x y : Context),
      (∀ name ∈ c.roots, x.lookup name = y.lookup name) →
      (∀ t ∈ c.texts, Reference.wholePath? t = none → x.vars.get? t = y.vars.get? t) →
      c.evaluate x = c.evaluate y) ∧
    ∀ (e : Expr) (x : Context), x.IsMap → e.eval x = e.eval x.flat :=
  ⟨fun c _ _ roots vars => evaluate_congr c roots vars,
    fun _ _ h => Expr.eval_congr fun name _ => (h.lookup_flat name).symm⟩

/-- The variable `z` is not read, and it does not matter that `a` became a result. -/
theorem evaluate_depends_unread :
    let c := compound .or
      [.simple (.str "$\x7ba.b\x7d") .equals (some (.str "flag")), .expression "n"]
    let x : Context := ⟨[("a", .null), ("n", .bool true), ("z", .null)], []⟩
    let y : Context := ⟨[("n", .bool true)], [("a", .null)]⟩
    (c.roots = ["a", "n"] ∧ c.texts = ["$\x7ba.b\x7d", "flag"] ∧ c.evaluate x = c.evaluate y) ∧
      y.IsMap ∧ (Expr.identifier "a").eval y = (Expr.identifier "a").eval y.flat := by
  intro c x y
  have roots : c.roots = ["a", "n"] := by decide +kernel
  have texts : c.texts = ["$\x7ba.b\x7d", "flag"] := by decide +kernel
  have isMap : y.IsMap := ⟨by decide, by decide⟩
  refine ⟨⟨roots, texts, evaluate_depends.1 c x y ?_ ?_⟩, isMap, evaluate_depends.2 _ y isMap⟩
  · rw [roots]
    exact List.forall_mem_cons.2 ⟨rfl, List.forall_mem_cons.2 ⟨rfl, nofun⟩⟩
  · rw [texts]
    refine List.forall_mem_cons.2 ⟨fun part => ?_, List.forall_mem_cons.2 ⟨fun _ => rfl, nofun⟩⟩
    exact absurd part (by decide)

end Condition

end PageHarvest
