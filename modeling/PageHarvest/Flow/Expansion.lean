import PageHarvest.Flow.Step

/-!
# Expansion of control steps

A control step expands to the list of steps that it would run. A loop also gives its iterations
with the variables that each of them binds: the loop variable, and `_loopIndex`, which counts from
zero. The bindings go into the context as the loop runs, so a condition sees the index of the
iteration before it. Every loop has a cap on its iterations; an expansion is truncated if the cap
stopped a loop that would have gone on.
-/

namespace PageHarvest

/-- The caps of loops that name none. -/
structure LoopCaps where
  whileLoops : Nat := 100
  countedLoops : Nat := 1000
  forEachLoops : Nat := 1000
  deriving DecidableEq, Repr

structure Iteration where
  index : Nat
  bindings : Entries Json
  stepCount : Nat

structure Expansion where
  steps : List Step
  iterations : List Iteration
  truncated : Bool

/-- The variable that holds the number of the iteration. -/
def loopIndex : String := "_loopIndex"

namespace Expansion

/-- The expansion of a choice. -/
def ofSteps (steps : List Step) : Expansion := ⟨steps, [], false⟩

def empty : Expansion := ofSteps []

/-- Puts an iteration with all steps of the body in front. -/
def cons (index : Nat) (bindings : Entries Json) (body : List Step) (e : Expansion) : Expansion :=
  { e with steps := body ++ e.steps, iterations := ⟨index, bindings, body.length⟩ :: e.iterations }

def toJson (e : Expansion) : Entries Json :=
  [("steps", Step.listToJson e.steps),
    ("iterations", .arr (e.iterations.map fun i =>
      .obj [("index", .int i.index), ("bindings", .obj i.bindings),
        ("step_count", .int i.stepCount)])),
    ("truncated", .bool e.truncated)]

end Expansion

/-- The bindings of an iteration: the index wins over a loop variable of its name. -/
def loopBindings (loopVar : String) (value : Json) (index : Nat) : Entries Json :=
  Entries.insert loopIndex (Json.ofNat index) [(loopVar, value)]

namespace Control

/-- A while loop with `room` iterations left before its cap, from the given index on. -/
def expandWhile (condition : Condition) (body : List Step) :
    (room index : Nat) → Context → Expansion × Context
  | room, index, context =>
    if condition.evaluate context then
      match room with
      | 0 => (⟨[], [], true⟩, context)
      | room + 1 =>
        let bindings := [(loopIndex, Json.ofNat index)]
        let (e, context) :=
          expandWhile condition body room (index + 1) (context.setVariables bindings)
        (e.cons index bindings body, context)
    else (Expansion.empty, context)

/-- A counted loop with `room` iterations left before its cap. -/
def expandCount (loopVar : String) (stop step : Float) (body : List Step) :
    (room index : Nat) → (counter : Float) → Context → Expansion × Context
  | room, index, counter, context =>
    if counter < stop then
      match room with
      | 0 => (⟨[], [], true⟩, context)
      | room + 1 =>
        let bindings := loopBindings loopVar (Json.ofFloat counter) index
        let (e, context) :=
          expandCount loopVar stop step body room (index + 1) (counter + step)
            (context.setVariables bindings)
        (e.cons index bindings body, context)
    else (Expansion.empty, context)

/-- A loop over the items of an array, with `room` iterations left before its cap. -/
def expandItems (loopVar : String) (body : List Step) :
    (room index : Nat) → List Json → Context → Expansion × Context
  | _, _, [], context => (Expansion.empty, context)
  | 0, _, _ :: _, context => (⟨[], [], true⟩, context)
  | room + 1, index, item :: items, context =>
    let bindings := loopBindings loopVar item index
    let (e, context) :=
      expandItems loopVar body room (index + 1) items (context.setVariables bindings)
    (e.cons index bindings body, context)

/-- A bound of a counted loop: the number of a value or of what a text resolves to, and the default
where there is none. -/
def bound (context : Context) (raw : Option Json) (default : Float) : Float :=
  match raw with
  | none | some .null => default
  | some v =>
    let f := Json.toFloat (Condition.operand context v)
    if f.isNaN then default else f

/-- The steps of the first case whose value has the text `key`. -/
def chooseCase (key : String) (cases : List SwitchCase) (default : List Step) : List Step :=
  match cases.find? fun c => Json.displayOf c.value == key with
  | some c => c.steps
  | none => default

/-- The expansion of a control step, and the context after it. -/
def expand (caps : LoopCaps) (context : Context) : Control → Expansion × Context
  | branch condition thenSteps elseSteps =>
    (Expansion.ofSteps (if condition.evaluate context then thenSteps else elseSteps), context)
  | switch value cases default =>
    let key := Json.display (Reference.resolve context value)
    (Expansion.ofSteps (chooseCase key cases default), context)
  | repeatWhile condition body cap =>
    expandWhile condition body (cap.getD caps.whileLoops) 0 context
  | countUp loopVar start stop step body cap =>
    expandCount (loopVar.getD "i") (bound context stop 10.0) (bound context step 1.0) body
      (cap.getD caps.countedLoops) 0 (bound context start 0.0) context
  | forEach loopVar items body cap =>
    match Condition.operand context items with
    | some (.arr items) =>
      expandItems (loopVar.getD "item") body (cap.getD caps.forEachLoops) 0 items context
    | _ => (Expansion.empty, context)

end Control

end PageHarvest
