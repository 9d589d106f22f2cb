import PageHarvest.Regex.Syntax
import Std.Data.HashMap

/-!
# The size of a pattern

A pattern that is too large is refused. Its size is the memory of the automaton over UTF-8 bytes
that the pattern describes, read forwards and read backwards: a fixed amount for each state, and
more for states with several transitions. `Node.fits` tells whether both automata stay within the
limit.

* `Meter` counts the states and the memory so far, and fails beyond the limit.
* `Meter.addSet` counts a set of characters. Forwards, states that go on alike are shared, as far as
  a table of a fixed number of places remembers them; backwards, transitions that lead to the same
  state are shared.
* `Meter.addTexts` counts a choice of texts, which is a tree of their bytes.
* `Meter.addNode` counts a pattern.

States are numbered in the order in which they are added, because the place of a state in the tables
depends on the numbers of the states that it leads to.
-/

namespace PageHarvest.Regex

open Text

/-- The most memory that an automaton may take, in bytes. -/
def maxMemory : Nat := 10 * Nat.pow 2 20

/-- The number of states of an automaton and the memory that they take. -/
structure Meter where
  states : Nat
  memory : Nat

namespace Meter

/-- The memory of one state, of one transition out of several, and of one branch. -/
def stateMemory : Nat := 32
def edgeMemory : Nat := 8
def branchMemory : Nat := 4

def start : Meter := ⟨0, 0⟩

/-- Counts more memory. -/
def charge (m : Meter) (bytes : Nat) : Option Meter :=
  let memory := m.memory + bytes
  if memory ≤ maxMemory then some { m with memory } else none

/-- Counts a state with a number of transitions of its own. -/
def add (m : Meter) (edges : Nat) : Option Meter :=
  { m with states := m.states + 1 }.charge (stateMemory + edgeMemory * edges)

/-- Counts states with one way on. -/
def addMany (m : Meter) (n : Nat) : Option Meter :=
  { m with states := m.states + n }.charge (n * stateMemory)

/-- Counts branches of a state that was counted before. -/
def branches (m : Meter) (n : Nat) : Option Meter := m.charge (n * branchMemory)

end Meter

/-! ## Bytes of characters -/

/-- A range of bytes, both ends included. -/
abbrev ByteRange := Nat × Nat

/-- The UTF-8 bytes of a code point. -/
def utf8Bytes (n : Nat) : List Nat :=
  if n < 0x80 then [n]
  else if n < 0x800 then [0xc0 + n / 0x40, 0x80 + n % 0x40]
  else if n < 0x10000 then [0xe0 + n / 0x1000, 0x80 + n / 0x40 % 0x40, 0x80 + n % 0x40]
  else [0xf0 + n / 0x40000, 0x80 + n / 0x1000 % 0x40, 0x80 + n / 0x40 % 0x40, 0x80 + n % 0x40]

/-- Where a range of code points has to be cut so that its bytes are ranges on their own: at a
change of the number of bytes, or where a leading byte has not all of the bytes that may follow. -/
def cut? (a b : Nat) : Option Nat :=
  let bySize := [0x7f, 0x7ff, 0xffff].find? fun last => a ≤ last && last < b
  let byBlock (size : Nat) : Option Nat :=
    if a / size = b / size then none
    else if a % size ≠ 0 then some (a / size * size + (size - 1))
    else if b % size ≠ size - 1 then some (b / size * size - 1)
    else none
  bySize.orElse fun _ =>
    if b < 0x80 then none else [0x40, 0x1000, 0x40000].findSome? byBlock

/-- The ranges of bytes that make up a range of code points. -/
def byteRanges (a b : Nat) : List (List ByteRange) :=
  match cut? a b with
  | some c =>
    if _h : a ≤ c ∧ c < b then byteRanges a c ++ byteRanges (c + 1) b
    else [(utf8Bytes a).zip (utf8Bytes b)]
  | none => [(utf8Bytes a).zip (utf8Bytes b)]
termination_by b - a

/-- The ranges of bytes that make up a set, in ascending order. -/
def byteRangesOf (s : CodeSet) : List (List ByteRange) := s.ranges.flatMap fun r => byteRanges r.1 r.2

/-! ## Sets read forwards -/

/-- A transition over a range of bytes to a state. -/
structure Edge where
  bytes : ByteRange
  target : Nat
  deriving DecidableEq

/-- The numbers that a hash is made of, mixed one by one. -/
def hashNumbers (ns : List Nat) : UInt64 :=
  ns.foldl (fun h n => (h ^^^ n.toUInt64) * 1099511628211) 14695981039346656037

/-- The number of places for states that are shared. -/
def sharedPlaces : Nat := 10000

/-- The states made for a set so far; the last one at each place is remembered. -/
structure Shared where
  meter : Meter
  remembered : Std.HashMap Nat (List Edge × Nat)

namespace Shared

/-- The state with the given transitions, which is made unless it is remembered. -/
def state (sh : Shared) (edges : List Edge) : Option (Nat × Shared) :=
  let place := (hashNumbers (edges.flatMap fun e => [e.bytes.1, e.bytes.2, e.target])).toNat
    % sharedPlaces
  let make : Option (Nat × Shared) := do
    let id := sh.meter.states
    let meter ← sh.meter.add edges.length
    return (id, ⟨meter, sh.remembered.insert place (edges, id)⟩)
  match sh.remembered[place]? with
  | some (known, id) => if known = edges then some (id, sh) else make
  | none => make

end Shared

/-- A state that is not finished: its transitions, last first, and the bytes of the next one, whose
target is still open. -/
structure OpenState where
  edges : List Edge
  next : Option ByteRange

namespace OpenState

/-- The transitions, with the open one leading to the given state. -/
def close (o : OpenState) (target : Nat) : List Edge :=
  match o.next with
  | some r => ⟨r, target⟩ :: o.edges
  | none => o.edges

/-- Finishes a chain of states, innermost first. Gives the state that the chain starts with. -/
def finish (goal : Nat) : List OpenState → Shared → Option (Nat × Shared)
  | [], sh => some (goal, sh)
  | o :: os, sh => do
    let (target, sh) ← finish goal os sh
    sh.state (o.close target).reverse

/-- Adds a sequence of byte ranges to a chain of open states. What the chain shares with the
sequence stays open, and the rest of the chain is finished. -/
def insert (goal : Nat) :
    List ByteRange → List OpenState → Shared → Option (List OpenState × Shared)
  | r :: rs, o :: os, sh =>
    if o.next = some r then do
      let (os, sh) ← insert goal rs os sh
      return (o :: os, sh)
    else do
      let (target, sh) ← finish goal os sh
      return (⟨o.close target, some r⟩ :: rs.map (⟨[], some ·⟩), sh)
  | _, os, sh => some (os, sh)

end OpenState

namespace Meter

/-- Counts a set read forwards: the goal, and in front of it a tree whose equal ends are shared. -/
def addForward (m : Meter) (s : CodeSet) : Option Meter := do
  let goal := m.states
  let m ← m.add 0
  let (chain, sh) ← (byteRangesOf s).foldlM
    (fun (chain, sh) rs => OpenState.insert goal rs chain sh)
    ([⟨[], none⟩], (⟨m, ∅⟩ : Shared))
  let (_, sh) ← OpenState.finish goal chain sh
  return sh.meter

/-! ## Sets read backwards -/

/-- The number of places for transitions that are shared. -/
def sharedEdges : Nat := 1000

/-- Counts one sequence of byte ranges that ends in the given state. -/
def addBackwardRange :
    List ByteRange → Nat → Meter × Std.HashMap Nat (Edge × Nat) →
      Option (Meter × Std.HashMap Nat (Edge × Nat))
  | [], _, ms => some ms
  | r :: rs, target, (m, known) => do
    let place := (hashNumbers [target, r.1, r.2]).toNat % sharedEdges
    let make := do
      let m' ← m.add 0
      addBackwardRange rs m.states (m', known.insert place (⟨r, target⟩, m.states))
    match known[place]? with
    | some (e, id) => if e = ⟨r, target⟩ then addBackwardRange rs id (m, known) else make
    | none => make

/-- Counts a set read backwards: a branch for each sequence of byte ranges. -/
def addBackward (m : Meter) (s : CodeSet) : Option Meter := do
  let m ← m.add 0
  let goal := m.states
  let m ← m.add 0
  let (m, _) ← (byteRangesOf s).foldlM
    (fun (m, known) rs => do
      let (m, known) ← addBackwardRange rs goal (m, known)
      return (← m.branches 1, known))
    (m, (∅ : Std.HashMap Nat (Edge × Nat)))
  return m

/-- Counts a set. A set of ASCII characters is one state with a transition for each range. -/
def addSet (backward : Bool) (m : Meter) (s : CodeSet) : Option Meter :=
  if s.bounds.all (· ≤ 0x80) then do (← m.add 0).add s.ranges.length
  else if backward then m.addBackward s
  else m.addForward s

end Meter

/-! ## Choices of texts -/

/-- The bytes of texts as a tree. Where a text ends and others go on, the transitions are kept in
two chunks, those from before its end and those from after it; the newest chunk stands first. -/
inductive ByteTree
  | node (chunks : List (List (Nat × ByteTree)))

namespace ByteTree

def empty : ByteTree := .node [[]]

/-- Whether no text goes on from here. -/
def isLeaf : ByteTree → Bool
  | .node chunks => chunks.all (·.isEmpty)

/-- Notes the end of a text. A leaf needs to be told once. -/
def mark : ByteTree → ByteTree
  | .node chunks =>
    if (ByteTree.node chunks).isLeaf && 1 < chunks.length then .node chunks
    else .node ([] :: chunks)

/-- Adds a text. -/
def insert : List Nat → ByteTree → ByteTree
  | [], t => t.mark
  | b :: bs, .node chunks =>
    let edges := chunks.headD []
    match edges.lookup b with
    | some t => .node (edges.map (fun e => if e.1 = b then (b, insert bs t) else e) :: chunks.tail)
    | none => .node (((b, insert bs empty) :: edges) :: chunks.tail)

end ByteTree

namespace Meter

/-- Counts the state of a chunk with some transitions. -/
def addChunk (m : Meter) : Nat → Option Meter
  | 0 => some m
  | 1 => m.add 0
  | edges => m.add edges

mutual

/-- Counts a tree of bytes: a state that branches to its chunks, and to the end of each text. -/
def addTree (m : Meter) : ByteTree → Option Meter
  | .node chunks => do
    let m ← addChunks m chunks
    let ends := chunks.length - 1
    (← m.add 0).branches ((chunks.filter (!·.isEmpty)).length + ends)

def addChunks (m : Meter) : List (List (Nat × ByteTree)) → Option Meter
  | [] => some m
  | edges :: rest => do addChunks (← (← addSubtrees m edges).addChunk edges.length) rest

def addSubtrees (m : Meter) : List (Nat × ByteTree) → Option Meter
  | [] => some m
  | (_, t) :: rest => do
    let m ← if t.isLeaf then some m else addTree m t
    addSubtrees m rest

end

/-- Counts a choice of texts. -/
def addTexts (backward : Bool) (m : Meter) (texts : List (List Char)) : Option Meter := do
  let bytes := texts.map fun cs =>
    let bs := cs.flatMap fun c => utf8Bytes c.toNat
    if backward then bs.reverse else bs
  (← m.add 0).addTree (bytes.foldl (fun t bs => t.insert bs) ByteTree.empty)

/-! ## Patterns -/

/-- Counts what leads from one part to the next: a branch, if the first one ends in a choice. -/
def link (m : Meter) (fromChoice : Bool) : Option Meter := m.branches (if fromChoice then 1 else 0)

/-- Counts `n` parts one after the other. A step gives whether its part ends in a choice. -/
def times (step : Meter → Option (Meter × Bool)) : Nat → Meter → Bool → Option (Meter × Bool)
  | 0, m, choice => some (m, choice)
  | n + 1, m, choice => do
    let (m, next) ← step m
    times step n (← m.link choice) next

/-- Counts `n` parts that may be left out, each a choice and the part. -/
def optional (step : Meter → Option (Meter × Bool)) : Nat → Meter → Bool → Option (Meter × Bool)
  | 0, m, choice => some (m, choice)
  | n + 1, m, choice => do
    let (m, next) ← step (← m.add 0)
    optional step n (← (← m.branches 2).link choice) next

/-- Counts a part `n` times; no part at all is a state of its own. -/
def exactly (step : Meter → Option (Meter × Bool)) (n : Nat) (m : Meter) :
    Option (Meter × Bool) := do
  match n with
  | 0 => return (← m.add 0, false)
  | n + 1 =>
    let (m, choice) ← step m
    times step n m choice

/-- Counts a repetition of a part. -/
def addRepeat (step : Meter → Option (Meter × Bool)) (consumes : Bool) (least : Nat)
    (most : Option Nat) (m : Meter) : Option (Meter × Bool) := do
  match least, most with
  | 0, some 1 =>
    let (m, choice) ← step (← m.add 0)
    return (← (← (← m.add 0).branches 2).link choice, false)
  | 0, none =>
    if consumes then
      let (m, choice) ← step (← m.add 0)
      return (← (← m.branches 1).link choice, true)
    else
      let (m, choice) ← step m
      return (← (← (← m.addMany 3).branches 4).link choice, false)
  | least + 1, none =>
    let (m, before) ← if least = 0 then some (m, false) else exactly step least m
    let (m, choice) ← step m
    return (← (← (← (← m.link before).add 0).branches 1).link choice, true)
  | least, some most =>
    let (m, choice) ← exactly step least m
    if least = most then return (m, choice)
    else
      let (m, choice) ← optional step (most - least) (← m.add 0) choice
      return (← m.link choice, false)

end Meter

/-- The texts of a choice, if all its branches are texts. -/
def Node.texts? (branches : List Node) : Option (List (List Char)) :=
  branches.mapM fun
    | .text chars => some chars
    | _ => none

namespace Meter

mutual

/-- Counts a pattern, and tells whether it ends in a choice. -/
def addNode (backward : Bool) (m : Meter) : Node → Option (Meter × Bool)
  | .empty | .look _ => do return (← m.add 0, false)
  | .text chars => do return (← m.addMany (chars.flatMap fun c => utf8Bytes c.toNat).length, false)
  | .set s => do return (← m.addSet backward s, false)
  | .capture _ body =>
    if backward then addNode backward m body
    else do
      let (m, choice) ← addNode backward (← m.add 0) body
      return (← (← m.add 0).link choice, false)
  | .concat parts =>
    if backward then addLastFirst backward parts m else addInOrder backward m none parts
  | .alt branches => do
    match Node.texts? branches with
    | some texts => return (← m.addTexts backward texts, false)
    | none => return (← addBranches backward 0 m branches, false)
  | .repeated least most _ body =>
    m.addRepeat (fun m => addNode backward m body) body.consumes least most

/-- Counts parts that follow each other, after one that may end in a choice. -/
def addInOrder (backward : Bool) (m : Meter) (before : Option Bool) :
    List Node → Option (Meter × Bool)
  | [] => some (m, before.getD false)
  | p :: ps => do
    let (m, choice) ← addNode backward m p
    addInOrder backward (← m.link (before.getD false)) choice ps

/-- Counts parts in the opposite order. -/
def addLastFirst (backward : Bool) : List Node → Meter → Option (Meter × Bool)
  | [], m => some (m, false)
  | p :: ps, m => do
    let (m, before) ← addLastFirst backward ps m
    let (m, choice) ← addNode backward m p
    return (← m.link before, choice)

/-- Counts the branches of a choice. The choice and its end are added after the second branch. -/
def addBranches (backward : Bool) (done : Nat) (m : Meter) : List Node → Option Meter
  | [] => some m
  | b :: bs => do
    let (m, choice) ← addNode backward m b
    let m ← if done = 1 then m.addMany 2 else some m
    addBranches backward (done + 1) (← (← m.branches 1).link choice) bs

end

/-- Counts the whole automaton of a pattern. A match that may start anywhere needs a loop over the
bytes in front of it. -/
def ofNode? (backward : Bool) (n : Node) : Option Meter := do
  let m := Meter.start
  let m ←
    if n.boundBy (if backward then .textEnd else .textStart) backward then m.add 0
    else do (← (← (← m.add 0).add 0).add 1).branches 2
  let (m, choice) ← if backward then addNode true m n else addNode false m (.capture 0 n)
  (← m.add 0).link choice

end Meter

/-- How many texts a choice must have to be searched for as texts, without an automaton. -/
def manyTexts : Nat := 3000

/-- Whether the pattern stays within the limit of memory, whichever way it is read. -/
def Node.fits (n : Node) : Bool :=
  match n with
  | .alt branches =>
    (manyTexts ≤ branches.length && (Node.texts? branches).isSome) || (both n)
  | _ => both n
where
  both (n : Node) : Bool := (Meter.ofNode? false n).isSome && (Meter.ofNode? true n).isSome

end PageHarvest.Regex
