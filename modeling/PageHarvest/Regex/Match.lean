import PageHarvest.Regex.Meaning
import PageHarvest.Regex.Reader
import PageHarvest.Regex.Size

/-!
# Matching

A pattern is laid out as a program whose instructions fall through to the next one, apart from
jumps. A text is read once, with all threads of the program kept in the order of their priority,
so the match that is found starts leftmost, and of the matches from there it is the one that
trying the branches in order would find first.
-/

namespace PageHarvest.Regex

open Text

inductive Instr
  /-- Takes a character of the set. -/
  | take (s : CodeSet)
  /-- Goes on if the assertion holds. -/
  | check (l : Look)
  /-- Notes the place. -/
  | save (slot : Nat)
  | jump (target : Nat)
  /-- Tries the first target, then the second. -/
  | split (first second : Nat)
  | accept

/-- A split to `inner` and `after`; a lazy one prefers `after`. -/
def branch (greedy : Bool) (inner after : Nat) : Instr :=
  if greedy then .split inner after else .split after inner

/-- The code `n` times, from address `s` on. -/
def copies (code : Nat → List Instr) : Nat → Nat → List Instr
  | 0, _ => []
  | n + 1, s =>
    let c := code s
    c ++ copies code n (s + c.length)

/-- The code up to `n` times, from address `s` on. -/
def optionalCopies (greedy : Bool) (code : Nat → List Instr) : Nat → Nat → List Instr
  | 0, _ => []
  | n + 1, s =>
    let c := code (s + 1)
    let more := optionalCopies greedy code n (s + 1 + c.length)
    branch greedy (s + 1) (s + 1 + c.length + more.length) :: (c ++ more)

mutual

/-- The code of a pattern from address `s` on. -/
def layout : Node → Nat → List Instr
  | .empty, _ => []
  | .text chars, _ => chars.map fun c => .take (CodeSet.single c.toNat)
  | .set c, _ => [.take c]
  | .look l, _ => [.check l]
  | .capture i body, s => .save (2 * i) :: (layout body (s + 1) ++ [.save (2 * i + 1)])
  | .concat parts, s => layoutAll parts s
  | .alt branches, s => layoutAlt branches s
  | .repeated least (some most) greedy body, s =>
    let front := copies (layout body) least s
    front ++ optionalCopies greedy (layout body) (most - least) (s + front.length)
  | .repeated 0 none greedy body, s =>
    let c := layout body (s + 1)
    let after := s + c.length + 2
    branch greedy (s + 1) after :: (c ++ [branch greedy (s + 1) after])
  | .repeated (least + 1) none greedy body, s =>
    let front := copies (layout body) least s
    let s := s + front.length
    let c := layout body s
    front ++ c ++ [branch greedy s (s + c.length + 1)]

def layoutAll : List Node → Nat → List Instr
  | [], _ => []
  | p :: ps, s =>
    let c := layout p s
    c ++ layoutAll ps (s + c.length)

def layoutAlt : List Node → Nat → List Instr
  | [], _ => []
  | [p], s => layout p s
  | p :: q :: ps, s =>
    let c := layout p (s + 1)
    let next := s + c.length + 2
    let others := layoutAlt (q :: ps) next
    .split (s + 1) next :: (c ++ .jump (next + others.length) :: others)

end

/-- Whether an assertion holds between two characters, either of which may be missing. -/
def Look.holds (before after : Option Char) : Look → Bool
  | .textStart => before.isNone
  | .textEnd => after.isNone
  | .lineStart false => before.isNone || before == some '\n'
  | .lineStart true =>
    before.isNone || before == some '\n' || (before == some '\r' && after != some '\n')
  | .lineEnd false => after.isNone || after == some '\n'
  | .lineEnd true =>
    after.isNone || after == some '\r' || (after == some '\n' && before != some '\r')
  | .wordBoundary u => isWordAt u before != isWordAt u after
  | .notWordBoundary u => isWordAt u before == isWordAt u after
  | .wordStart u => !isWordAt u before && isWordAt u after
  | .wordEnd u => isWordAt u before && !isWordAt u after
  | .wordStartHalf u => !isWordAt u before
  | .wordEndHalf u => !isWordAt u after
where
  isWordAt (u : Bool) (c : Option Char) : Bool := c.any (CharClass.isWord u)

end Regex

/-- A compiled pattern. -/
structure Regex where
  program : Array Regex.Instr
  slots : Nat

namespace Regex

/-- The places noted so far, by slot. -/
abbrev Slots := Array (Option Nat)

/-- A place in the program with the places noted on the way. -/
structure Thread where
  address : Nat
  slots : Slots

/-- The threads at one place of the text, last first, and the addresses already reached. -/
structure ThreadList where
  threads : List Thread
  reached : Array Bool

def ThreadList.start (r : Regex) : ThreadList := ⟨[], Array.replicate r.program.size false⟩

/-- Adds a thread with all that it reaches without taking a character. -/
def ThreadList.add (r : Regex) (pos : Nat) (before after : Option Char) :
    Nat → Nat → Slots → ThreadList → ThreadList
  | 0, _, _, ts => ts
  | fuel + 1, address, slots, ts =>
    if ts.reached.getD address true then ts
    else
      let ts := { ts with reached := ts.reached.setIfInBounds address true }
      match r.program[address]? with
      | none => ts
      | some (.jump target) => ts.add r pos before after fuel target slots
      | some (.split a b) =>
        (ts.add r pos before after fuel a slots).add r pos before after fuel b slots
      | some (.save slot) =>
        ts.add r pos before after fuel (address + 1) (slots.setIfInBounds slot (some pos))
      | some (.check l) =>
        if l.holds before after then ts.add r pos before after fuel (address + 1) slots else ts
      | some (.take _) | some .accept => { ts with threads := ⟨address, slots⟩ :: ts.threads }

/-- Moves the threads over a character, in order, up to the first one that accepts. -/
def advance (r : Regex) (pos : Nat) (c : Char) (after : Option Char) :
    List Thread → ThreadList → Option Slots → ThreadList × Option Slots
  | [], next, best => (next, best)
  | t :: ts, next, best =>
    match r.program[t.address]? with
    | some .accept => (next, some t.slots)
    | some (.take s) =>
      let next :=
        if s.mem c then
          next.add r (pos + 1) (some c) after (r.program.size + 1) (t.address + 1) t.slots
        else next
      advance r pos c after ts next best
    | _ => advance r pos c after ts next best

/-- The first accepting thread. -/
def accepted? (r : Regex) : List Thread → Option Slots
  | [] => none
  | t :: ts =>
    match r.program[t.address]? with
    | some .accept => some t.slots
    | _ => accepted? r ts

/-- Reads the rest of a text. A new thread starts at every place until a match is found. -/
def scan (r : Regex) : List Char → Nat → Option Char → ThreadList → Option Slots → Option Slots
  | rest, pos, before, ts, best =>
    let ts :=
      if best.isNone then
        ts.add r pos before rest.head? (r.program.size + 1) 0 (Array.replicate r.slots none)
      else ts
    match rest with
    | [] => (accepted? r ts.threads.reverse).orElse fun _ => best
    | c :: rest =>
      if ts.threads.isEmpty && best.isSome then best
      else
        let (next, best) := advance r pos c rest.head? ts.threads.reverse (ThreadList.start r) best
        scan r rest (pos + 1) (some c) next best
termination_by rest => rest.length

/-- The places noted by the leftmost match: slot `2 i` is the start of group `i`, slot `2 i + 1` its
end, and group 0 is the whole match. -/
def find? (r : Regex) (text : String) : Option Slots :=
  scan r text.toList 0 none (ThreadList.start r) none

def isMatch (r : Regex) (text : String) : Bool := (r.find? text).isSome

/-- The text between the two places of a group. -/
def Slots.group? (slots : Slots) (text : String) (i : Nat) : Option String :=
  match slots.getD (2 * i) none, slots.getD (2 * i + 1) none with
  | some a, some b => some (String.ofList ((text.toList.drop a).take (b - a)))
  | _, _ => none

mutual

/-- The number of groups that capture. -/
def Node.groupCount : Node → Nat
  | .empty | .text _ | .set _ | .look _ => 0
  | .capture i body => max i body.groupCount
  | .concat parts => Node.groupCountOfAll parts
  | .alt branches => Node.groupCountOfAll branches
  | .repeated _ _ _ body => body.groupCount

def Node.groupCountOfAll : List Node → Nat
  | [] => 0
  | p :: ps => max p.groupCount (groupCountOfAll ps)

end

def ofNode (n : Node) : Regex :=
  let code := .save 0 :: (layout n 1 ++ [.save 1, .accept])
  ⟨code.toArray, 2 * (n.groupCount + 1)⟩

/-- Compiles a pattern, if it is in the notation, has a meaning, and is not too large. -/
def ofPattern? (pattern : String) : Option Regex := do
  let (n, _) ← (← readPattern? pattern).resolve? {}
  if n.fits then some (ofNode n) else none

end Regex

end PageHarvest
