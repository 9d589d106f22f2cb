import PageHarvest.Flow.Context
import PageHarvest.Json.Coercion
import PageHarvest.Text.Blank
import PageHarvest.Text.Letter

/-!
# References to values

`${path}` and `{{path}}` stand for the value at a dotted path. A text that is one reference as a
whole resolves to that value with its type; a text that is the name of a variable resolves to the
variable; in any other text the references are replaced by the texts of their values. A path holds
no closing brace.
-/

namespace PageHarvest.Reference

open Text

/-! ## Paths -/

/-- An index of an array: decimal digits, a plus sign or none, below `2 ^ 64`. -/
def index? (s : String) : Option Nat :=
  let ds := match s.toList with
    | '+' :: rest => rest
    | cs => cs
  if ds.isEmpty || !ds.all isAsciiDigit then none
  else
    let n := Decimal.digitsValue ds 0
    if n < Nat.pow 2 64 then some n else none

/-- One step down: the entry of an object, the item of an array, or the length of an array or a
text. -/
def descend (v : Json) (segment : String) : Option Json :=
  match v with
  | .obj entries => Entries.get? segment entries
  | .arr items =>
    if segment = "length" then some (Json.ofNat items.length)
    else (index? segment).bind fun i => items[i]?
  | .str s => if segment = "length" then some (Json.ofNat s.toList.length) else none
  | _ => none

/-- Steps down along the segments. -/
def descendAll (v : Json) : List String → Option Json
  | [] => some v
  | segment :: rest => (descend v segment).bind fun w => descendAll w rest

/-- The segments of a path, without the blanks around them. -/
def segments (path : List Char) : List String :=
  (splitChars (· == '.') path).map fun s => String.ofList (trimChars s)

/-- The value at a path, if every step exists. -/
def resolvePath (context : Context) (path : String) : Option Json :=
  match segments path.toList with
  | root :: rest =>
    if root = "" then none else (context.lookup root).bind fun v => descendAll v rest
  | [] => none

/-! ## References in texts -/

/-- The reference at the start of a text: its path and what follows it. -/
def readReference? : List Char → Option (List Char × List Char)
  | '$' :: '\x7b' :: cs =>
    match cs.dropWhile (· != '\x7d') with
    | '\x7d' :: rest => some (cs.takeWhile (· != '\x7d'), rest)
    | _ => none
  | '\x7b' :: '\x7b' :: cs =>
    match cs.dropWhile (· != '\x7d') with
    | '\x7d' :: '\x7d' :: rest => some (cs.takeWhile (· != '\x7d'), rest)
    | _ => none
  | _ => none

theorem length_dropWhile_le {α : Type} (p : α → Bool) (cs : List α) :
    (cs.dropWhile p).length ≤ cs.length := by
  induction cs with
  | nil => simp
  | cons c cs ih =>
    rw [List.dropWhile_cons]
    split
    · exact Nat.le_succ_of_le ih
    · exact Nat.le_refl _

theorem length_of_readReference? {cs path rest : List Char}
    (h : readReference? cs = some (path, rest)) : rest.length < cs.length := by
  unfold readReference? at h
  split at h
  · rename_i cs
    have hle := length_dropWhile_le (· != '\x7d') cs
    split at h
    · rename_i heq
      simp only [Option.some.injEq, Prod.mk.injEq] at h
      rw [heq] at hle
      simp only [List.length_cons] at hle ⊢
      rw [← h.2]
      omega
    · cases h
  · rename_i cs
    have hle := length_dropWhile_le (· != '\x7d') cs
    split at h
    · rename_i heq
      simp only [Option.some.injEq, Prod.mk.injEq] at h
      rw [heq] at hle
      simp only [List.length_cons] at hle ⊢
      rw [← h.2]
      omega
    · cases h
  · cases h

/-- The text of the value at a path. -/
def pathText (context : Context) (path : List Char) : List Char :=
  (Json.display (resolvePath context (String.ofList (trimChars path)))).toList

/-- The text with every reference replaced by the text of its value. -/
def interpolateChars (context : Context) (cs : List Char) : List Char :=
  match h : readReference? cs with
  | some (path, rest) =>
    have := length_of_readReference? h
    pathText context path ++ interpolateChars context rest
  | none =>
    match cs with
    | [] => []
    | c :: rest => c :: interpolateChars context rest
termination_by cs.length

def interpolate (context : Context) (s : String) : String :=
  String.ofList (interpolateChars context s.toList)

/-- The path of a text that is one reference as a whole. -/
def wholePath? (s : String) : Option String :=
  match readReference? s.toList with
  | some (path, []) => some (String.ofList (trimChars path))
  | _ => none

/-- The value that a text stands for; `none` if it refers to nothing. -/
def resolve (context : Context) (token : String) : Option Json :=
  match wholePath? token with
  | some path => resolvePath context path
  | none =>
    match context.vars.get? token with
    | some v => some v
    | none => some (.str (interpolate context token))

end PageHarvest.Reference
