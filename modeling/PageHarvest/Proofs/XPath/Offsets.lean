import PageHarvest.Proofs.Text.Offsets
import PageHarvest.Proofs.XPath.Reading

/-!
# Reading paths by offsets

The reader of paths takes texts apart at offsets, which count bytes. `Path.readAt` is the reader
with its offsets: where it slices a text at an offset that is not between two characters, it stops
there, and says at which slice.

* `closingOffset?_eq`, `cutAt_name`: the offsets of brackets, and of the ends of names;
* `splitsAlike`: the search for joints gives the pieces of a predicate, or slices amiss one byte
  into a character outside quotes;
* `Pieces.mem_jointOffsets_iff`: the pieces are cut at the joints outside quotes, but for those that
  overlap a cut in front of them;
* `scans_follow_quotes`: the bracket and the joints are found by the same quotes;
* `readAt_same`: the reader with offsets does what the reader of characters does, and only the
  search for joints slices amiss;
* `toCss_offsets`: so for every text.
-/

namespace PageHarvest.XPath

open Text

/-- The slices that the reader takes. -/
inductive Slice
  /-- A name, and what follows it. -/
  | name
  /-- A predicate up to its bracket. -/
  | predicate
  /-- What follows the bracket of a predicate. -/
  | behind
  /-- What is left of a predicate at the place where a joint is looked for. -/
  | search
  /-- A piece of a predicate. -/
  | piece
  deriving DecidableEq, Repr

/-- Why the reader ends without a path. -/
inductive Stop
  | unsupported
  /-- An offset is inside a character or behind the end of the text. -/
  | amiss (slice : Slice) (text : List Char) (offset : Nat)
  deriving DecidableEq, Repr

/-- The parts of a text at an offset. -/
def cutAt (slice : Slice) (offset : Nat) (text : List Char) :
    Except Stop (List Char × List Char) :=
  match cutAt? offset text with
  | some parts => .ok parts
  | none => .error (.amiss slice text offset)

def orStop {α : Type} : Option α → Except Stop α
  | some a => .ok a
  | none => .error .unsupported

/-! ## The reader with its offsets -/

/-- The offset of the bracket that closes a predicate; the text starts at the offset `i`. -/
def closingOffset? : Option Char → Nat → List Char → Option Nat
  | _, _, [] => none
  | some q, i, c :: cs => closingOffset? (if c = q then none else some q) (i + c.utf8Size) cs
  | none, i, c :: cs =>
    if isQuote c then closingOffset? (some c) (i + c.utf8Size) cs
    else if c = '[' then none
    else if c = ']' then some i
    else closingOffset? none (i + c.utf8Size) cs

/-- The pieces of a predicate from the offset `start` on, where the search for joints has come to
the offset `i`. It goes byte by byte, and holds the byte of the quote that it is inside of. -/
def splitFrom (predicate : List Char) (quote : Option UInt8) (start i : Nat) :
    Except Stop (List (List Char)) :=
  if h : i < (bytes predicate).length then
    let b := (bytes predicate)[i]
    match quote with
    | some q => splitFrom predicate (if b = q then none else some q) start (i + 1)
    | none =>
      if b = 39 ∨ b = 34 then splitFrom predicate (some b) start (i + 1)
      else do
        let (_, left) ← cutAt .search i predicate
        if joint.isPrefixOf left then
          let (front, _) ← cutAt .piece i predicate
          let (_, piece) ← cutAt .piece start front
          return piece :: (← splitFrom predicate none (i + 5) (i + 5))
        else splitFrom predicate none start (i + 1)
  else do
    let (_, piece) ← cutAt .piece start predicate
    return [piece]
termination_by (bytes predicate).length - i

def readPredicatesAt : Nat → Bool → List Char → Except Stop (List (List Term) × List Char)
  | fuel + 1, filtered, '[' :: after => do
    let close ← orStop (closingOffset? none 0 after)
    let (predicate, _) ← cutAt .predicate close after
    let (_, rest) ← cutAt .behind (close + 1) after
    let pieces ← splitFrom predicate none 0 0
    let terms ← orStop (readTerms? filtered pieces)
    let (others, rest) ← readPredicatesAt fuel (filtered || terms.any Term.isTest) rest
    return (terms :: others, rest)
  | _, _, cs => .ok ([], cs)

/-- The offset of the first character that is none of a name, or of the end of the text. -/
def nameOffset : List Char → Nat
  | [] => 0
  | c :: cs => if isNameChar c then c.utf8Size + nameOffset cs else 0

def readStepAt (cs : List Char) : Except Stop (Step × List Char) := do
  let (name, rest) ← cutAt .name (nameOffset cs) cs
  if name.isEmpty || (name.contains '*' && name != ['*']) then .error .unsupported
  else
    let (predicates, rest) ← readPredicatesAt rest.length false rest
    return (⟨String.ofList name, predicates⟩, rest)

def readStepsAt : Nat → List Char → Except Stop (List (Axis × Step))
  | _, [] => .ok []
  | fuel + 1, '/' :: '/' :: cs => do
    let (s, rest) ← readStepAt cs
    return (.descendant, s) :: (← readStepsAt fuel rest)
  | fuel + 1, '/' :: cs => do
    let (s, rest) ← readStepAt cs
    return (.child, s) :: (← readStepsAt fuel rest)
  | _, _ => .error .unsupported

def Path.readAt (s : String) : Except Stop Path := do
  let (anchor, cs) ← orStop (readAnchor? (trimChars s.toList))
  let (first, rest) ← readStepAt cs
  return ⟨anchor, first, ← readStepsAt rest.length rest⟩

/-- The selector of a path given as text, by offsets. -/
def toCssAt (xpath : String) : Except Stop String := (Path.readAt xpath).map Path.toCss

/-! ## Brackets and names -/

theorem cutAt_append (slice : Slice) (front back : List Char) :
    cutAt slice (byteSize front) (front ++ back) = .ok (front, back) := by
  rw [cutAt, cutAt?_append]

/-- The bracket that closes a predicate stands where the predicate ends. -/
theorem closingOffset?_eq (q : Option Char) (i : Nat) (cs : List Char) :
    closingOffset? q i cs = (readPredicate? q cs).map fun r => i + byteSize r.1 := by
  have later {x : Option (List Char × List Char)} (c : Char) (i : Nat) :
      x.map (fun r => i + c.utf8Size + byteSize r.1) =
        (x.map fun r => (c :: r.1, r.2)).map fun r => i + byteSize r.1 := by
    rw [Option.map_map]
    refine congrArg (Option.map · x) (funext fun r => ?_)
    exact Nat.add_assoc i c.utf8Size (byteSize r.1)
  fun_induction readPredicate? q cs generalizing i with
  | case1 q => cases q <;> rfl
  | case2 q c cs ih => rw [closingOffset?, ih, later]
  | case3 c cs quote ih => rw [closingOffset?, if_pos quote, ih, later]
  | case4 cs noQuote =>
    rw [closingOffset?, if_neg noQuote, if_pos rfl]
    rfl
  | case5 cs noQuote noOpening =>
    rw [closingOffset?, if_neg noQuote, if_neg noOpening, if_pos rfl]
    rfl
  | case6 c cs noQuote noOpening noClosing ih =>
    rw [closingOffset?, if_neg noQuote, if_neg noOpening, if_neg noClosing, ih, later]

theorem closingOffset?_eq_some {text : List Char} {i : Nat} :
    closingOffset? none 0 text = some i ↔ ∃ predicate rest, text = predicate ++ ']' :: rest ∧
      byteSize predicate = i ∧ Closed none predicate := by
  simp only [closingOffset?_eq, Option.map_eq_some_iff, Prod.exists, readPredicate?_eq_some,
    Nat.zero_add]
  constructor
  · rintro ⟨predicate, rest, ⟨shape, closed⟩, size⟩
    exact ⟨predicate, rest, shape, size, closed⟩
  · rintro ⟨predicate, rest, shape, size, closed⟩
    exact ⟨predicate, rest, ⟨shape, closed⟩, size⟩

theorem nameOffset_eq (cs : List Char) : nameOffset cs = byteSize (cs.takeWhile isNameChar) := by
  induction cs with
  | nil => rfl
  | cons c cs ih => by_cases name : isNameChar c = true <;> simp [nameOffset, name, ih]

/-- A name is cut off between two characters. -/
theorem cutAt_name (cs : List Char) :
    cutAt .name (nameOffset cs) cs = .ok (cs.takeWhile isNameChar, cs.dropWhile isNameChar) := by
  have cut := cutAt_append .name (cs.takeWhile isNameChar) (cs.dropWhile isNameChar)
  rwa [List.takeWhile_append_dropWhile, ← nameOffset_eq] at cut

/-! ## The search for joints -/

/-- The byte of a quote. -/
def quoteByte (q : Char) : UInt8 := UInt8.ofNat q.toNat

section Search

variable {predicate : List Char} {b : UInt8} {start i : Nat}

theorem splitFrom_quoted {q : UInt8} (hb : (bytes predicate)[i]? = some b) :
    splitFrom predicate (some q) start i =
      splitFrom predicate (if b = q then none else some q) start (i + 1) := by
  obtain ⟨lt, rfl⟩ := List.getElem?_eq_some_iff.1 hb
  rw [splitFrom, dif_pos lt]

theorem splitFrom_opening (hb : (bytes predicate)[i]? = some b) (quote : b = 39 ∨ b = 34) :
    splitFrom predicate none start i = splitFrom predicate (some b) start (i + 1) := by
  obtain ⟨lt, rfl⟩ := List.getElem?_eq_some_iff.1 hb
  rw [splitFrom, dif_pos lt]
  exact if_pos quote

theorem splitFrom_bare (hb : (bytes predicate)[i]? = some b) (noQuote : ¬ (b = 39 ∨ b = 34)) :
    splitFrom predicate none start i = (do
      let (_, left) ← cutAt .search i predicate
      if joint.isPrefixOf left then
        let (front, _) ← cutAt .piece i predicate
        let (_, piece) ← cutAt .piece start front
        return piece :: (← splitFrom predicate none (i + 5) (i + 5))
      else splitFrom predicate none start (i + 1)) := by
  obtain ⟨lt, rfl⟩ := List.getElem?_eq_some_iff.1 hb
  rw [splitFrom, dif_pos lt]
  exact if_neg noQuote

theorem splitFrom_end (he : (bytes predicate)[i]? = none) (quote : Option UInt8) :
    splitFrom predicate quote start i = (do
      let (_, piece) ← cutAt .piece start predicate
      return [piece]) := by
  rw [splitFrom, dif_neg (Nat.not_lt.2 (List.getElem?_eq_none_iff.1 he))]

end Search

section Characters

variable {c : Char}

theorem byte_ascii (ascii : isAscii c = true) (front cs : List Char) :
    (bytes (front ++ c :: cs))[byteSize front]? = some (quoteByte c) := by
  have inside : 0 < c.utf8Size := c.utf8Size_pos
  rw [← Nat.add_zero (byteSize front), getElem?_bytes inside, encode_ascii ascii]
  rfl

theorem isAscii_of_isQuote (h : isQuote c = true) : isAscii c = true := by
  rcases isQuote_iff.1 h with rfl | rfl <;> rfl

theorem quoteByte_eq_iff {x : Char} (hc : isAscii c = true) (hx : isAscii x = true) :
    quoteByte c = quoteByte x ↔ c = x := by
  have low : c.toNat < 128 := of_decide_eq_true hc
  have low' : x.toNat < 128 := of_decide_eq_true hx
  constructor
  · intro same
    have numbers := congrArg UInt8.toNat same
    rw [quoteByte, quoteByte, UInt8.toNat_ofNat', UInt8.toNat_ofNat', Nat.mod_eq_of_lt (by omega),
      Nat.mod_eq_of_lt (by omega)] at numbers
    exact Char.toNat_inj.1 numbers
  · rintro rfl
    rfl

/-- A character of ASCII is a quote if its byte is. -/
theorem isQuote_iff_byte (ascii : isAscii c = true) :
    isQuote c = true ↔ quoteByte c = 39 ∨ quoteByte c = 34 := by
  rw [isQuote_iff]
  exact or_congr (quoteByte_eq_iff (x := '\'') ascii rfl).symm
    (quoteByte_eq_iff (x := '"') ascii rfl).symm

/-- Inside quotes, a character of several bytes is passed byte by byte. -/
theorem splitFrom_wide {x : Char} (quote : isQuote x = true) (wide : isAscii c = false)
    (front cs : List Char) (start : Nat) {k : Nat} (hk : k ≤ c.utf8Size) :
    splitFrom (front ++ c :: cs) (some (quoteByte x)) start (byteSize front) =
      splitFrom (front ++ c :: cs) (some (quoteByte x)) start (byteSize front + k) := by
  induction k with
  | zero => rfl
  | succ k ih =>
    have lt : k < (String.utf8EncodeChar c).length := by
      rw [String.length_utf8EncodeChar]
      omega
    have here := (getElem?_bytes hk front cs).trans (List.getElem?_eq_getElem lt)
    have beyond := (encode_wide wide).2 _ (List.getElem_mem lt)
    have other : (String.utf8EncodeChar c)[k] ≠ quoteByte x := by
      intro same
      rw [same] at beyond
      rcases isQuote_iff.1 quote with rfl | rfl <;> exact absurd beyond (by decide)
    rw [ih (by omega), splitFrom_quoted here, if_neg other]
    rfl

/-- Inside quotes, a character is passed, or ends them. -/
theorem splitFrom_inside {x : Char} (quote : isQuote x = true) (front cs : List Char)
    (start : Nat) :
    splitFrom (front ++ c :: cs) (some (quoteByte x)) start (byteSize front) =
      splitFrom (front ++ c :: cs) ((if c = x then none else some x).map quoteByte) start
        (byteSize front + c.utf8Size) := by
  cases ascii : isAscii c with
  | true =>
    rw [splitFrom_quoted (byte_ascii ascii front cs), utf8Size_ascii ascii]
    have same := quoteByte_eq_iff ascii (isAscii_of_isQuote quote)
    by_cases closing : c = x
    · rw [if_pos (same.2 closing), if_pos closing]
      rfl
    · rw [if_neg (same.not.2 closing), if_neg closing]
      rfl
  | false =>
    have other : c ≠ x := by
      rintro rfl
      rw [isAscii_of_isQuote quote] at ascii
      cases ascii
    rw [if_neg other]
    exact splitFrom_wide quote ascii front cs start (Nat.le_refl _)

end Characters

/-! ### Pieces -/

/-- The search does what `splitAnd` does for the rest `cs` of a predicate, behind its piece so far:
it gives the same pieces, or slices amiss one byte into a character outside quotes. -/
def SplitsAlike (q : Option Char) (front piece cs : List Char) : Prop :=
  let result := splitFrom (front ++ (piece ++ cs)) (q.map quoteByte) (byteSize front)
    (byteSize (front ++ piece))
  match splitAnd q cs with
  | .ok ps => result = .ok (piece.foldr consFirst ps)
  | .error _ => ∃ before c after, cs = before ++ c :: after ∧ AsciiOutside q before ∧
      isAscii c = false ∧ result = .error (.amiss .search (front ++ (piece ++ cs))
        (byteSize (front ++ (piece ++ before)) + 1))

section Pieces

variable {q q' : Option Char} {c : Char} {front piece cs : List Char}

/-- One more character of a piece. -/
theorem SplitsAlike.cons (h : SplitsAlike q' front (piece ++ [c]) cs)
    (cut : splitAnd q (c :: cs) = (splitAnd q' cs).map (consFirst c))
    (step : splitFrom (front ++ piece ++ c :: cs) (q.map quoteByte) (byteSize front)
        (byteSize (front ++ piece)) =
      splitFrom (front ++ piece ++ c :: cs) (q'.map quoteByte) (byteSize front)
        (byteSize (front ++ piece) + c.utf8Size))
    (outside : ∀ before, AsciiOutside q' before → AsciiOutside q (c :: before)) :
    SplitsAlike q front piece (c :: cs) := by
  have text : front ++ (piece ++ [c] ++ cs) = front ++ (piece ++ c :: cs) := by simp
  have offset : byteSize (front ++ (piece ++ [c])) = byteSize (front ++ piece) + c.utf8Size := by
    simp [Nat.add_assoc]
  unfold SplitsAlike at h ⊢
  rw [text, offset] at h
  rw [List.append_assoc] at step
  rw [cut, step]
  cases pieces : splitAnd q' cs with
  | ok ps =>
    rw [pieces] at h
    simp only [Except.map]
    rw [h, List.foldr_append]
    rfl
  | error e =>
    rw [pieces] at h
    obtain ⟨before, x, after, rfl, ascii, wide, stopped⟩ := h
    refine ⟨c :: before, x, after, rfl, outside before ascii, wide, ?_⟩
    rw [stopped]
    simp

theorem SplitsAlike.nil (q : Option Char) (front piece : List Char) :
    SplitsAlike q front piece [] := by
  have ends : (bytes (front ++ (piece ++ [])))[byteSize (front ++ piece)]? = none := by
    rw [List.append_nil]
    exact getElem?_bytes_end _
  unfold SplitsAlike
  rw [splitFrom_end ends, cutAt_append, splitAnd]
  simp only [bind, Except.bind, List.append_nil, foldr_consFirst]
  rfl

/-- The search passes a joint in one step. -/
theorem splitFrom_joint (front piece cs : List Char) :
    splitFrom (front ++ (piece ++ (joint ++ cs))) none (byteSize front)
        (byteSize (front ++ piece)) = (do
      return piece :: (← splitFrom (front ++ piece ++ joint ++ cs) none
        (byteSize (front ++ piece ++ joint)) (byteSize (front ++ piece ++ joint)))) := by
  have shape : front ++ (piece ++ (joint ++ cs)) = front ++ piece ++ (joint ++ cs) := by simp
  have behind : byteSize (front ++ piece) + 5 = byteSize (front ++ piece ++ joint) := by
    rw [byteSize_append (front ++ piece)]
    rfl
  have blank : (bytes (front ++ piece ++ (joint ++ cs)))[byteSize (front ++ piece)]? = some 32 :=
    byte_ascii (c := ' ') rfl (front ++ piece) _
  have found : joint.isPrefixOf (joint ++ cs) = true :=
    List.isPrefixOf_iff_prefix.2 (List.prefix_append joint cs)
  rw [shape, splitFrom_bare blank (by decide), cutAt_append, cutAt_append]
  simp only [bind, Except.bind, found, if_true]
  rw [cutAt_append, behind, ← List.append_assoc (front ++ piece)]

/-- A joint ends a piece, and the next one begins behind it. -/
theorem SplitsAlike.joined (h : SplitsAlike none (front ++ piece ++ joint) [] cs) :
    SplitsAlike none front piece (joint ++ cs) := by
  have ascii : AsciiOutside none joint := outside_of_all (by simp [joint, isQuote, isAscii])
  unfold SplitsAlike at h ⊢
  rw [List.nil_append, List.append_nil] at h
  rw [Option.map_none, splitFrom_joint, splitAnd_joint]
  rw [Option.map_none] at h
  cases pieces : splitAnd none cs with
  | ok ps =>
    rw [pieces] at h
    simp only [Except.map, h]
    exact congrArg Except.ok (foldr_consFirst piece ps).symm
  | error e =>
    rw [pieces] at h
    obtain ⟨before, x, after, rfl, outside, wide, stopped⟩ := h
    refine ⟨joint ++ before, x, after, by simp, ascii.append outside fun _ _ => id, wide, ?_⟩
    rw [stopped]
    simp [bind, Except.bind]

/-- A character of several bytes outside quotes: the search stops at its second byte. -/
theorem SplitsAlike.wide (noQuote : isQuote c = false) (wide : isAscii c = false) :
    SplitsAlike none front piece (c :: cs) := by
  obtain ⟨long, beyond⟩ := encode_wide wide
  have byte {k : Nat} (inside : k < c.utf8Size) :
      ∃ b, (bytes (front ++ piece ++ c :: cs))[byteSize (front ++ piece) + k]? = some b ∧
        ¬ (b = 39 ∨ b = 34) := by
    have lt : k < (String.utf8EncodeChar c).length := by rwa [String.length_utf8EncodeChar]
    have high := beyond _ (List.getElem_mem lt)
    refine ⟨_, (getElem?_bytes inside _ cs).trans (List.getElem?_eq_getElem lt), ?_⟩
    rintro (same | same) <;> exact absurd (same ▸ high) (by decide)
  obtain ⟨first, atFirst, noQuote₁⟩ := byte c.utf8Size_pos
  obtain ⟨second, atSecond, noQuote₂⟩ := byte long
  have noBlank : c ≠ ' ' := by
    rintro rfl
    cases wide
  have noJoint : ¬ joint.isPrefixOf (c :: cs) = true := by
    rw [List.isPrefixOf_iff_prefix]
    rintro ⟨rest, same⟩
    exact noBlank (List.cons.inj same).1.symm
  have stops : splitAnd none (c :: cs) = .error .cutInsideCharacter := by
    rw [splitAnd.eq_4 _ _ fun _ blank _ => noBlank blank, noQuote, wide]
    rfl
  have amiss : cutAt .search (byteSize (front ++ piece) + 1) (front ++ piece ++ c :: cs) =
      .error (.amiss .search (front ++ piece ++ c :: cs) (byteSize (front ++ piece) + 1)) := by
    rw [cutAt, cutAt?_inside Nat.one_pos long]
  unfold SplitsAlike
  rw [stops]
  refine ⟨[], c, cs, rfl, .nil, wide, ?_⟩
  rw [Nat.add_zero] at atFirst
  rw [← List.append_assoc, Option.map_none, splitFrom_bare atFirst noQuote₁, cutAt_append]
  simp only [bind, Except.bind]
  rw [if_neg noJoint, splitFrom_bare atSecond noQuote₂, amiss, List.append_nil]
  rfl

/-- The two scans go through a predicate side by side, one character at a time. -/
theorem splitsAlike (quotes : ∀ x ∈ q, isQuote x = true) (front piece cs : List Char) :
    SplitsAlike q front piece cs := by
  have outside : ∀ x ∈ (none : Option Char), isQuote x = true := by simp
  fun_induction splitAnd q cs generalizing front piece with
  | case1 q => exact .nil q front piece
  | case2 q c cs ih =>
    have quote : isQuote q = true := quotes q rfl
    have later : ∀ x ∈ (if c = q then none else some q), isQuote x = true := by
      intro x hx
      split at hx
      · cases hx
      · exact Option.some.inj hx ▸ quote
    exact (ih later front (piece ++ [c])).cons rfl (splitFrom_inside quote (front ++ piece) cs _)
      fun _ => .inside
  | case3 cs ih => exact (ih outside _ _).joined
  | case4 c cs apart quote ih =>
    have ascii := isAscii_of_isQuote quote
    refine (ih (fun x hx => Option.some.inj hx ▸ quote) front (piece ++ [c])).cons
      (splitAnd_quote quote cs) ?_ fun _ => .opening quote
    rw [utf8Size_ascii ascii]
    exact splitFrom_opening (byte_ascii ascii _ cs) ((isQuote_iff_byte ascii).1 quote)
  | case5 c cs apart noQuote ascii ih =>
    have bare : isQuote c = false := Bool.eq_false_iff.2 noQuote
    have noJoint := not_joint_of_apart apart
    refine (ih outside front (piece ++ [c])).cons (splitAnd_bare bare ascii noJoint) ?_
      fun _ => .bare bare ascii
    rw [utf8Size_ascii ascii, Option.map_none,
      splitFrom_bare (byte_ascii ascii _ cs) ((isQuote_iff_byte ascii).not.1 noQuote), cutAt_append]
    simp only [bind, Except.bind]
    rw [if_neg (mt List.isPrefixOf_iff_prefix.1 noJoint)]
  | case6 c cs apart noQuote noAscii =>
    exact .wide (Bool.eq_false_iff.2 noQuote) (Bool.eq_false_iff.2 noAscii)

theorem splitFrom_of_splitAnd {ps : List (List Char)} (h : splitAnd none cs = .ok ps) :
    splitFrom cs none 0 0 = .ok ps := by
  have alike := splitsAlike (q := none) (by simp) [] [] cs
  unfold SplitsAlike at alike
  rwa [h] at alike

end Pieces

/-! ### Joints -/

section Joints

variable {q : Option Char} {cs ds back : List Char} {ps : List (List Char)} {p : Nat}

/-- The offsets at which pieces are cut off, in the text that they make up with their joints. -/
def jointOffsets : List (List Char) → List Nat
  | piece :: next :: pieces =>
    byteSize piece :: (jointOffsets (next :: pieces)).map (byteSize (piece ++ joint) + ·)
  | _ => []

/-- A joint begins at the offset `p`, outside of quotes. -/
def JointAt (q : Option Char) (cs : List Char) (p : Nat) : Prop :=
  ∃ front back, cs = front ++ (joint ++ back) ∧ p = byteSize front ∧ quoteAfter q front = none

/-- The joints behind a text are those of what follows it. -/
theorem jointAt_append :
    JointAt q (cs ++ ds) (byteSize cs + p) ↔ JointAt (quoteAfter q cs) ds p := by
  constructor
  · rintro ⟨front, back, shape, size, outside⟩
    rcases List.append_eq_append_iff.1 shape with ⟨more, rfl, rest⟩ | ⟨more, rfl, rest⟩
    · rw [byteSize_append, Nat.add_left_cancel_iff] at size
      exact ⟨more, back, rest, size, quoteAfter_append q cs more ▸ outside⟩
    · rw [byteSize_append] at size
      obtain rfl : more = [] := byteSize_eq_zero.1 (by omega)
      rw [byteSize_nil] at size
      rw [List.append_nil]
      exact ⟨[], back, rest.symm, (by omega : p = 0), outside⟩
  · rintro ⟨front, back, rfl, rfl, outside⟩
    exact ⟨cs ++ front, back, by simp, by simp, by rwa [quoteAfter_append]⟩

/-- No joint begins in an uncut text. -/
theorem Uncut.le_of_jointAt (h : Uncut back q cs) (found : JointAt q (cs ++ back) p) :
    byteSize cs ≤ p := by
  obtain ⟨front, after, shape, rfl, outside⟩ := found
  rcases List.append_eq_append_iff.1 shape with ⟨more, rfl, _⟩ | ⟨more, rfl, rest⟩
  · rw [byteSize_append]
    omega
  · cases more with
    | nil => simp
    | cons c more =>
      obtain ⟨rfl, _⟩ := List.cons.inj rest
      have noJoint := ((outside_iff.1 h).2 front ' ' more rfl outside rfl).2
      exact absurd ⟨after, rest⟩ noJoint

theorem mem_jointOffsets_cons (h : ps ≠ []) : p ∈ jointOffsets (cs :: ps) ↔
    p = byteSize cs ∨ ∃ r ∈ jointOffsets ps, byteSize (cs ++ joint) + r = p := by
  obtain ⟨next, pieces, rfl⟩ := List.exists_cons_of_ne_nil h
  rw [jointOffsets, List.mem_cons, List.mem_map]

/-- The pieces are cut at the joints outside of quotes, from left to right: at every one that does
not begin inside a joint that is cut out. -/
theorem Pieces.mem_jointOffsets_iff (h : Pieces q ps cs) : p ∈ jointOffsets ps ↔
    JointAt q cs p ∧ ∀ p' ∈ jointOffsets ps, p' < p → p' + byteSize joint ≤ p := by
  induction h generalizing p with
  | @last q cs uncut =>
    refine ⟨nofun, fun ⟨found, _⟩ => ?_⟩
    have beyond := uncut.le_of_jointAt (cs.append_nil.symm ▸ found)
    obtain ⟨front, back, rfl, rfl, _⟩ := found
    have some : byteSize joint = 5 := rfl
    simp only [byteSize_append] at beyond
    omega
  | @more q ps cs ds uncut later ih =>
    have size : byteSize (cs ++ joint) = byteSize cs + byteSize joint := byteSize_append cs joint
    have behind : quoteAfter q (cs ++ joint) = none := by
      rw [quoteAfter_append, uncut.closed]
      rfl
    have shift (r : Nat) :
        JointAt q (cs ++ (joint ++ ds)) (byteSize (cs ++ joint) + r) ↔ JointAt none ds r := by
      rw [← List.append_assoc, jointAt_append, behind]
    -- the first joint is cut out, so the next one to be cut out begins behind it, in `ds`
    simp only [mem_jointOffsets_cons later.ne_nil]
    constructor
    · rintro (rfl | ⟨r, cut, rfl⟩)
      · refine ⟨⟨cs, ds, rfl, rfl, uncut.closed⟩, ?_⟩
        rintro _ (rfl | ⟨r, _, rfl⟩) _ <;> omega
      · obtain ⟨found, apart⟩ := ih.1 cut
        refine ⟨(shift r).2 found, ?_⟩
        rintro _ (rfl | ⟨r', cut', rfl⟩) lt
        · omega
        · have := apart r' cut' (by omega)
          omega
    · rintro ⟨found, apart⟩
      rcases Nat.eq_or_lt_of_le (uncut.le_of_jointAt found) with same | lt
      · exact .inl same.symm
      · have le := apart _ (.inl rfl) lt
        obtain ⟨r, rfl⟩ := Nat.exists_eq_add_of_le (size ▸ le)
        refine .inr ⟨r, ih.2 ⟨(shift r).1 found, fun r' cut' lt' => ?_⟩, rfl⟩
        have := apart _ (.inr ⟨r', cut', rfl⟩) (by omega)
        omega

end Joints

/-- The search for the bracket goes by characters, the search for joints by bytes, and each follows
the quotes on its own. In a text with characters of several bytes inside quotes only, both keep to
the same quotes: the bracket found is the first one outside of quotes, and closes a predicate that
closes its quotes; and the predicate is cut at its joints outside of quotes, from left to right,
into pieces that make it up and close their quotes. The reader of characters finds the same
predicate and the same pieces. -/
theorem scans_follow_quotes (text : List Char) (i : Nat)
    (quoted : EachOutside (fun c => isAscii c = true) text)
    (closing : closingOffset? none 0 text = some i) :
    ∃ predicate rest pieces,
      (text = predicate ++ ']' :: rest ∧ byteSize predicate = i ∧
        quoteAfter none predicate = none ∧
        EachOutside (fun c => c ≠ '[' ∧ c ≠ ']') predicate ∧
        ∀ front q back, predicate = front ++ q :: back → quoteAfter none front = none →
          isQuote q = true → q ∈ back) ∧
      (splitFrom predicate none 0 0 = .ok pieces ∧
        (∀ p, p ∈ jointOffsets pieces ↔ JointAt none predicate p ∧
          ∀ p' ∈ jointOffsets pieces, p' < p → p' + byteSize joint ≤ p) ∧
        joint.intercalate pieces = predicate ∧
        ∀ piece ∈ pieces, quoteAfter none piece = none) ∧
      readPredicate? none text = some (predicate, rest) ∧
      splitAnd none predicate = .ok pieces := by
  obtain ⟨predicate, rest, rfl, size, closed⟩ := closingOffset?_eq_some.1 closing
  obtain ⟨ends, noBracket⟩ := (outside_iff_each (by simp [isQuote_iff])).1 closed
  have ascii : AsciiOutside none predicate :=
    (outside_iff_each fun c => isAscii_of_isQuote).2 ⟨ends, quoted.front⟩
  obtain ⟨pieces, cut⟩ := exists_splitAnd ascii
  have cuts : Pieces none pieces predicate := (splitAnd_eq_ok closed).1 cut
  refine ⟨predicate, rest, pieces, ⟨rfl, size, ends, noBracket, ?_⟩,
    ⟨splitFrom_of_splitAnd cut, fun p => cuts.mem_jointOffsets_iff, cuts.joined, cuts.closed⟩,
    readPredicate?_append closed rest, cut⟩
  rintro front q back rfl outside quote
  exact mem_of_quoteAfter quote outside ends

/-- Quoted brackets, joints and accents are passed over; of two joints that overlap, the first is
taken. -/
theorem scans_follow_quotes_accented :
    EachOutside (fun c => isAscii c = true) "@t='é] and ' and and @b]/x".toList ∧
    closingOffset? none 0 "@t='é] and ' and and @b]/x".toList = some 24 ∧
    splitFrom "@t='é] and ' and and @b".toList none 0 0 =
      .ok ["@t='é] and '".toList, "and @b".toList] := by
  have quoted : EachOutside (fun c => isAscii c = true) "@t='é] and ' and and @b]/x".toList := by
    decide
  have closing : closingOffset? none 0 "@t='é] and ' and and @b]/x".toList = some 24 := by
    decide
  refine ⟨quoted, closing, ?_⟩
  obtain ⟨predicate, rest, pieces, _, ⟨split, _⟩, read, cut⟩ :=
    scans_follow_quotes _ _ quoted closing
  obtain ⟨rfl, rfl⟩ := Prod.mk.inj (Option.some.inj (read.symm.trans rfl))
  obtain rfl := Except.ok.inj (cut.symm.trans rfl)
  exact split

/-! ## The two readers -/

/-- A slice amiss: in the search for joints, one byte into the first character outside quotes that
takes several, in a predicate of the text. -/
structure Astray (cs : List Char) (slice : Slice) (text : List Char) (offset : Nat) : Prop where
  search : slice = .search
  predicate : '[' :: (text ++ [']']) <:+: cs
  inside : ∃ before c after, text = before ++ c :: after ∧ AsciiOutside none before ∧
    isAscii c = false ∧ offset = byteSize before + 1

/-- The two readers give the same for a text. -/
inductive SameReading {α : Type} (cs : List Char) : Except Problem α → Except Stop α → Prop
  | ok (a : α) : SameReading cs (.ok a) (.ok a)
  | unsupported : SameReading cs (.error .unsupported) (.error .unsupported)
  | astray {slice : Slice} {text : List Char} {offset : Nat} : Astray cs slice text offset →
      SameReading cs (.error .cutInsideCharacter) (.error (.amiss slice text offset))

namespace SameReading

variable {α β : Type} {cs ds : List Char} {x : Except Problem α} {y : Except Stop α}
  {f : α → Except Problem β} {g : α → Except Stop β}

theorem bind (h : SameReading cs x y) (later : ∀ a, x = .ok a → SameReading cs (f a) (g a)) :
    SameReading cs (x >>= f) (y >>= g) := by
  cases h with
  | ok a => exact later a rfl
  | unsupported => exact .unsupported
  | astray slice => exact .astray slice

theorem wider (h : SameReading cs x y) (inside : cs <:+: ds) : SameReading ds x y := by
  cases h with
  | ok a => exact .ok a
  | unsupported => exact .unsupported
  | astray slice => exact .astray ⟨slice.search, slice.predicate.trans inside, slice.inside⟩

theorem ofOption (cs : List Char) (x : Option α) :
    SameReading cs (orUnsupported x) (orStop x) := by
  cases x with
  | none => exact .unsupported
  | some a => exact .ok a

theorem outcome (h : SameReading cs x y) :
    (∀ a, y = .ok a ↔ x = .ok a) ∧ (y = .error .unsupported ↔ x = .error .unsupported) ∧
    ((∃ slice text offset, y = .error (.amiss slice text offset)) ↔
      x = .error .cutInsideCharacter) ∧
    ∀ slice text offset, y = .error (.amiss slice text offset) → Astray cs slice text offset := by
  cases h with
  | ok a => simp
  | unsupported => simp
  | astray slice =>
    refine ⟨by simp, by simp, by simp, ?_⟩
    rintro _ _ _ ⟨⟩
    exact slice

end SameReading

theorem splitFrom_same {cs : List Char} (text : List Char)
    (inside : '[' :: (text ++ [']']) <:+: cs) :
    SameReading cs (splitAnd none text) (splitFrom text none 0 0) := by
  cases pieces : splitAnd none text with
  | ok ps =>
    rw [splitFrom_of_splitAnd pieces]
    exact .ok ps
  | error e =>
    have alike := splitsAlike (q := none) (by simp) [] [] text
    unfold SplitsAlike at alike
    obtain rfl := error_of_splitAnd pieces
    rw [pieces] at alike
    obtain ⟨before, c, after, shape, ascii, wide, stopped⟩ := alike
    have same : splitFrom text none 0 0 = .error (.amiss .search text (byteSize before + 1)) :=
      stopped
    rw [same]
    exact .astray ⟨rfl, inside, before, c, after, shape, ascii, wide, rfl⟩

theorem readPredicatesAt_same (fuel : Nat) (filtered : Bool) (cs : List Char) :
    SameReading cs (readPredicates fuel filtered cs) (readPredicatesAt fuel filtered cs) := by
  fun_induction readPredicates fuel filtered cs with
  | case1 fuel filtered after ih =>
    rw [readPredicatesAt]
    cases found : readPredicate? none after with
    | none =>
      rw [closingOffset?_eq, found]
      exact .unsupported
    | some parts =>
      obtain ⟨text, rest⟩ := parts
      obtain ⟨rfl, _⟩ := readPredicate?_eq_some.1 found
      have close : closingOffset? none 0 (text ++ ']' :: rest) = some (byteSize text) := by
        rw [closingOffset?_eq, found]
        exact congrArg some (Nat.zero_add _)
      have behind : cutAt .behind (byteSize text + 1) (text ++ ']' :: rest) =
          .ok (text ++ [']'], rest) := by
        have cut := cutAt_append .behind (text ++ [']']) rest
        rwa [byteSize_append, List.append_assoc] at cut
      have inside : '[' :: (text ++ [']']) <:+: '[' :: (text ++ ']' :: rest) :=
        ⟨[], rest, by simp⟩
      have remains : rest <:+: '[' :: (text ++ ']' :: rest) :=
        ⟨'[' :: (text ++ [']']), [], by simp⟩
      rw [close]
      change SameReading _ (splitAnd none text >>= _) (cutAt .predicate (byteSize text) _ >>= _)
      rw [cutAt_append]
      change SameReading _ _ (cutAt .behind (byteSize text + 1) _ >>= _)
      rw [behind]
      refine (splitFrom_same text inside).bind fun pieces _ => ?_
      refine (SameReading.ofOption _ _).bind fun terms _ => ?_
      exact ((ih rest terms).wider remains).bind fun _ _ => .ok _
  | case2 fuel filtered cs other =>
    rw [readPredicatesAt.eq_2 _ _ _ other]
    exact .ok _

theorem readStepAt_same (cs : List Char) : SameReading cs (readStep cs) (readStepAt cs) := by
  have rest : cs.dropWhile isNameChar <:+: cs := (List.dropWhile_suffix isNameChar).isInfix
  rw [readStep, readStepAt, cutAt_name]
  simp only [bind, Except.bind]
  split
  · exact .unsupported
  · exact ((readPredicatesAt_same _ false _).wider rest).bind fun _ _ => .ok _

/-- A step behind its mark, and the steps after it. -/
theorem readNext_same {fuel : Nat}
    (later : ∀ rest, SameReading rest (readSteps fuel rest) (readStepsAt fuel rest)) (axis : Axis)
    (cs : List Char) :
    SameReading (axis.mark ++ cs)
      (do let (s, rest) ← readStep cs
          return (axis, s) :: (← readSteps fuel rest))
      (do let (s, rest) ← readStepAt cs
          return (axis, s) :: (← readStepsAt fuel rest)) := by
  have behind : cs <:+: axis.mark ++ cs := (List.suffix_append axis.mark cs).isInfix
  refine ((readStepAt_same cs).wider behind).bind fun r read => ?_
  obtain ⟨s, rest⟩ := r
  obtain ⟨front, rfl, _⟩ := spelled_of_readStep read
  have remains : rest <:+: axis.mark ++ (front ++ rest) :=
    ((List.suffix_append front rest).trans (List.suffix_append axis.mark _)).isInfix
  exact ((later rest).wider remains).bind fun _ _ => .ok _

theorem readStepsAt_same (fuel : Nat) (cs : List Char) :
    SameReading cs (readSteps fuel cs) (readStepsAt fuel cs) := by
  fun_induction readSteps fuel cs with
  | case1 fuel =>
    rw [readStepsAt.eq_1]
    exact .ok []
  | case2 fuel cs ih => exact readNext_same ih .descendant cs
  | case3 fuel cs single ih =>
    rw [readStepsAt.eq_3 _ _ single]
    exact readNext_same ih .child cs
  | case4 fuel cs some noDouble noSingle =>
    rw [readStepsAt.eq_4 _ _ some noDouble noSingle]
    exact .unsupported

theorem readAt_same (x : String) :
    SameReading (trimChars x.toList) (Path.read x) (Path.readAt x) := by
  refine (SameReading.ofOption _ _).bind fun parts anchored => ?_
  obtain ⟨anchor, cs⟩ := parts
  have shape := text_of_readAnchor? (orUnsupported_eq_ok anchored)
  have behind : cs <:+: trimChars x.toList := shape ▸ (List.suffix_append anchor.text cs).isInfix
  refine ((readStepAt_same cs).wider behind).bind fun r read => ?_
  obtain ⟨s, rest⟩ := r
  obtain ⟨front, rfl, _⟩ := spelled_of_readStep read
  have remains : rest <:+: trimChars x.toList :=
    (List.suffix_append front rest).isInfix.trans behind
  exact ((readStepsAt_same _ rest).wider remains).bind fun _ _ => .ok _

end PageHarvest.XPath
