import PageHarvest.Text.NormalTable

/-!
# Normal texts

Some texts look the same though they have different characters: a letter with an accent may be one
character or two, and marks may come in more than one order. `normalize` picks one of them: it takes
all characters apart, puts the marks after each letter in the order of their classes, and puts
together what can be put together.
-/

namespace PageHarvest.Text

/-! ## Tables -/

def composedPairs : List (Nat × List Nat) :=
  Packed.lists 0 (Packed.numbers NormalTable.packedPairs)

def composedSplits : List (Nat × List Nat) :=
  Packed.lists 0 (Packed.numbers NormalTable.packedSplits)

def markSets : List (Nat × CodeSet) :=
  NormalTable.markClasses.map fun m => (m.number, .unpack m.packed)

/-- The combining class of a character, zero for all but marks. -/
def markClass (c : Char) : Nat := ((markSets.find? fun m => m.2.mem c).map (·.1)).getD 0

/-! ## Syllables of Hangul -/

namespace Hangul

def firstSyllable : Nat := 0xac00
def firstInitial : Nat := 0x1100
def firstVowel : Nat := 0x1161

/-- The code in front of the first final. -/
def beforeFinals : Nat := 0x11a7

def initials : Nat := 19
def vowels : Nat := 21

/-- The number of finals, no final counted as one. -/
def finals : Nat := 28

/-- The letters of a syllable. -/
def split? (c : Char) : Option (List Char) :=
  let k := c.toNat - firstSyllable
  if c.toNat < firstSyllable ∨ initials * vowels * finals ≤ k then none
  else
    let letters := [firstInitial + k / (vowels * finals), firstVowel + k / finals % vowels]
    let final := if k % finals = 0 then [] else [beforeFinals + k % finals]
    some ((letters ++ final).map Char.ofNat)

/-- The syllable of an initial and a vowel, or of a syllable without a final and a final. -/
def join? (a b : Char) : Option Char :=
  let i := a.toNat - firstInitial
  let v := b.toNat - firstVowel
  let k := a.toNat - firstSyllable
  let f := b.toNat - beforeFinals
  if firstInitial ≤ a.toNat ∧ i < initials ∧ firstVowel ≤ b.toNat ∧ v < vowels then
    some (Char.ofNat (firstSyllable + (i * vowels + v) * finals))
  else if firstSyllable ≤ a.toNat ∧ k < initials * vowels * finals ∧ k % finals = 0 ∧
      beforeFinals < b.toNat ∧ f < finals then
    some (Char.ofNat (a.toNat + f))
  else none

end Hangul

/-! ## Taking apart -/

/-- A character and all that it is made up of, after at most so many steps. -/
def takeApart : Nat → Char → List Char
  | 0, c => [c]
  | fuel + 1, c =>
    match Hangul.split? c with
    | some cs => cs
    | none =>
      match composedSplits.lookup c.toNat with
      | some ns => ns.map Char.ofNat
      | none =>
        match composedPairs.lookup c.toNat with
        | some [a, b] => takeApart fuel (Char.ofNat a) ++ [Char.ofNat b]
        | _ => [c]

/-- How many marks a composed character has at most. -/
def maxMarks : Nat := 4

/-! ## Order of marks -/

/-- Puts a character in front of a text in order, behind the marks of lower classes. -/
def placeMark (c : Char) : List Char → List Char
  | [] => [c]
  | d :: rest =>
    if markClass d ≠ 0 ∧ markClass d < markClass c then d :: placeMark c rest else c :: d :: rest

/-- Puts the marks after each letter in order. -/
def orderMarks (cs : List Char) : List Char := cs.foldr placeMark []

/-! ## Putting together -/

/-- The character that two make up. -/
def compose? (a b : Char) : Option Char :=
  (Hangul.join? a b).orElse fun _ =>
    (composedPairs.find? fun p => p.2 == [a.toNat, b.toNat]).map fun p => Char.ofNat p.1

/-- Goes on after a letter and the marks that stay behind it, in reverse. A mark cannot reach the
letter across one of its own class. -/
def composeFrom (letter : Char) (marks : List Char) : List Char → List Char
  | [] => letter :: marks.reverse
  | c :: rest =>
    let reaches := match marks with
      | [] => true
      | m :: _ => markClass m < markClass c
    match if reaches then compose? letter c else none with
    | some joined => composeFrom joined marks rest
    | none =>
      if markClass c = 0 then letter :: (marks.reverse ++ composeFrom c [] rest)
      else composeFrom letter (c :: marks) rest

/-- Puts together what can be put together; marks in front of the first letter stay as they are. -/
def composeAll : List Char → List Char
  | [] => []
  | c :: rest => if markClass c = 0 then composeFrom c [] rest else c :: composeAll rest

/-- The code of the first mark. -/
def firstMark : Nat := 0x300

/-- The normal form of a text. Characters in front of the first mark are in normal form as they are. -/
def normalize (cs : List Char) : List Char :=
  if cs.all (·.toNat < firstMark) then cs
  else composeAll (orderMarks (cs.flatMap (takeApart maxMarks)))

end PageHarvest.Text
