import PageHarvest.Proofs.Data.Tree
import PageHarvest.Proofs.Decimal.Characters
import PageHarvest.Proofs.Json.Tokens

/-!
# The texts of a value

A text spells a value if it has the parts of the value in their order, with any blanks around them.
Both forms that values are written in are spellings, and every spelling is read as the value, as
long as the value is not nested too deep.

* `Spells`: the texts of a value, by its parts;
* `readTree?_spelled`: a spelling is read as the tree of the value;
* `readTree?_compact`, `readTree?_pretty`: the written forms read back;
* `newline_not_mem_compactChars`: the compact form is one line.
-/

namespace PageHarvest.Json

/-! ## Depth and numbers -/

mutual

/-- How many arrays and objects stand inside each other in a value. -/
def nesting : Json → Nat
  | .null | .bool _ | .num _ | .str _ => 0
  | .arr items => nestingOfItems items + 1
  | .obj entries => nestingOfEntries entries + 1

def nestingOfItems : List Json → Nat
  | [] => 0
  | a :: rest => max a.nesting (nestingOfItems rest)

def nestingOfEntries : List (String × Json) → Nat
  | [] => 0
  | (_, a) :: rest => max a.nesting (nestingOfEntries rest)

end

mutual

/-- The numbers in a value. -/
def numbers : Json → List Number
  | .null | .bool _ | .str _ => []
  | .num n => [n]
  | .arr items => numbersOfItems items
  | .obj entries => numbersOfEntries entries

def numbersOfItems : List Json → List Number
  | [] => []
  | a :: rest => a.numbers ++ numbersOfItems rest

def numbersOfEntries : List (String × Json) → List Number
  | [] => []
  | (_, a) :: rest => a.numbers ++ numbersOfEntries rest

end

theorem nestingOfItems_le {items : List Json} {n : Nat} (h : ∀ a ∈ items, a.nesting ≤ n) :
    nestingOfItems items ≤ n := by
  induction items with
  | nil => exact Nat.zero_le n
  | cons a rest ih =>
    obtain ⟨first, others⟩ := List.forall_mem_cons.1 h
    exact Nat.max_le.2 ⟨first, ih others⟩

theorem nestingOfEntries_le {entries : Entries Json} {n : Nat}
    (h : ∀ e ∈ entries, e.2.nesting ≤ n) : nestingOfEntries entries ≤ n := by
  induction entries with
  | nil => exact Nat.zero_le n
  | cons e rest ih =>
    obtain ⟨first, others⟩ := List.forall_mem_cons.1 h
    exact Nat.max_le.2 ⟨first, ih others⟩

theorem numbersOfItems_eq (items : List Json) : numbersOfItems items = items.flatMap numbers := by
  induction items with
  | nil => rfl
  | cons a rest ih => rw [numbersOfItems, ih, List.flatMap_cons]

theorem numbersOfEntries_eq (entries : Entries Json) :
    numbersOfEntries entries = entries.flatMap fun e => e.2.numbers := by
  induction entries with
  | nil => rfl
  | cons e rest ih => rw [numbersOfEntries, ih, List.flatMap_cons]

/-! ## Spellings -/

/-- Nothing but blanks. -/
def Blanks (cs : List Char) : Prop := ∀ c ∈ cs, isSpace c = true

mutual

/-- A text of a value, without blanks around it. -/
inductive Spells : Json → List Char → Prop
  | null : Spells .null ['n', 'u', 'l', 'l']
  | yes : Spells (.bool true) ['t', 'r', 'u', 'e']
  | no : Spells (.bool false) ['f', 'a', 'l', 's', 'e']
  | number {n : Number} : ReadsBack n → Spells (.num n) (numberChars n)
  | text (s : String) : Spells (.str s) (quoteChars s.toList)
  | noItems {b : List Char} : Blanks b → Spells (.arr []) ('[' :: (b ++ [']']))
  | items {a : Json} {rest : List Json} {cs : List Char} : ItemsSpell (a :: rest) cs →
      Spells (.arr (a :: rest)) ('[' :: (cs ++ [']']))
  | noEntries {b : List Char} : Blanks b → Spells (.obj []) ('\x7b' :: (b ++ ['\x7d']))
  | entries {e : String × Json} {rest : List (String × Json)} {cs : List Char} :
      EntriesSpell (e :: rest) cs → Spells (.obj (e :: rest)) ('\x7b' :: (cs ++ ['\x7d']))

/-- The text of items, between its brackets. -/
inductive ItemsSpell : List Json → List Char → Prop
  | last {a : Json} {b cs b' : List Char} : Blanks b → Spells a cs → Blanks b' →
      ItemsSpell [a] (b ++ (cs ++ b'))
  | more {a : Json} {rest : List Json} {b cs b' ds : List Char} : Blanks b → Spells a cs →
      Blanks b' → ItemsSpell rest ds → ItemsSpell (a :: rest) (b ++ (cs ++ (b' ++ ',' :: ds)))

/-- The text of entries, between its brackets. -/
inductive EntriesSpell : List (String × Json) → List Char → Prop
  | last {k : String} {a : Json} {b b₁ b₂ cs b' : List Char} : Blanks b → Blanks b₁ → Blanks b₂ →
      Spells a cs → Blanks b' →
      EntriesSpell [(k, a)] (b ++ (quoteChars k.toList ++ (b₁ ++ ':' :: (b₂ ++ (cs ++ b')))))
  | more {k : String} {a : Json} {rest : List (String × Json)} {b b₁ b₂ cs b' ds : List Char} :
      Blanks b → Blanks b₁ → Blanks b₂ → Spells a cs → Blanks b' → EntriesSpell rest ds →
      EntriesSpell ((k, a) :: rest)
        (b ++ (quoteChars k.toList ++ (b₁ ++ ':' :: (b₂ ++ (cs ++ (b' ++ ',' :: ds))))))

end

/-! ## Blanks -/

section blanks

variable {b cs rest : List Char} {c : Char} {fuel depth : Nat}

theorem Blanks.nil : Blanks [] := nofun

theorem skipSpace_blanks (blanks : Blanks b) (cs : List Char) :
    skipSpace (b ++ cs) = skipSpace cs :=
  List.dropWhile_append_of_pos blanks

theorem skipSpace_cons (visible : isSpace c = false) : skipSpace (c :: cs) = c :: cs := by
  rw [skipSpace, List.dropWhile_cons, if_neg (by simp [visible])]

theorem skipSpace_mark (blanks : Blanks b) (visible : isSpace c = false) :
    skipSpace (b ++ c :: cs) = c :: cs := by
  rw [skipSpace_blanks blanks, skipSpace_cons visible]

theorem skipSpace_skipSpace (cs : List Char) : skipSpace (skipSpace cs) = skipSpace cs := by
  induction cs with
  | nil => rfl
  | cons c cs ih =>
    cases space : isSpace c with
    | true => simpa [skipSpace, space] using ih
    | false => rw [skipSpace_cons space, skipSpace_cons space]

theorem readValue?_skipSpace (fuel depth : Nat) (cs : List Char) :
    readValue? fuel depth (skipSpace cs) = readValue? fuel depth cs := by
  cases fuel with
  | zero => rfl
  | succ fuel => rw [readValue?, readValue?, skipSpace_skipSpace]

theorem readItems?_skipSpace (fuel depth : Nat) (cs : List Char) :
    readItems? fuel depth (skipSpace cs) = readItems? fuel depth cs := by
  cases fuel with
  | zero => rfl
  | succ fuel => rw [readItems?, readItems?, readValue?_skipSpace]

theorem readEntries?_skipSpace (fuel depth : Nat) (cs : List Char) :
    readEntries? fuel depth (skipSpace cs) = readEntries? fuel depth cs := by
  cases fuel with
  | zero => rfl
  | succ fuel => rw [readEntries?, readEntries?, skipSpace_skipSpace]

theorem readValue?_blanks (blanks : Blanks b) (cs : List Char) :
    readValue? fuel depth (b ++ cs) = readValue? fuel depth cs := by
  rw [← readValue?_skipSpace, skipSpace_blanks blanks, readValue?_skipSpace]

/-- A number ends at a mark, with or without blanks in front of it. -/
theorem endsNumber_mark (blanks : Blanks b) (mark : c = ',' ∨ c = ']' ∨ c = '\x7d') :
    EndsNumber (b ++ c :: rest) := by
  intro d hd
  cases b with
  | nil =>
    cases hd
    rcases mark with rfl | rfl | rfl <;> decide
  | cons x b =>
    cases hd
    have space := blanks d List.mem_cons_self
    simp only [isSpace, Bool.or_eq_true, decide_eq_true_eq] at space
    rcases space with ((rfl | rfl) | rfl) | rfl <;> decide

end blanks

/-! ## Heads -/

section heads

variable {j : Json} {items : List Json} {cs : List Char} {n : Number}

theorem head_of_readNumber? {r : Option Number × List Char} (read : readNumber? cs = some r) :
    ∃ c ds, cs = c :: ds ∧ (c = '-' ∨ Text.isAsciiDigit c = true) := by
  cases cs with
  | nil => cases read
  | cons c ds =>
    refine ⟨c, ds, rfl, ?_⟩
    by_contra other
    obtain ⟨sign, digit⟩ := not_or.1 other
    have zero : c ≠ '0' := by
      rintro rfl
      exact digit (by decide)
    rw [readNumber?, readUnsigned?, if_neg digit] at read
    · cases read
    · exact zero
    · rintro ds shape
      cases shape
      exact sign rfl

theorem head_of_number {r : Option Number × List Char} (read : readNumber? cs = some r) :
    ∃ c ds, cs = c :: ds ∧ isSpace c = false ∧ c ≠ ']' := by
  obtain ⟨c, ds, rfl, sign⟩ := head_of_readNumber? read
  refine ⟨c, ds, rfl, ?_, ?_⟩
  · rcases sign with rfl | digit
    · decide
    · have bounds := Text.toNat_of_isAsciiDigit digit
      simp only [isSpace, Bool.or_eq_false_iff, decide_eq_false_iff_not]
      refine ⟨⟨⟨?_, ?_⟩, ?_⟩, ?_⟩ <;> (rintro rfl; revert bounds; decide)
  · rintro rfl
    rcases sign with sign | digit
    · exact absurd sign (by decide)
    · exact absurd digit (by decide)

/-- The first character of a value is no blank and no closing bracket. -/
theorem Spells.head (spells : Spells j cs) :
    ∃ c ds, cs = c :: ds ∧ isSpace c = false ∧ c ≠ ']' := by
  cases spells with
  | null | yes | no | text | noItems | items | noEntries | entries =>
    exact ⟨_, _, rfl, by decide, by decide⟩
  | number reads => exact head_of_number reads

theorem ItemsSpell.head (spells : ItemsSpell items cs) (rest : List Char) :
    ∃ c ds, skipSpace (cs ++ rest) = c :: ds ∧ c ≠ ']' := by
  cases spells with
  | last blanks value _ | more blanks value _ _ =>
    obtain ⟨c, ds, rfl, visible, bracket⟩ := value.head
    simp only [List.append_assoc, List.cons_append]
    exact ⟨c, _, skipSpace_mark blanks visible, bracket⟩

theorem EntriesSpell.head {entries : List (String × Json)} (spells : EntriesSpell entries cs)
    (rest : List Char) : ∃ ds, skipSpace (cs ++ rest) = '"' :: ds := by
  cases spells with
  | last blanks _ _ _ _ | more blanks _ _ _ _ _ =>
    simp only [List.append_assoc, List.cons_append, quoteChars]
    exact ⟨_, skipSpace_mark blanks (by decide)⟩

end heads

/-! ## Reading -/

section reading

variable {fuel depth : Nat} {cs rest : List Char} {n : Number}

theorem readValue?_number (read : readNumber? cs = some (some n, rest)) :
    readValue? (fuel + 1) depth cs = some (.number n, rest) := by
  obtain ⟨c, ds, rfl, visible, -⟩ := head_of_number read
  obtain ⟨_, _, shape, sign⟩ := head_of_readNumber? read
  cases shape
  unfold readValue?
  simp only [skipSpace_cons visible]
  split
  case h_7 =>
    rw [read]
    rfl
  all_goals
    rename_i shape
    cases shape
    rcases sign with sign | sign <;> exact absurd sign (by decide)

theorem readValue?_string (s : String) (rest : List Char) :
    readValue? (fuel + 1) depth (quoteChars s.toList ++ rest) = some (.text s, rest) := by
  have read := readString?_quoted s.toList rest
  have shape : quoteChars s.toList ++ rest =
      '"' :: (s.toList.flatMap escapeChar ++ '"' :: rest) := by simp [quoteChars]
  rw [shape]
  show (readString? _).map _ = _
  rw [read, Option.map_some]
  simp [orUnread]

theorem readValue?_items {items : List Tree} (open_ : ∃ c ds, skipSpace cs = c :: ds ∧ c ≠ ']')
    (read : readItems? fuel depth cs = some (items, rest)) :
    readValue? (fuel + 1) (depth + 1) ('[' :: cs) = some (.list items, rest) := by
  obtain ⟨c, ds, shape, other⟩ := open_
  have inner : readItems? fuel depth (c :: ds) = some (items, rest) := by
    rw [← shape, readItems?_skipSpace, read]
  rw [readValue?, skipSpace_cons (by decide)]
  simp only [shape]
  split
  · rename_i same
    cases same
    exact absurd rfl other
  · rw [Nat.add_sub_cancel, inner]
    rfl

theorem readValue?_entries {entries : List (String × Tree)}
    (open_ : ∃ ds, skipSpace cs = '"' :: ds)
    (read : readEntries? fuel depth cs = some (entries.map fun e => (some e.1, e.2), rest)) :
    readValue? (fuel + 1) (depth + 1) ('\x7b' :: cs) = some (.record entries, rest) := by
  obtain ⟨ds, shape⟩ := open_
  have inner : readEntries? fuel depth ('"' :: ds) =
      some (entries.map fun e => (some e.1, e.2), rest) := by
    rw [← shape, readEntries?_skipSpace, read]
  have keyed : ofKeyed (entries.map fun e => (some e.1, e.2)) = .record entries := by
    have pairs : (entries.map fun e => (some e.1, e.2)).mapM (fun e => e.1.map (·, e.2)) =
        some entries := mapM_map_eq_some fun _ _ => rfl
    rw [ofKeyed, pairs]
    rfl
  rw [readValue?, skipSpace_cons (by decide)]
  simp only [shape]
  show (readEntries? fuel depth ('"' :: ds)).map _ = _
  rw [inner, Option.map_some, keyed]
  rfl

theorem readItems?_last {b : List Char} {t : Tree} (blanks : Blanks b)
    (read : readValue? fuel depth cs = some (t, b ++ ']' :: rest)) :
    readItems? (fuel + 1) depth cs = some ([t], rest) := by
  rw [readItems?, read]
  simp only [Option.bind_eq_bind, Option.bind_some, skipSpace_mark blanks (c := ']') rfl]
  rfl

theorem readItems?_more {b ds : List Char} {t : Tree} {ts : List Tree} (blanks : Blanks b)
    (read : readValue? fuel depth cs = some (t, b ++ ',' :: ds))
    (others : readItems? fuel depth ds = some (ts, rest)) :
    readItems? (fuel + 1) depth cs = some (t :: ts, rest) := by
  rw [readItems?, read]
  simp only [Option.bind_eq_bind, Option.bind_some, skipSpace_mark blanks (c := ',') rfl, others]
  rfl

/-- An entry is read up to what follows its value. -/
theorem readEntries?_entry {b b₁ b' ds : List Char} {c : Char} {t : Tree} (k : String)
    (blanks : Blanks b) (blanks₁ : Blanks b₁) (blanks' : Blanks b') (visible : isSpace c = false)
    (read : readValue? fuel depth cs = some (t, b' ++ c :: ds)) :
    readEntries? (fuel + 1) depth (b ++ (quoteChars k.toList ++ (b₁ ++ ':' :: cs))) =
      match c :: ds with
      | '\x7d' :: rest => some ([(some k, t)], rest)
      | ',' :: rest => (readEntries? fuel depth rest).bind fun r => some ((some k, t) :: r.1, r.2)
      | _ => none := by
  have key := readString?_quoted k.toList (b₁ ++ ':' :: cs)
  have shape : quoteChars k.toList ++ (b₁ ++ ':' :: cs) =
      '"' :: (k.toList.flatMap escapeChar ++ '"' :: (b₁ ++ ':' :: cs)) := by simp [quoteChars]
  rw [shape, readEntries?, skipSpace_mark blanks (by decide)]
  simp only [Option.bind_eq_bind, key, Option.bind_some, skipSpace_mark blanks₁ (c := ':') rfl,
    read, skipSpace_mark blanks' visible, Option.map_some, String.ofList_toList]
  rfl

end reading

mutual

theorem readValue?_spelled (j : Json) {cs : List Char} (spells : Spells j cs)
    {fuel depth : Nat} (enough : cs.length < fuel) (shallow : j.nesting ≤ depth)
    {rest : List Char} (ends : EndsNumber rest) :
    readValue? fuel depth (cs ++ rest) = some (.ofJson j, rest) := by
  obtain ⟨fuel, rfl⟩ : ∃ k, fuel = k + 1 := ⟨fuel - 1, by omega⟩
  cases j with
  | null => cases spells; rfl
  | bool b => cases spells <;> rfl
  | num n =>
    cases spells with
    | number reads => exact readValue?_number (readNumber?_append ends reads)
  | str s =>
    cases spells
    exact readValue?_string s rest
  | arr items =>
    obtain ⟨depth, rfl⟩ : ∃ k, depth = k + 1 := ⟨depth - 1, by simp [nesting] at shallow; omega⟩
    simp only [nesting, Nat.add_le_add_iff_right] at shallow
    cases spells with
    | noItems blanks =>
      simp only [List.cons_append, List.append_assoc, List.nil_append]
      show (match skipSpace _ with
        | ']' :: rest => _
        | rest => _) = _
      rw [skipSpace_mark blanks (by decide)]
      rfl
    | items inner =>
      simp only [List.cons_append, List.append_assoc, List.nil_append]
      simp only [List.length_cons, List.length_append, List.length_nil] at enough
      exact readValue?_items (inner.head _)
        (readItems?_spelled _ inner (by omega) shallow)
  | obj entries =>
    obtain ⟨depth, rfl⟩ : ∃ k, depth = k + 1 := ⟨depth - 1, by simp [nesting] at shallow; omega⟩
    simp only [nesting, Nat.add_le_add_iff_right] at shallow
    cases spells with
    | noEntries blanks =>
      simp only [List.cons_append, List.append_assoc, List.nil_append]
      show (match skipSpace _ with
        | '\x7d' :: rest => _
        | rest => _) = _
      rw [skipSpace_mark blanks (by decide)]
      rfl
    | entries inner =>
      simp only [List.cons_append, List.append_assoc, List.nil_append]
      simp only [List.length_cons, List.length_append, List.length_nil] at enough
      exact readValue?_entries (inner.head _)
        (readEntries?_spelled _ inner (by omega) shallow)

theorem readItems?_spelled (items : List Json) {cs : List Char} (spells : ItemsSpell items cs)
    {fuel depth : Nat} (enough : cs.length + 1 < fuel) (shallow : nestingOfItems items ≤ depth)
    {rest : List Char} :
    readItems? fuel depth (cs ++ ']' :: rest) = some (Tree.ofItems items, rest) := by
  obtain ⟨fuel, rfl⟩ : ∃ k, fuel = k + 1 := ⟨fuel - 1, by omega⟩
  cases items with
  | nil => cases spells
  | cons a others =>
    obtain ⟨first, further⟩ := Nat.max_le.1 shallow
    cases spells with
    | last blanks value blanks' =>
      simp only [List.length_append] at enough
      simp only [List.append_assoc]
      refine readItems?_last blanks' ?_
      rw [readValue?_blanks blanks]
      exact readValue?_spelled a value (by omega) first (endsNumber_mark blanks' (by decide))
    | more blanks value blanks' inner =>
      simp only [List.length_append, List.length_cons] at enough
      simp only [List.append_assoc, List.cons_append]
      refine readItems?_more blanks' ?_ (readItems?_spelled others inner (by omega) further)
      rw [readValue?_blanks blanks]
      exact readValue?_spelled a value (by omega) first (endsNumber_mark blanks' (by decide))

theorem readEntries?_spelled (entries : List (String × Json)) {cs : List Char}
    (spells : EntriesSpell entries cs) {fuel depth : Nat} (enough : cs.length + 1 < fuel)
    (shallow : nestingOfEntries entries ≤ depth) {rest : List Char} :
    readEntries? fuel depth (cs ++ '\x7d' :: rest) =
      some ((Tree.ofEntries entries).map fun e => (some e.1, e.2), rest) := by
  obtain ⟨fuel, rfl⟩ : ∃ k, fuel = k + 1 := ⟨fuel - 1, by omega⟩
  cases entries with
  | nil => cases spells
  | cons e others =>
    obtain ⟨k, a⟩ := e
    obtain ⟨first, further⟩ := Nat.max_le.1 shallow
    cases spells with
    | last blanks blanks₁ blanks₂ value blanks' =>
      simp only [List.length_append, List.length_cons] at enough
      simp only [List.append_assoc, List.cons_append]
      refine readEntries?_entry k blanks blanks₁ blanks' (c := '\x7d') (by decide) ?_
      rw [readValue?_blanks blanks₂]
      exact readValue?_spelled a value (by omega) first (endsNumber_mark blanks' (by decide))
    | more blanks blanks₁ blanks₂ value blanks' inner =>
      simp only [List.length_append, List.length_cons] at enough
      simp only [List.append_assoc, List.cons_append]
      have more : readEntries? fuel depth (_ ++ '\x7d' :: rest) = _ :=
        readEntries?_spelled others inner (by omega) further
      rw [readEntries?_entry k blanks blanks₁ blanks' (c := ',') (by decide)]
      · show (readEntries? fuel depth _).bind _ = _
        rw [more]
        rfl
      · rw [readValue?_blanks blanks₂]
        exact readValue?_spelled a value (by omega) first (endsNumber_mark blanks' (by decide))

end

theorem endsNumber_nil : EndsNumber [] := nofun

/-- A whole text that spells a value is read as the value. -/
theorem readTree?_spelled {j : Json} {s : String} (spells : Spells j s.toList)
    (shallow : j.nesting ≤ maxDepth) : readTree? s = some (.ofJson j) := by
  have read := readValue?_spelled j spells (Nat.lt_succ_self _) shallow endsNumber_nil
  rw [List.append_nil] at read
  unfold readTree?
  simp only [read]
  rfl

/-! ## The written forms -/

theorem blanks_newline (level : Nat) : Blanks (newline level) := by
  intro c hc
  cases hc with
  | head => rfl
  | tail _ hc => rw [List.eq_of_mem_replicate hc]; rfl

mutual

theorem spells_compact (j : Json) (readBack : ∀ n ∈ j.numbers, ReadsBack n) :
    Spells j (compactChars j) := by
  cases j with
  | null => exact .null
  | bool b => cases b <;> constructor
  | num n => exact .number (readBack n List.mem_cons_self)
  | str s => exact .text s
  | arr items =>
    cases items with
    | nil => exact .noItems Blanks.nil
    | cons a rest => exact .items (itemsSpell_compact _ (List.cons_ne_nil a rest) readBack)
  | obj entries =>
    cases entries with
    | nil => exact .noEntries Blanks.nil
    | cons e rest => exact .entries (entriesSpell_compact _ (List.cons_ne_nil e rest) readBack)

theorem itemsSpell_compact (items : List Json) (filled : items ≠ [])
    (readBack : ∀ n ∈ numbersOfItems items, ReadsBack n) :
    ItemsSpell items (compactItems items) := by
  cases items with
  | nil => exact absurd rfl filled
  | cons a rest =>
    obtain ⟨first, others⟩ := List.forall_mem_append.1 readBack
    have value := spells_compact a first
    cases rest with
    | nil => simpa [compactItems] using ItemsSpell.last Blanks.nil value Blanks.nil
    | cons b rest =>
      have more := itemsSpell_compact (b :: rest) (List.cons_ne_nil b rest) others
      exact .more Blanks.nil value Blanks.nil more

theorem entriesSpell_compact (entries : List (String × Json)) (filled : entries ≠ [])
    (readBack : ∀ n ∈ numbersOfEntries entries, ReadsBack n) :
    EntriesSpell entries (compactEntries entries) := by
  cases entries with
  | nil => exact absurd rfl filled
  | cons e rest =>
    obtain ⟨k, a⟩ := e
    obtain ⟨first, others⟩ := List.forall_mem_append.1 readBack
    have value := spells_compact a first
    cases rest with
    | nil =>
      simpa [compactEntries] using
        EntriesSpell.last (k := k) Blanks.nil Blanks.nil Blanks.nil value Blanks.nil
    | cons e rest =>
      have more := entriesSpell_compact (e :: rest) (List.cons_ne_nil e rest) others
      exact .more Blanks.nil Blanks.nil Blanks.nil value Blanks.nil more

end

mutual

theorem spells_pretty (level : Nat) (j : Json) (readBack : ∀ n ∈ j.numbers, ReadsBack n) :
    Spells j (prettyChars level j) := by
  cases j with
  | null => exact .null
  | bool b => cases b <;> constructor
  | num n => exact .number (readBack n List.mem_cons_self)
  | str s => exact .text s
  | arr items =>
    cases items with
    | nil => exact .noItems Blanks.nil
    | cons a rest =>
      have inner := itemsSpell_pretty (level + 1) _ (List.cons_ne_nil a rest) readBack
        (blanks_newline level)
      exact .items inner
  | obj entries =>
    cases entries with
    | nil => exact .noEntries Blanks.nil
    | cons e rest =>
      have inner := entriesSpell_pretty (level + 1) _ (List.cons_ne_nil e rest) readBack
        (blanks_newline level)
      exact .entries inner

theorem itemsSpell_pretty (level : Nat) (items : List Json) (filled : items ≠ [])
    (readBack : ∀ n ∈ numbersOfItems items, ReadsBack n) {b : List Char} (blanks : Blanks b) :
    ItemsSpell items (prettyItems level items ++ b) := by
  cases items with
  | nil => exact absurd rfl filled
  | cons a rest =>
    obtain ⟨first, others⟩ := List.forall_mem_append.1 readBack
    have value := spells_pretty level a first
    cases rest with
    | nil =>
      rw [prettyItems, List.append_assoc]
      exact .last (blanks_newline level) value blanks
    | cons a' rest =>
      have more := itemsSpell_pretty level (a' :: rest) (List.cons_ne_nil a' rest) others blanks
      rw [prettyItems]
      simp only [List.append_assoc, List.cons_append]
      exact .more (blanks_newline level) value Blanks.nil more

theorem entriesSpell_pretty (level : Nat) (entries : List (String × Json))
    (filled : entries ≠ []) (readBack : ∀ n ∈ numbersOfEntries entries, ReadsBack n)
    {b : List Char} (blanks : Blanks b) :
    EntriesSpell entries (prettyEntries level entries ++ b) := by
  cases entries with
  | nil => exact absurd rfl filled
  | cons e rest =>
    obtain ⟨k, a⟩ := e
    obtain ⟨first, others⟩ := List.forall_mem_append.1 readBack
    have value := spells_pretty level a first
    have blank : Blanks [' '] := List.forall_mem_singleton.2 rfl
    cases rest with
    | nil =>
      rw [prettyEntries]
      simp only [List.append_assoc, List.cons_append]
      exact .last (blanks_newline level) Blanks.nil blank value blanks
    | cons e rest =>
      have more := entriesSpell_pretty level (e :: rest) (List.cons_ne_nil e rest) others blanks
      rw [prettyEntries]
      simp only [List.append_assoc, List.cons_append]
      exact .more (blanks_newline level) Blanks.nil blank value Blanks.nil more

end

theorem readTree?_compact {j : Json} (readBack : ∀ n ∈ j.numbers, ReadsBack n)
    (shallow : j.nesting ≤ maxDepth) : readTree? j.compact = some (.ofJson j) := by
  refine readTree?_spelled ?_ shallow
  rw [compact, String.toList_ofList]
  exact spells_compact j readBack

theorem readTree?_pretty {j : Json} (readBack : ∀ n ∈ j.numbers, ReadsBack n)
    (shallow : j.nesting ≤ maxDepth) : readTree? j.pretty = some (.ofJson j) := by
  refine readTree?_spelled ?_ shallow
  rw [pretty, String.toList_ofList]
  exact spells_pretty 0 j readBack

/-! ## One line -/

/-- A character that is not a control character. -/
def Visible (c : Char) : Prop := 0x20 ≤ c.toNat

instance (c : Char) : Decidable (Visible c) := Nat.decLe 0x20 c.toNat

theorem visible_of_all {cs : List Char} (all : (cs.all fun c => decide (Visible c)) = true) :
    ∀ c ∈ cs, Visible c :=
  fun c h => of_decide_eq_true (List.all_eq_true.1 all c h)

theorem visible_hexDigit : ∀ d, d < 16 → Visible (hexDigit d) := by decide

theorem visible_escapeChar (c : Char) : ∀ x ∈ escapeChar c, Visible x := by
  have letter {x y : Char} (hx : Visible x) (hy : Visible y) : ∀ z ∈ [x, y], Visible z :=
    List.forall_mem_cons.2 ⟨hx, List.forall_mem_singleton.2 hy⟩
  unfold escapeChar
  iterate 7
    split
    · exact letter (by decide) (by decide)
  split
  · rename_i control
    have high := visible_hexDigit (c.toNat / 16) (by omega)
    have low := visible_hexDigit (c.toNat % 16) (by omega)
    have mark : ∀ x ∈ ['\\', 'u', '0', '0'], Visible x := visible_of_all rfl
    exact List.forall_mem_append.2 ⟨mark, letter high low⟩
  · rename_i visible
    exact List.forall_mem_singleton.2 (Nat.le_of_not_lt visible)

theorem visible_quoteChars (cs : List Char) : ∀ x ∈ quoteChars cs, Visible x := by
  have quote : Visible '"' := by decide
  refine List.forall_mem_cons.2 ⟨quote, List.forall_mem_append.2 ⟨?_, ?_⟩⟩
  · exact List.forall_mem_flatMap.2 fun c _ => visible_escapeChar c
  · exact List.forall_mem_singleton.2 quote

theorem isNumeral_integerChars (n : Int) : ∀ c ∈ integerChars n, Decimal.IsNumeral c := by
  unfold integerChars
  split
  · exact List.forall_mem_cons.2
      ⟨Decimal.isNumeral_mark (by decide), Decimal.isNumeral_digits _⟩
  · exact Decimal.isNumeral_digits _

theorem visible_numberChars (n : Number) : ∀ c ∈ numberChars n, Visible c := by
  have numeral {cs : List Char} (all : ∀ c ∈ cs, Decimal.IsNumeral c) : ∀ c ∈ cs, Visible c :=
    fun c h => Nat.le_of_succ_le (all c h).printable.1
  cases n with
  | int n => exact numeral (isNumeral_integerChars n)
  | float f =>
    have null : ∀ c ∈ ['n', 'u', 'l', 'l'], Visible c := visible_of_all rfl
    show ∀ c ∈ (Decimal.render? Decimal.Scaled.pointed f).getD _, Visible c
    cases written : Decimal.render? Decimal.Scaled.pointed f with
    | none => exact null
    | some cs => exact numeral (Decimal.isNumeral_of_render? Decimal.isNumeral_pointed written)

mutual

theorem visible_compactChars (j : Json) : ∀ c ∈ compactChars j, Visible c := by
  cases j with
  | null => exact visible_of_all rfl
  | bool b => cases b <;> exact visible_of_all rfl
  | num n => exact visible_numberChars n
  | str s => exact visible_quoteChars s.toList
  | arr items =>
    have marks : Visible '[' ∧ Visible ']' := by decide
    refine List.forall_mem_cons.2 ⟨marks.1, List.forall_mem_append.2 ⟨?_, ?_⟩⟩
    · exact visible_compactItems items
    · exact List.forall_mem_singleton.2 marks.2
  | obj entries =>
    have marks : Visible '\x7b' ∧ Visible '\x7d' := by decide
    refine List.forall_mem_cons.2 ⟨marks.1, List.forall_mem_append.2 ⟨?_, ?_⟩⟩
    · exact visible_compactEntries entries
    · exact List.forall_mem_singleton.2 marks.2

theorem visible_compactItems (items : List Json) : ∀ c ∈ compactItems items, Visible c := by
  cases items with
  | nil => exact nofun
  | cons a rest =>
    have value := visible_compactChars a
    cases rest with
    | nil => exact value
    | cons b rest =>
      have comma : Visible ',' := by decide
      have more := visible_compactItems (b :: rest)
      exact List.forall_mem_append.2 ⟨value, List.forall_mem_cons.2 ⟨comma, more⟩⟩

theorem visible_compactEntries (entries : List (String × Json)) :
    ∀ c ∈ compactEntries entries, Visible c := by
  cases entries with
  | nil => exact nofun
  | cons e rest =>
    obtain ⟨k, a⟩ := e
    have marks : Visible ':' ∧ Visible ',' := by decide
    have key := visible_quoteChars k.toList
    have value := visible_compactChars a
    cases rest with
    | nil => exact List.forall_mem_append.2 ⟨key, List.forall_mem_cons.2 ⟨marks.1, value⟩⟩
    | cons e rest =>
      have more := visible_compactEntries (e :: rest)
      refine List.forall_mem_append.2 ⟨key, List.forall_mem_cons.2 ⟨marks.1, ?_⟩⟩
      exact List.forall_mem_append.2 ⟨value, List.forall_mem_cons.2 ⟨marks.2, more⟩⟩

end

/-- Line ends are escaped, and none stands between parts. -/
theorem newline_not_mem_compactChars (j : Json) : '\n' ∉ compactChars j := by
  intro h
  have visible := visible_compactChars j '\n' h
  exact absurd visible (by decide)

end PageHarvest.Json
