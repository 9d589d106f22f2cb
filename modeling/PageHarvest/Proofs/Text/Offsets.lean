import PageHarvest.Text.Letter

/-!
# Texts by their bytes

A text takes one byte to four for each character, and an offset into it counts bytes. A cut at an
offset is a cut between two characters or none at all.

* `cutAt?_eq_some`: the cuts of a text;
* `cutAt?_inside`: there is none inside a character;
* `getElem?_bytes`: the bytes of a character in a text.
-/

namespace PageHarvest.Text

/-- The number of bytes of a text. -/
def byteSize : List Char → Nat
  | [] => 0
  | c :: cs => c.utf8Size + byteSize cs

/-- The bytes of a text. -/
def bytes (cs : List Char) : List UInt8 := cs.flatMap String.utf8EncodeChar

/-- The parts of a text in front of an offset and behind it. -/
def cutAt? : Nat → List Char → Option (List Char × List Char)
  | 0, cs => some ([], cs)
  | _ + 1, [] => none
  | n + 1, c :: cs =>
    if c.utf8Size ≤ n + 1 then (cutAt? (n + 1 - c.utf8Size) cs).map fun r => (c :: r.1, r.2)
    else none

variable {c : Char} {cs front back : List Char} {k : Nat}

@[simp] theorem byteSize_nil : byteSize [] = 0 := rfl

@[simp] theorem byteSize_cons (c : Char) (cs : List Char) :
    byteSize (c :: cs) = c.utf8Size + byteSize cs := rfl

@[simp] theorem byteSize_append (front back : List Char) :
    byteSize (front ++ back) = byteSize front + byteSize back := by
  induction front with
  | nil => simp
  | cons c front ih => simp [ih, Nat.add_assoc]

theorem byteSize_eq_zero : byteSize cs = 0 ↔ cs = [] := by
  refine ⟨fun none => ?_, fun empty => empty ▸ rfl⟩
  cases cs with
  | nil => rfl
  | cons c cs =>
    have := c.utf8Size_pos
    rw [byteSize_cons] at none
    omega

@[simp] theorem bytes_append (front back : List Char) :
    bytes (front ++ back) = bytes front ++ bytes back :=
  List.flatMap_append

theorem length_bytes (cs : List Char) : (bytes cs).length = byteSize cs := by
  induction cs with
  | nil => rfl
  | cons c cs ih =>
    rw [bytes, List.flatMap_cons, List.length_append, String.length_utf8EncodeChar, byteSize_cons,
      ← ih, bytes]

/-! ## Characters -/

theorem isAscii_iff : isAscii c = true ↔ c.val.toNat ≤ 127 := by
  rw [isAscii, decide_eq_true_eq]
  exact Nat.lt_succ_iff

/-- A character of ASCII is one byte, its own number. -/
theorem encode_ascii (h : isAscii c = true) : String.utf8EncodeChar c = [UInt8.ofNat c.toNat] := by
  rw [String.utf8EncodeChar, if_pos (isAscii_iff.1 h)]
  rfl

theorem utf8Size_ascii (h : isAscii c = true) : c.utf8Size = 1 := by
  rw [← String.length_utf8EncodeChar, encode_ascii h]
  rfl

/-- Any other character takes two bytes or more, all of them beyond ASCII. -/
theorem encode_wide (h : isAscii c = false) :
    1 < c.utf8Size ∧ ∀ b ∈ String.utf8EncodeChar c, 128 ≤ b.toNat := by
  have wide : ¬ c.val.toNat ≤ 127 := fun low => by
    rw [isAscii_iff.2 low] at h
    cases h
  rw [← String.length_utf8EncodeChar, String.utf8EncodeChar, if_neg wide]
  split
  · simp
    omega
  split
  · simp
    omega
  · simp
    omega

/-! ## Cuts -/

theorem cutAt?_append (front back : List Char) :
    cutAt? (byteSize front) (front ++ back) = some (front, back) := by
  induction front with
  | nil => rw [byteSize_nil, List.nil_append, cutAt?]
  | cons c front ih =>
    have some : c.utf8Size + byteSize front = c.utf8Size + byteSize front - 1 + 1 := by
      have := c.utf8Size_pos
      omega
    rw [byteSize_cons, List.cons_append, some, cutAt?, ← some, if_pos (Nat.le_add_right _ _),
      Nat.add_sub_cancel_left, ih]
    rfl

theorem cutAt?_eq_some {n : Nat} :
    cutAt? n cs = some (front, back) ↔ cs = front ++ back ∧ n = byteSize front := by
  constructor
  · intro h
    fun_induction cutAt? n cs generalizing front with
    | case1 cs =>
      cases h
      exact ⟨rfl, rfl⟩
    | case2 => cases h
    | case3 n c cs fits ih =>
      simp only [Option.map_eq_some_iff, Prod.exists, Prod.mk.injEq] at h
      obtain ⟨front, _, cut, rfl, rfl⟩ := h
      obtain ⟨rfl, length⟩ := ih cut
      refine ⟨rfl, ?_⟩
      rw [byteSize_cons]
      omega
    | case4 => cases h
  · rintro ⟨rfl, rfl⟩
    exact cutAt?_append front back

/-- No cut goes through a character. -/
theorem cutAt?_inside (pos : 0 < k) (inside : k < c.utf8Size) (front back : List Char) :
    cutAt? (byteSize front + k) (front ++ c :: back) = none := by
  induction front with
  | nil =>
    obtain ⟨n, rfl⟩ := Nat.exists_eq_add_one_of_ne_zero (Nat.ne_of_gt pos)
    rw [byteSize_nil, Nat.zero_add, List.nil_append, cutAt?, if_neg (Nat.not_le.2 inside)]
  | cons x front ih =>
    have some : x.utf8Size + byteSize front + k = x.utf8Size + byteSize front + k - 1 + 1 := by
      omega
    have rest : x.utf8Size + byteSize front + k - x.utf8Size = byteSize front + k := by omega
    rw [byteSize_cons, List.cons_append, some, cutAt?, ← some, if_pos (by omega), rest, ih]
    rfl

/-! ## Bytes -/

/-- The bytes of a character stand at the offsets from its own on. -/
theorem getElem?_bytes (inside : k < c.utf8Size) (front back : List Char) :
    (bytes (front ++ c :: back))[byteSize front + k]? = (String.utf8EncodeChar c)[k]? := by
  have shape : bytes (front ++ c :: back) =
      bytes front ++ (String.utf8EncodeChar c ++ bytes back) := bytes_append front (c :: back)
  rw [shape, List.getElem?_append_right (by rw [length_bytes]; omega), length_bytes,
    Nat.add_sub_cancel_left, List.getElem?_append_left (by rwa [String.length_utf8EncodeChar])]

theorem getElem?_bytes_end (cs : List Char) : (bytes cs)[byteSize cs]? = none := by
  rw [← length_bytes]
  exact List.getElem?_eq_none (Nat.le_refl _)

end PageHarvest.Text
