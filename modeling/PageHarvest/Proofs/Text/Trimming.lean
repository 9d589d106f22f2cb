import Mathlib.Data.List.TakeWhile
import PageHarvest.Text.Blank
import PageHarvest.Text.Search

/-!
# Cutting texts at their ends

What `trimChars`, `dropFront?`, `dropBack?` and `splitOnce?` give for a text put together from known
parts, and each of them and `isInside` as a relation. `takeWhile_append` is about runs of
characters.
-/

namespace PageHarvest.Text

/-- Nothing but blanks. -/
def AllBlank (cs : List Char) : Prop := ∀ c ∈ cs, isBlank c = true

/-- No blank at either end. -/
structure Trimmed (cs : List Char) : Prop where
  head : ∀ c ∈ cs.head?, isBlank c = false
  last : ∀ c ∈ cs.getLast?, isBlank c = false

theorem trimmed_of_all {cs : List Char} (h : ∀ c ∈ cs, isBlank c = false) : Trimmed cs :=
  ⟨fun c hc => h c (List.mem_of_mem_head? hc), fun c hc => h c (List.mem_of_getLast? hc)⟩

theorem trimmed_of_ends {x y : Char} {cs : List Char} (hx : isBlank x = false)
    (hy : isBlank y = false) : Trimmed (x :: (cs ++ [y])) := by
  constructor
  · intro c hc
    obtain rfl : x = c := by simpa using hc
    exact hx
  · intro c hc
    rw [← List.cons_append, List.getLast?_append] at hc
    obtain rfl : y = c := by simpa using hc
    exact hy

theorem trimStartChars_append {b cs : List Char} (hb : AllBlank b)
    (hc : ∀ c ∈ cs.head?, isBlank c = false) : trimStartChars (b ++ cs) = cs := by
  induction b with
  | nil =>
    cases cs with
    | nil => rfl
    | cons c cs => simp [trimStartChars, hc c rfl]
  | cons c b ih =>
    have hc' : isBlank c = true := hb c List.mem_cons_self
    have rest := ih (fun x hx => hb x (List.mem_cons_of_mem _ hx))
    simpa [trimStartChars, hc'] using rest

theorem trimEndChars_append {b cs : List Char} (hb : AllBlank b)
    (hc : ∀ c ∈ cs.getLast?, isBlank c = false) : trimEndChars (cs ++ b) = cs := by
  have reversed : trimStartChars (b.reverse ++ cs.reverse) = cs.reverse :=
    trimStartChars_append (fun c h => hb c (List.mem_reverse.1 h)) (by simpa using hc)
  unfold trimStartChars at reversed
  rw [trimEndChars, List.reverse_append, reversed, List.reverse_reverse]

/-- A text with blanks around it. -/
theorem trimChars_eq {b cs b' : List Char} (hb : AllBlank b) (hc : Trimmed cs)
    (hb' : AllBlank b') (hne : cs ≠ []) : trimChars (b ++ (cs ++ b')) = cs := by
  obtain ⟨c, cs, rfl⟩ := List.exists_cons_of_ne_nil hne
  rw [trimChars, trimStartChars_append hb (by simpa using hc.head c rfl)]
  exact trimEndChars_append hb' hc.last

/-- The text `t` with blanks at both ends. -/
def Padded (t cs : List Char) : Prop :=
  ∃ b b' : List Char, AllBlank b ∧ AllBlank b' ∧ cs = b ++ (t ++ b')

theorem allBlank_nil : AllBlank [] := fun _ h => nomatch h

theorem trimStartChars_padded (cs : List Char) :
    ∃ b, AllBlank b ∧ cs = b ++ trimStartChars cs ∧
      ∀ c ∈ (trimStartChars cs).head?, isBlank c = false := by
  refine ⟨cs.takeWhile isBlank, fun c hc => List.mem_takeWhile_imp hc,
    List.takeWhile_append_dropWhile.symm, fun c hc => ?_⟩
  have first := List.head?_dropWhile_not isBlank cs
  rw [show cs.dropWhile isBlank = trimStartChars cs from rfl, hc] at first
  simpa using first

theorem trimEndChars_padded (cs : List Char) :
    ∃ b, AllBlank b ∧ cs = trimEndChars cs ++ b ∧
      ∀ c ∈ (trimEndChars cs).getLast?, isBlank c = false := by
  obtain ⟨b, hb, whole, first⟩ := trimStartChars_padded cs.reverse
  refine ⟨b.reverse, fun c hc => hb c (List.mem_reverse.1 hc), ?_, fun c hc => first c ?_⟩
  · rw [trimEndChars, ← List.reverse_append]
    exact List.reverse_eq_iff.1 whole
  · rwa [trimEndChars, List.getLast?_reverse] at hc

/-- The text in front of trailing blanks begins as the whole does. -/
theorem head?_trimEndChars {cs : List Char} {c : Char} (h : (trimEndChars cs).head? = some c) :
    cs.head? = some c := by
  obtain ⟨b, -, whole, -⟩ := trimEndChars_padded cs
  rw [whole, List.head?_append, h, Option.some_or]

theorem trimmed_trimChars (cs : List Char) : Trimmed (trimChars cs) := by
  obtain ⟨_, _, _, first⟩ := trimStartChars_padded cs
  obtain ⟨_, _, _, last⟩ := trimEndChars_padded (trimStartChars cs)
  exact ⟨fun c hc => first c (head?_trimEndChars hc), last⟩

theorem padded_trimChars (cs : List Char) : Padded (trimChars cs) cs := by
  obtain ⟨b, hb, front, _⟩ := trimStartChars_padded cs
  obtain ⟨b', hb', back, _⟩ := trimEndChars_padded (trimStartChars cs)
  exact ⟨b, b', hb, hb', front.trans (congrArg _ back)⟩

/-- Nothing is left of blanks alone. -/
theorem trimChars_eq_nil_iff {cs : List Char} : trimChars cs = [] ↔ AllBlank cs := by
  constructor
  · intro h
    have back : AllBlank (trimStartChars cs) := by
      rw [trimChars, trimEndChars, List.reverse_eq_nil_iff, List.dropWhile_eq_nil_iff] at h
      exact fun c hc => h c (List.mem_reverse.2 hc)
    intro c hc
    rw [← List.takeWhile_append_dropWhile (p := isBlank) (l := cs)] at hc
    rcases List.mem_append.1 hc with front | rest
    · exact List.mem_takeWhile_imp front
    · exact back c rest
  · intro h
    rw [trimChars, trimStartChars, List.dropWhile_eq_nil_iff.2 h]
    rfl

theorem trimChars_eq_iff {t cs : List Char} : trimChars cs = t ↔ Trimmed t ∧ Padded t cs := by
  constructor
  · rintro rfl
    exact ⟨trimmed_trimChars cs, padded_trimChars cs⟩
  · rintro ⟨trimmed, b, b', hb, hb', rfl⟩
    rcases eq_or_ne t [] with rfl | some
    · exact trimChars_eq_nil_iff.2 fun c hc => (List.mem_append.1 hc).elim (hb c) (hb' c)
    · exact trimChars_eq hb trimmed hb' some

namespace Padded

variable {b t cs : List Char}

theorem refl (cs : List Char) : Padded cs cs :=
  ⟨[], [], allBlank_nil, allBlank_nil, (List.append_nil cs).symm⟩

theorem eq_of_trimmed (h : Padded t cs) (ht : Trimmed t) (hc : Trimmed cs) : cs = t :=
  (trimChars_eq_iff.2 ⟨hc, refl cs⟩).symm.trans (trimChars_eq_iff.2 ⟨ht, h⟩)

theorem trans {us : List Char} (h : Padded t cs) (hu : Padded cs us) : Padded t us := by
  obtain ⟨b₁, b₂, h1, h2, rfl⟩ := h
  obtain ⟨b₃, b₄, h3, h4, rfl⟩ := hu
  refine ⟨b₃ ++ b₁, b₂ ++ b₄, ?_, ?_, by simp⟩
  · exact fun c hc => (List.mem_append.1 hc).elim (h3 c) (h1 c)
  · exact fun c hc => (List.mem_append.1 hc).elim (h2 c) (h4 c)

theorem blank_append (h : Padded t cs) (hb : AllBlank b) : Padded t (b ++ cs) :=
  h.trans ⟨b, [], hb, allBlank_nil, by rw [List.append_nil]⟩

theorem append_blank (h : Padded t cs) (hb : AllBlank b) : Padded t (cs ++ b) :=
  h.trans ⟨[], b, allBlank_nil, hb, rfl⟩

theorem mem {c : Char} (h : Padded t cs) (hc : c ∈ t) : c ∈ cs := by
  obtain ⟨_, _, _, _, rfl⟩ := h
  exact List.mem_append_right _ (List.mem_append_left _ hc)

theorem not_mem {c : Char} (h : Padded t cs) (hc : c ∉ t) (hb : isBlank c = false) : c ∉ cs := by
  obtain ⟨b, b', h1, h2, rfl⟩ := h
  have apart {b : List Char} (h : AllBlank b) : c ∉ b := fun hm => by
    rw [h c hm] at hb
    cases hb
  simp [hc, apart h1, apart h2]

end Padded

theorem trim_eq_empty_iff {s : String} : trim s = "" ↔ isBlankText s = true := by
  rw [trim, String.ofList_eq_empty_iff, trimChars_eq_nil_iff, isBlankText, List.all_eq_true]
  rfl

/-- A run of characters with a test ends where the first one without it stands. -/
theorem takeWhile_append {p : Char → Bool} {cs rest : List Char} (inside : ∀ c ∈ cs, p c = true)
    (stop : ∀ c ∈ rest.head?, p c = false) :
    (cs ++ rest).takeWhile p = cs ∧ (cs ++ rest).dropWhile p = rest := by
  rw [List.takeWhile_append_of_pos inside, List.dropWhile_append_of_pos inside]
  cases rest with
  | nil => exact ⟨List.append_nil cs, rfl⟩
  | cons c rest => simp [stop c rfl]

theorem dropFront?_append (p cs : List Char) : dropFront? p (p ++ cs) = some cs := by
  induction p with
  | nil => rfl
  | cons c p ih => simpa [dropFront?] using ih

theorem dropBack?_append (p cs : List Char) : dropBack? p (cs ++ p) = some cs := by
  rw [dropBack?, List.reverse_append, dropFront?_append]
  simp

theorem dropFront?_eq_some {p cs r : List Char} : dropFront? p cs = some r ↔ cs = p ++ r := by
  constructor
  · intro h
    induction p generalizing cs with
    | nil => exact Option.some.inj h
    | cons x p ih =>
      cases cs with
      | nil => cases h
      | cons c cs =>
        rw [dropFront?] at h
        split at h
        · rename_i same
          rw [ih h, same]
          rfl
        · cases h
  · rintro rfl
    exact dropFront?_append p r

theorem dropBack?_eq_some {p cs r : List Char} : dropBack? p cs = some r ↔ cs = r ++ p := by
  rw [dropBack?, Option.map_eq_some_iff]
  constructor
  · rintro ⟨r', h, rfl⟩
    rw [← List.reverse_reverse cs, dropFront?_eq_some.1 h, List.reverse_append,
      List.reverse_reverse]
  · rintro rfl
    exact ⟨r.reverse, dropFront?_eq_some.2 List.reverse_append, List.reverse_reverse r⟩

theorem splitOnce?_append {c : Char} {front : List Char} (h : c ∉ front) (back : List Char) :
    splitOnce? c (front ++ c :: back) = some (front, back) := by
  induction front with
  | nil => simp [splitOnce?]
  | cons x front ih =>
    obtain ⟨hx, hf⟩ := not_or.1 (fun h' => h (List.mem_cons.2 h'))
    simp [splitOnce?, Ne.symm hx, ih hf]

theorem splitOnce?_eq_none {c : Char} {cs : List Char} (h : c ∉ cs) : splitOnce? c cs = none := by
  induction cs with
  | nil => rfl
  | cons x cs ih =>
    obtain ⟨hx, hf⟩ := not_or.1 (fun h' => h (List.mem_cons.2 h'))
    simp [splitOnce?, Ne.symm hx, ih hf]

theorem splitOnce?_eq_some {c : Char} {cs front back : List Char} :
    splitOnce? c cs = some (front, back) ↔ cs = front ++ c :: back ∧ c ∉ front := by
  constructor
  · intro h
    induction cs generalizing front with
    | nil => cases h
    | cons x cs ih =>
      rw [splitOnce?] at h
      split at h
      · rename_i same
        obtain ⟨rfl, rfl⟩ := Prod.mk.inj (Option.some.inj h)
        exact ⟨congrArg (· :: cs) same, List.not_mem_nil⟩
      · rename_i apart
        obtain ⟨⟨front', back'⟩, found, same⟩ := Option.map_eq_some_iff.1 h
        obtain ⟨rfl, rfl⟩ := Prod.mk.inj same
        obtain ⟨rfl, absent⟩ := ih found
        exact ⟨rfl, fun hm => (List.mem_cons.1 hm).elim (fun e => apart e.symm) absent⟩
  · rintro ⟨rfl, absent⟩
    exact splitOnce?_append absent back

/-- A piece without the test ends at the first character with it. -/
theorem splitChars_append {p : Char → Bool} {piece : List Char} {c : Char}
    (whole : ∀ d ∈ piece, p d = false) (mark : p c = true) (rest : List Char) :
    splitChars p (piece ++ c :: rest) = piece :: splitChars p rest := by
  induction piece with
  | nil => rw [List.nil_append, splitChars, if_pos mark]
  | cons d piece ih =>
    obtain ⟨plain, whole⟩ := List.forall_mem_cons.1 whole
    rw [List.cons_append, splitChars, if_neg (Bool.eq_false_iff.1 plain), ih whole]

theorem splitChars_of_none {p : Char → Bool} {piece : List Char}
    (whole : ∀ d ∈ piece, p d = false) : splitChars p piece = [piece] := by
  induction piece with
  | nil => rfl
  | cons d piece ih =>
    obtain ⟨plain, whole⟩ := List.forall_mem_cons.1 whole
    rw [splitChars, if_neg (Bool.eq_false_iff.1 plain), ih whole]

theorem isInside_iff {p cs : List Char} : isInside p cs = true ↔ p <:+: cs := by
  induction cs with
  | nil => cases p <;> simp [isInside]
  | cons c cs ih =>
    rw [isInside, Bool.or_eq_true, List.isPrefixOf_iff_prefix, ih, List.infix_cons_iff]

end PageHarvest.Text
