import PageHarvest.Proofs.Fallible
import PageHarvest.Proofs.Text.Trimming
import PageHarvest.XPath.Reader

/-!
# The written form of location paths, and its quotes

`Path.Written p cs` says that the characters `cs` write the path `p`, independently of how paths
are read: an anchor, steps with `/` or `//` between them, and predicates in brackets whose terms are
joined by ` and `. Blanks may stand at both ends of a path, of a term and of the parts of a test. A
value stands between two quotes of one kind that it does not contain, and may contain anything
else.

The end of a predicate and its cuts at ` and ` are found by two scans that follow the quotes on
their own. `Outside suits q cs` is what both see of a text: from inside the quote `q`, or from
outside of quotes, each character of `cs` outside quotes suits the text behind it, and `cs` ends
outside of quotes. `quoteAfter` tells which quote is open behind a text, so that the quotes of a
text can be spoken of without a scan.

* `outside_iff`: `Outside` by the quote behind each front part of a text;
* `readPredicate?_eq_some`: a predicate is the `Closed` text in front of its bracket;
* `splitAnd_eq_ok`: the cuts of a text are its `Pieces`, which lie between the joints outside
  quotes, each joint taken as early as it comes;
* `Pieces.joined`, `Pieces.closed`: the pieces make up the text, and none ends inside a quote;
* `splitAnd_eq_error`: there are none exactly if a character outside quotes is not ASCII.
-/

namespace PageHarvest.XPath

open Text

/-! ## Written paths -/

/-- Blanks between the parts of a predicate. -/
def Blanks (cs : List Char) : Prop := ∀ c ∈ cs, c = ' ' ∨ c = '\t' ∨ c = '\n' ∨ c = '\r'

def IsElementName (n : List Char) : Prop :=
  n = ['*'] ∨ n ≠ [] ∧ ∀ c ∈ n, isNameChar c = true ∧ c ≠ '*'

def IsAttributeName (n : List Char) : Prop := n ≠ [] ∧ ∀ c ∈ n, isAttributeChar c = true

/-- A value between quotes. -/
inductive Quoted (v : List Char) : List Char → Prop
  | mk {q : Char} : isQuote q = true → q ∉ v → Quoted v (q :: (v ++ [q]))

/-- The number that decimal digits write. -/
def decimal (ds : List Char) : Nat := ds.foldl (fun n c => 10 * n + (c.toNat - 48)) 0

inductive Term.Written : Term → List Char → Prop
  | position {ds : List Char} : ds ≠ [] → (∀ d ∈ ds, isAsciiDigit d = true) →
      Written (.position (decimal ds)) ds
  | has {a : List Char} : IsAttributeName a → Written (.has (String.ofList a)) ('@' :: a)
  | equals {a v cs b₁ b₂ : List Char} : IsAttributeName a → Quoted v cs → Blanks b₁ → Blanks b₂ →
      Written (.equals (String.ofList a) (String.ofList v)) ('@' :: a ++ b₁ ++ '=' :: (b₂ ++ cs))
  | contains {a v cs b₁ b₂ b₃ b₄ : List Char} : IsAttributeName a → Quoted v cs → Blanks b₁ →
      Blanks b₂ → Blanks b₃ → Blanks b₄ →
      Written (.contains (String.ofList a) (String.ofList v))
        ("contains(".toList ++ (b₁ ++ '@' :: a ++ b₂ ++ ',' :: (b₃ ++ cs ++ b₄)) ++ [')'])

/-- The mark between two terms. -/
def joint : List Char := [' ', 'a', 'n', 'd', ' ']

inductive TermsWritten : List Term → List Char → Prop
  | one {t : Term} {cs b b' : List Char} : t.Written cs → Blanks b → Blanks b' →
      TermsWritten [t] (b ++ (cs ++ b'))
  | more {t : Term} {ts : List Term} {cs ds b b' : List Char} : t.Written cs → Blanks b →
      Blanks b' → TermsWritten ts ds → TermsWritten (t :: ts) (b ++ (cs ++ b') ++ (joint ++ ds))

inductive PredicatesWritten : List (List Term) → List Char → Prop
  | nil : PredicatesWritten [] []
  | cons {ts : List Term} {ps : List (List Term)} {cs ds : List Char} : TermsWritten ts cs →
      PredicatesWritten ps ds → PredicatesWritten (ts :: ps) ('[' :: (cs ++ ']' :: ds))

inductive Step.Written : Step → List Char → Prop
  | mk {n cs : List Char} {ps : List (List Term)} : IsElementName n → PredicatesWritten ps cs →
      Written ⟨String.ofList n, ps⟩ (n ++ cs)

inductive StepsWritten : List (Axis × Step) → List Char → Prop
  | nil : StepsWritten [] []
  | child {s : Step} {rest : List (Axis × Step)} {cs ds : List Char} : s.Written cs →
      StepsWritten rest ds → StepsWritten ((.child, s) :: rest) ('/' :: (cs ++ ds))
  | descendant {s : Step} {rest : List (Axis × Step)} {cs ds : List Char} : s.Written cs →
      StepsWritten rest ds → StepsWritten ((.descendant, s) :: rest) ('/' :: '/' :: (cs ++ ds))

def Anchor.text : Anchor → List Char
  | top => ['/']
  | anywhere => ['/', '/']
  | inside => ['.', '/', '/']

inductive Path.Written : Path → List Char → Prop
  | mk {a : Anchor} {s : Step} {rest : List (Axis × Step)} {cs ds b b' : List Char} :
      s.Written cs → StepsWritten rest ds → AllBlank b → AllBlank b' →
      Written ⟨a, s, rest⟩ (b ++ (a.text ++ (cs ++ ds) ++ b'))

/-! ## Quotes -/

/-- Characters outside of quotes suit what stands behind them, and every quote is closed. -/
inductive Outside (suits : Char → List Char → Prop) : Option Char → List Char → Prop
  | nil : Outside suits none []
  | inside {q c : Char} {cs : List Char} : Outside suits (if c = q then none else some q) cs →
      Outside suits (some q) (c :: cs)
  | opening {q : Char} {cs : List Char} : isQuote q = true → Outside suits (some q) cs →
      Outside suits none (q :: cs)
  | bare {c : Char} {cs : List Char} : isQuote c = false → suits c cs → Outside suits none cs →
      Outside suits none (c :: cs)

/-- No bracket stands outside of quotes. -/
def Closed : Option Char → List Char → Prop := Outside fun c _ => c ≠ '[' ∧ c ≠ ']'

/-- No character of several bytes stands outside of quotes. -/
def AsciiOutside : Option Char → List Char → Prop := Outside fun c _ => isAscii c = true

/-- Nothing in the text ends a piece when `back` follows the text. -/
def Uncut (back : List Char) : Option Char → List Char → Prop :=
  Outside fun c cs => isAscii c = true ∧ ¬ joint <+: c :: (cs ++ back)

/-- The pieces of a text between its joints. -/
inductive Pieces : Option Char → List (List Char) → List Char → Prop
  | last {q : Option Char} {cs : List Char} : Uncut [] q cs → Pieces q [cs] cs
  | more {q : Option Char} {ps : List (List Char)} {cs ds : List Char} :
      Uncut (joint ++ ds) q cs → Pieces none ps ds → Pieces q (cs :: ps) (cs ++ (joint ++ ds))

section Outside

variable {suits suits' : Char → List Char → Prop} {q : Option Char} {c : Char}
  {cs ds : List Char}

theorem Outside.imp (h : Outside suits q cs) (himp : ∀ c cs, suits c cs → suits' c cs) :
    Outside suits' q cs := by
  induction h with
  | nil => exact .nil
  | inside _ ih => exact .inside ih
  | opening hq _ ih => exact .opening hq ih
  | bare hq hs _ ih => exact .bare hq (himp _ _ hs) ih

theorem Outside.append (h : Outside suits q cs) (hd : Outside suits none ds)
    (longer : ∀ c cs, suits c cs → suits c (cs ++ ds)) : Outside suits q (cs ++ ds) := by
  induction h with
  | nil => exact hd
  | inside _ ih => exact .inside ih
  | opening hq _ ih => exact .opening hq ih
  | bare hq hs _ ih => exact .bare hq (longer _ _ hs) ih

/-- A text without quotes. -/
theorem outside_of_all {p : Char → Prop} (h : ∀ c ∈ cs, isQuote c = false ∧ p c) :
    Outside (fun c _ => p c) none cs := by
  induction cs with
  | nil => exact .nil
  | cons c cs ih =>
    obtain ⟨first, rest⟩ := List.forall_mem_cons.1 h
    exact .bare first.1 first.2 (ih rest)

/-- A value between its quotes. -/
theorem Outside.value {q : Char} {v : List Char} (hq : isQuote q = true) (hv : q ∉ v)
    (h : Outside suits none cs) : Outside suits none (q :: (v ++ q :: cs)) := by
  have rest : Outside suits (some q) (v ++ q :: cs) := by
    induction v with
    | nil => exact .inside ((if_pos rfl).symm ▸ h)
    | cons c v ih =>
      obtain ⟨hc, hv⟩ := not_or.1 (fun h => hv (List.mem_cons.2 h))
      exact .inside ((if_neg (Ne.symm hc)).symm ▸ ih hv)
  exact .opening hq rest

theorem Outside.of_inside {q : Char} (h : Outside suits (some q) (c :: cs)) :
    Outside suits (if c = q then none else some q) cs := by
  cases h with
  | inside h => exact h

theorem Outside.of_opening (h : Outside suits none (c :: cs)) (hq : isQuote c = true) :
    Outside suits (some c) cs := by
  cases h with
  | opening _ h => exact h
  | bare hc _ _ => exact absurd (hq.symm.trans hc) (by decide)

theorem Outside.of_bare (h : Outside suits none (c :: cs)) (hq : isQuote c = false) :
    suits c cs ∧ Outside suits none cs := by
  cases h with
  | opening hc _ => exact absurd (hc.symm.trans hq) (by decide)
  | bare _ hs h => exact ⟨hs, h⟩

theorem Outside.of_joint (h : Outside suits none (joint ++ ds)) : Outside suits none ds :=
  have drop {c : Char} {cs : List Char} (hc : isQuote c = false)
      (h : Outside suits none (c :: cs)) : Outside suits none cs := (h.of_bare hc).2
  drop rfl (drop rfl (drop rfl (drop rfl (drop rfl h))))

end Outside

/-! ### The quote behind a text -/

/-- The quote that is open behind a character, when `q` is open in front of it. -/
def followQuote : Option Char → Char → Option Char
  | some q, c => if c = q then none else some q
  | none, c => if isQuote c then some c else none

/-- The quote that is open behind a text, when `q` is open in front of it. -/
def quoteAfter (q : Option Char) (cs : List Char) : Option Char := cs.foldl followQuote q

/-- Every character that stands outside of quotes satisfies `p`. -/
def EachOutside (p : Char → Prop) (cs : List Char) : Prop :=
  ∀ front c back, cs = front ++ c :: back → quoteAfter none front = none → p c

section QuoteAfter

variable {suits : Char → List Char → Prop} {p : Char → Prop} {q : Option Char} {c : Char}
  {cs ds : List Char}

@[simp] theorem quoteAfter_nil (q : Option Char) : quoteAfter q [] = q := rfl

@[simp] theorem quoteAfter_cons (q : Option Char) (c : Char) (cs : List Char) :
    quoteAfter q (c :: cs) = quoteAfter (followQuote q c) cs := rfl

@[simp] theorem quoteAfter_append (q : Option Char) (cs ds : List Char) :
    quoteAfter q (cs ++ ds) = quoteAfter (quoteAfter q cs) ds := List.foldl_append

/-- A quote stays open up to the next one of its kind. -/
theorem quoteAfter_of_not_mem {q : Char} (h : q ∉ cs) : quoteAfter (some q) cs = some q := by
  induction cs with
  | nil => rfl
  | cons c cs ih =>
    obtain ⟨other, rest⟩ := not_or.1 (List.mem_cons.not.1 h)
    rw [quoteAfter_cons, followQuote, if_neg (Ne.symm other), ih rest]

/-- A text that ends outside of quotes closes those that it opens. -/
theorem mem_of_quoteAfter {q : Char} (quote : isQuote q = true)
    (outside : quoteAfter none cs = none) (ends : quoteAfter none (cs ++ q :: ds) = none) :
    q ∈ ds := by
  by_contra left
  rw [quoteAfter_append, outside, quoteAfter_cons, followQuote, if_pos quote,
    quoteAfter_of_not_mem left] at ends
  cases ends

instance [DecidablePred p] (cs : List Char) : Decidable (EachOutside p cs) :=
  decidable_of_iff (∀ i : Fin cs.length, quoteAfter none (cs.take i) = none → p cs[i]) <| by
    constructor
    · rintro each front c back rfl outside
      have here := each ⟨front.length, by simp⟩
      simp only [Fin.getElem_fin, List.take_left] at here
      simpa using here outside
    · intro each i outside
      have shape : cs = cs.take i ++ cs[i] :: cs.drop (i + 1) := by simp
      exact each _ _ _ shape outside

theorem EachOutside.front (h : EachOutside p (cs ++ ds)) : EachOutside p cs :=
  fun front c back shape => h front c (back ++ ds) (by rw [shape]; simp)

theorem outside_nil_iff : Outside suits q [] ↔ q = none :=
  ⟨fun h => by cases h; rfl, fun h => h ▸ .nil⟩

theorem outside_cons_iff : Outside suits q (c :: cs) ↔
    (q = none → isQuote c = false → suits c cs) ∧ Outside suits (followQuote q c) cs := by
  cases q with
  | some q => exact ⟨fun h => ⟨nofun, h.of_inside⟩, fun h => .inside h.2⟩
  | none =>
    cases quote : isQuote c with
    | true =>
      rw [followQuote, if_pos quote]
      exact ⟨fun h => ⟨nofun, h.of_opening quote⟩, fun h => .opening quote h.2⟩
    | false =>
      rw [followQuote, if_neg (by simp [quote])]
      exact ⟨fun h => ⟨fun _ _ => (h.of_bare quote).1, (h.of_bare quote).2⟩,
        fun h => .bare quote (h.1 rfl rfl) h.2⟩

/-- A character stands outside of quotes if no quote is open behind the text in front of it. -/
theorem outside_iff : Outside suits q cs ↔ quoteAfter q cs = none ∧
    ∀ front c back, cs = front ++ c :: back → quoteAfter q front = none → isQuote c = false →
      suits c back := by
  induction cs generalizing q with
  | nil => simp [outside_nil_iff]
  | cons x cs ih =>
    rw [outside_cons_iff, ih, quoteAfter_cons]
    constructor
    · rintro ⟨first, closed, later⟩
      refine ⟨closed, fun front c back shape outside => ?_⟩
      rcases List.cons_eq_append_iff.1 shape with ⟨rfl, same⟩ | ⟨front, rfl, rfl⟩
      · obtain ⟨rfl, rfl⟩ := List.cons.inj same
        exact first outside
      · exact later front c back rfl outside
    · rintro ⟨closed, each⟩
      exact ⟨each [] x cs rfl, closed, fun front c back shape =>
        each (x :: front) c back (congrArg (x :: ·) shape)⟩

theorem outside_iff_each (quotes : ∀ c, isQuote c = true → p c) :
    Outside (fun c _ => p c) none cs ↔ quoteAfter none cs = none ∧ EachOutside p cs := by
  rw [outside_iff]
  refine and_congr_right fun _ => ⟨fun each front c back shape outside => ?_,
    fun each front c back shape outside _ => each front c back shape outside⟩
  cases quote : isQuote c with
  | true => exact quotes c quote
  | false => exact each front c back shape outside quote

theorem Uncut.closed {back : List Char} (h : Uncut back q cs) : quoteAfter q cs = none :=
  (outside_iff.1 h).1

end QuoteAfter

/-! ## The end of a predicate -/

section Closed

variable {q : Option Char} {cs ds text rest : List Char}

theorem Closed.append (h : Closed q cs) (hd : Closed none ds) : Closed q (cs ++ ds) :=
  Outside.append h hd fun _ _ => id

theorem closed_joint : Closed none joint := outside_of_all (by simp [joint, isQuote])

theorem readPredicate?_append (h : Closed q text) (rest : List Char) :
    readPredicate? q (text ++ ']' :: rest) = some (text, rest) := by
  induction h with
  | nil => rfl
  | inside _ ih => rw [List.cons_append, readPredicate?, ih, Option.map_some]
  | opening hq _ ih => rw [List.cons_append, readPredicate?, if_pos hq, ih, Option.map_some]
  | bare hq hs _ ih =>
    rw [List.cons_append, readPredicate?, hq, if_neg (by simp), if_neg hs.1, if_neg hs.2, ih,
      Option.map_some]

/-- A predicate ends at the first bracket outside of quotes, and closes its quotes. -/
theorem readPredicate?_eq_some :
    readPredicate? q cs = some (text, rest) ↔ cs = text ++ ']' :: rest ∧ Closed q text := by
  constructor
  · intro h
    have step {c : Char} {text : List Char} {x : Option (List Char × List Char)}
        (h : x.map (fun r => (c :: r.1, r.2)) = some (text, rest)) :
        ∃ more, text = c :: more ∧ x = some (more, rest) := by
      obtain ⟨⟨more, after⟩, read, same⟩ := Option.map_eq_some_iff.1 h
      obtain ⟨rfl, rfl⟩ := Prod.mk.inj same
      exact ⟨more, rfl, read⟩
    fun_induction readPredicate? q cs generalizing text with
    | case1 q => cases h
    | case2 q c cs ih =>
      obtain ⟨more, rfl, read⟩ := step h
      obtain ⟨rfl, closed⟩ := ih read
      exact ⟨rfl, .inside closed⟩
    | case3 c cs quote ih =>
      obtain ⟨more, rfl, read⟩ := step h
      obtain ⟨rfl, closed⟩ := ih read
      exact ⟨rfl, .opening quote closed⟩
    | case4 cs noQuote => cases h
    | case5 cs noQuote noOpening =>
      cases h
      exact ⟨rfl, .nil⟩
    | case6 c cs noQuote noOpening noClosing ih =>
      obtain ⟨more, rfl, read⟩ := step h
      obtain ⟨rfl, closed⟩ := ih read
      exact ⟨rfl, .bare (Bool.eq_false_iff.2 noQuote) ⟨noOpening, noClosing⟩ closed⟩
  · rintro ⟨rfl, closed⟩
    exact readPredicate?_append closed rest

end Closed

/-! ## The cuts of a predicate -/

section Cuts

variable {suits : Char → List Char → Prop} {q : Option Char} {c : Char}
  {ps : List (List Char)} {cs ds back : List Char}

theorem foldr_consFirst (cs : List Char) (ps : List (List Char)) :
    cs.foldr consFirst ([] :: ps) = cs :: ps := by
  induction cs with
  | nil => rfl
  | cons c cs ih => rw [List.foldr_cons, ih]; rfl

theorem splitAnd_quote (h : isQuote c = true) (cs : List Char) :
    splitAnd none (c :: cs) = (splitAnd (some c) cs).map (consFirst c) := by
  have apart : ∀ rest, c = ' ' → cs = 'a' :: 'n' :: 'd' :: ' ' :: rest → False := by
    rintro rest rfl _
    exact absurd h (by decide)
  rw [splitAnd.eq_4 _ _ apart, if_pos h]

/-- Outside of quotes a character goes to the first piece unless a joint starts with it. -/
theorem splitAnd_bare (hq : isQuote c = false) (ha : isAscii c = true) (hj : ¬ joint <+: c :: cs) :
    splitAnd none (c :: cs) = (splitAnd none cs).map (consFirst c) := by
  have apart : ∀ rest, c = ' ' → cs = 'a' :: 'n' :: 'd' :: ' ' :: rest → False := by
    rintro rest rfl rfl
    exact hj ⟨rest, rfl⟩
  rw [splitAnd.eq_4 _ _ apart, hq, ha]
  simp

theorem splitAnd_joint (ds : List Char) :
    splitAnd none (joint ++ ds) = (splitAnd none ds).map ([] :: ·) := rfl

/-- An uncut text falls into the first piece of what follows. -/
theorem splitAnd_append (h : Uncut back q cs) :
    splitAnd q (cs ++ back) = (splitAnd none back).map fun ps => cs.foldr consFirst ps := by
  induction h with
  | nil =>
    change splitAnd none back = _
    cases splitAnd none back <;> rfl
  | inside _ ih =>
    rw [List.cons_append, splitAnd, ih, map_map]
    rfl
  | opening hq _ ih =>
    rw [List.cons_append, splitAnd_quote hq, ih, map_map]
    rfl
  | bare hq hs _ ih =>
    rw [List.cons_append, splitAnd_bare hq hs.1 hs.2, ih, map_map]
    rfl

theorem Pieces.splitAnd (h : Pieces q ps cs) : splitAnd q cs = .ok ps := by
  induction h with
  | @last q cs uncut =>
    have whole := splitAnd_append uncut
    rw [List.append_nil] at whole
    rw [whole]
    exact congrArg Except.ok (foldr_consFirst cs [])
  | @more q ps cs ds uncut _ ih =>
    rw [splitAnd_append uncut, splitAnd_joint, ih]
    exact congrArg Except.ok (foldr_consFirst cs ps)

/-! A character in front of a text goes to its first piece. -/

theorem Pieces.inside {q : Char} (h : Pieces (if c = q then none else some q) ps cs) :
    Pieces (some q) (consFirst c ps) (c :: cs) := by
  cases h with
  | last uncut => exact .last (.inside uncut)
  | more uncut pieces => exact .more (.inside uncut) pieces

theorem Pieces.opening (hq : isQuote c = true) (h : Pieces (some c) ps cs) :
    Pieces none (consFirst c ps) (c :: cs) := by
  cases h with
  | last uncut => exact .last (.opening hq uncut)
  | more uncut pieces => exact .more (.opening hq uncut) pieces

theorem Pieces.bare (hq : isQuote c = false) (ha : isAscii c = true) (hj : ¬ joint <+: c :: cs)
    (h : Pieces none ps cs) : Pieces none (consFirst c ps) (c :: cs) := by
  cases h with
  | last uncut => exact .last (.bare hq ⟨ha, by rwa [List.append_nil]⟩ uncut)
  | more uncut pieces => exact .more (.bare hq ⟨ha, hj⟩ uncut) pieces

theorem Pieces.asciiOutside (h : Pieces q ps cs) : AsciiOutside q cs := by
  have joined : AsciiOutside none joint := outside_of_all (by simp [joint, isQuote, isAscii])
  induction h with
  | last uncut => exact uncut.imp fun _ _ => And.left
  | more uncut _ ih =>
    have rest : AsciiOutside none _ := joined.append ih fun _ _ => id
    exact (uncut.imp fun _ _ => And.left).append rest fun _ _ => id

/-! The pieces of a text, with the joints between them, are the text. -/

theorem Pieces.ne_nil (h : Pieces q ps cs) : ps ≠ [] := by
  cases h <;> exact List.cons_ne_nil _ _

theorem Pieces.joined (h : Pieces q ps cs) : joint.intercalate ps = cs := by
  induction h with
  | last _ => exact List.intercalate_singleton
  | more _ later ih => rw [List.intercalate_cons_of_ne_nil later.ne_nil, ih, List.append_assoc]

/-- No piece ends inside of quotes. -/
theorem Pieces.closed (h : Pieces none ps cs) : ∀ piece ∈ ps, quoteAfter none piece = none := by
  generalize start : none = q at h
  induction h with
  | last uncut =>
    subst start
    exact List.forall_mem_singleton.2 uncut.closed
  | more uncut _ ih =>
    subst start
    exact List.forall_mem_cons.2 ⟨uncut.closed, ih rfl⟩

theorem not_joint_of_apart
    (apart : ∀ rest, c = ' ' → cs = 'a' :: 'n' :: 'd' :: ' ' :: rest → False) :
    ¬ joint <+: c :: cs := by
  rintro ⟨rest, same⟩
  obtain ⟨rfl, rfl⟩ := List.cons.inj same
  exact apart rest rfl rfl

theorem exists_splitAnd (h : AsciiOutside q cs) : ∃ ps, splitAnd q cs = .ok ps := by
  have mapped {x : Except Problem (List (List Char))} (f : List (List Char) → List (List Char))
      (h : ∃ ps, x = .ok ps) : ∃ ps, x.map f = .ok ps :=
    h.imp' f fun ps same => by rw [same]; rfl
  fun_induction splitAnd q cs with
  | case1 q => exact ⟨_, rfl⟩
  | case2 q c cs ih => exact mapped _ (ih (Outside.of_inside h))
  | case3 cs ih => exact mapped _ (ih (Outside.of_joint h))
  | case4 c cs apart quote ih => exact mapped _ (ih (Outside.of_opening h quote))
  | case5 c cs apart noQuote ascii ih =>
    exact mapped _ (ih (Outside.of_bare h (Bool.eq_false_iff.2 noQuote)).2)
  | case6 c cs apart noQuote noAscii =>
    exact absurd (Outside.of_bare h (Bool.eq_false_iff.2 noQuote)).1 noAscii

theorem error_of_splitAnd {e : Problem} (h : splitAnd q cs = .error e) :
    e = .cutInsideCharacter := by
  have mapped {x : Except Problem (List (List Char))} {f : List (List Char) → List (List Char)}
      (h : x.map f = .error e) : x = .error e := by
    cases x with
    | ok ps => cases h
    | error e' => exact h
  fun_induction splitAnd q cs with
  | case1 q => cases h
  | case2 q c cs ih => exact ih (mapped h)
  | case3 cs ih => exact ih (mapped h)
  | case4 c cs apart quote ih => exact ih (mapped h)
  | case5 c cs apart noQuote ascii ih => exact ih (mapped h)
  | case6 c cs apart noQuote noAscii => exact (Except.error.inj h).symm

/-- A text that closes its quotes is cut into its pieces. -/
theorem splitAnd_eq_ok (h : Outside suits q cs) : splitAnd q cs = .ok ps ↔ Pieces q ps cs := by
  refine ⟨fun cut => ?_, Pieces.splitAnd⟩
  -- one case for each way the scan goes on; only a joint starts a new piece
  fun_induction splitAnd q cs generalizing ps with
  | case1 q =>
    cases h with
    | nil =>
      obtain rfl := Except.ok.inj cut
      exact .last .nil
  | case2 q c cs ih =>
    obtain ⟨ps, read, rfl⟩ := map_eq_ok.1 cut
    exact (ih h.of_inside read).inside
  | case3 cs ih =>
    obtain ⟨ps, read, rfl⟩ := map_eq_ok.1 cut
    exact .more .nil (ih h.of_joint read)
  | case4 c cs apart quote ih =>
    obtain ⟨ps, read, rfl⟩ := map_eq_ok.1 cut
    exact (ih (h.of_opening quote) read).opening quote
  | case5 c cs apart noQuote ascii ih =>
    obtain ⟨ps, read, rfl⟩ := map_eq_ok.1 cut
    have bare := Bool.eq_false_iff.2 noQuote
    exact (ih (h.of_bare bare).2 read).bare bare ascii (not_joint_of_apart apart)
  | case6 c cs apart noQuote noAscii => cases cut

/-- Only a character of several bytes outside quotes keeps such a text from being cut. -/
theorem splitAnd_eq_error (h : Outside suits q cs) {e : Problem} :
    splitAnd q cs = .error e ↔ e = .cutInsideCharacter ∧ ¬ AsciiOutside q cs := by
  cases cut : splitAnd q cs with
  | ok ps =>
    have ascii := ((splitAnd_eq_ok h).1 cut).asciiOutside
    exact ⟨nofun, fun ⟨_, strays⟩ => absurd ascii strays⟩
  | error e' =>
    have strays : ¬ AsciiOutside q cs := fun ascii => by
      obtain ⟨ps, cut'⟩ := exists_splitAnd ascii
      rw [cut'] at cut
      cases cut
    obtain rfl := error_of_splitAnd cut
    exact ⟨fun same => ⟨(Except.error.inj same).symm, strays⟩, fun ⟨same, _⟩ => by rw [same]⟩

end Cuts

end PageHarvest.XPath
