import PageHarvest.Expression.Reading

/-!
# The grammar of expressions

`Derives L ts e` says that the tokens `ts` make up the expression `e` at the level `L`; the levels
run from the weakest operators to operands without any:

* `or`, `and`, `equality` and `order` join two operands and group to the left, so the left operand
  is of the same level and the right one of the next;
* `signed` puts `!` or `-` in front, `accessed` puts `.name` or `[key]` behind;
* `operand` is a literal, a name, a reference, or an expression in parentheses. The names of the
  constants are literals here and plain names after a dot.

`nesting ts` is the greatest number of signs, parentheses and brackets that are open at once at a
token of `ts`. A sign is open as long as its operand goes on, a parenthesis or bracket until it is
closed. The laws at the end say what each rule of the grammar adds to it.
-/

namespace PageHarvest.Expr

inductive Level
  | or
  | and
  | equality
  | order
  | signed
  | accessed
  | operand
  deriving DecidableEq, Repr

/-- The tokens of the equalities. -/
def equalities : List (Token × Comparison) :=
  [(.eq, .eq), (.notEq, .notEq), (.strictEq, .strictEq), (.strictNotEq, .strictNotEq)]

/-- The tokens of the orders. -/
def orders : List (Token × Comparison) := [(.lt, .lt), (.le, .le), (.gt, .gt), (.ge, .ge)]

/-- The names that are no identifiers, and the constants that they stand for. -/
def constants : List (String × Option Json) :=
  [("true", some (.bool true)), ("false", some (.bool false)), ("null", some .null),
    ("undefined", none)]

inductive Derives : Level → List Token → Expr → Prop
  | orOf {ts : List Token} {e : Expr} : Derives .and ts e → Derives .or ts e
  | or {ts us : List Token} {l r : Expr} : Derives .or ts l → Derives .and us r →
      Derives .or (ts ++ .or :: us) (.or l r)
  | andOf {ts : List Token} {e : Expr} : Derives .equality ts e → Derives .and ts e
  | and {ts us : List Token} {l r : Expr} : Derives .and ts l → Derives .equality us r →
      Derives .and (ts ++ .and :: us) (.and l r)
  | equalityOf {ts : List Token} {e : Expr} : Derives .order ts e → Derives .equality ts e
  | equality {ts us : List Token} {l r : Expr} {t : Token} {op : Comparison} :
      (t, op) ∈ equalities → Derives .equality ts l → Derives .order us r →
      Derives .equality (ts ++ t :: us) (.compare op l r)
  | orderOf {ts : List Token} {e : Expr} : Derives .signed ts e → Derives .order ts e
  | order {ts us : List Token} {l r : Expr} {t : Token} {op : Comparison} :
      (t, op) ∈ orders → Derives .order ts l → Derives .signed us r →
      Derives .order (ts ++ t :: us) (.compare op l r)
  | signedOf {ts : List Token} {e : Expr} : Derives .accessed ts e → Derives .signed ts e
  | not {ts : List Token} {e : Expr} : Derives .signed ts e → Derives .signed (.not :: ts) (.not e)
  | negate {ts : List Token} {e : Expr} : Derives .signed ts e →
      Derives .signed (.minus :: ts) (.negate e)
  | accessedOf {ts : List Token} {e : Expr} : Derives .operand ts e → Derives .accessed ts e
  | member {ts : List Token} {e : Expr} {name : String} : Derives .accessed ts e →
      Derives .accessed (ts ++ [.dot, .ident name]) (.member e name)
  | index {ts us : List Token} {e key : Expr} : Derives .accessed ts e → Derives .or us key →
      Derives .accessed (ts ++ .lBracket :: (us ++ [.rBracket])) (.index e key)
  | number (f : Float) : Derives .operand [.number f] (.literal (some (Json.ofFloat f)))
  | str (text : String) : Derives .operand [.str text] (.literal (some (.str text)))
  | constant {name : String} {value : Option Json} : (name, value) ∈ constants →
      Derives .operand [.ident name] (.literal value)
  | name {name : String} : name ∉ constants.map Prod.fst →
      Derives .operand [.ident name] (.identifier name)
  | reference (path : String) : Derives .operand [.reference path] (.reference path)
  | group {ts : List Token} {e : Expr} : Derives .or ts e →
      Derives .operand (.lParen :: (ts ++ [.rParen])) e

/-! ## Nesting -/

/-- What can be open: a sign, or else a parenthesis or bracket. -/
inductive Opening
  | sign
  | group
  deriving DecidableEq, Repr

/-- What is open once the operands end that signs stand before. -/
def closeSigns (st : List Opening) : List Opening := st.dropWhile (· = .sign)

/-- What is open after a token, innermost first. -/
def openAfter (st : List Opening) : Token → List Opening
  | .not | .minus => .sign :: st
  | .lParen | .lBracket => .group :: st
  | .rParen | .rBracket => (closeSigns st).tail
  | .and | .or | .eq | .notEq | .strictEq | .strictNotEq | .lt | .le | .gt | .ge => closeSigns st
  | .number _ | .str _ | .ident _ | .reference _ | .dot => st

/-- What is open after some tokens. -/
def openAfterAll (st : List Opening) (ts : List Token) : List Opening := ts.foldl openAfter st

/-- The most that is open at once from here on. -/
def nestingFrom (st : List Opening) : List Token → Nat
  | [] => st.length
  | t :: ts => max st.length (nestingFrom (openAfter st t) ts)

/-- The most signs, parentheses and brackets that are open at once. -/
def nesting (ts : List Token) : Nat := nestingFrom [] ts

theorem length_le_nestingFrom (st : List Opening) (ts : List Token) :
    st.length ≤ nestingFrom st ts := by
  cases ts with
  | nil => exact Nat.le_refl _
  | cons t ts => exact Nat.le_max_left _ _

theorem nestingFrom_append (st : List Opening) (ts us : List Token) :
    nestingFrom st (ts ++ us) = max (nestingFrom st ts) (nestingFrom (openAfterAll st ts) us) := by
  induction ts generalizing st with
  | nil => exact (Nat.max_eq_right (length_le_nestingFrom st us)).symm
  | cons t ts ih =>
    simp only [List.cons_append, nestingFrom, ih, openAfterAll, List.foldl_cons, Nat.max_assoc]

/-- No sign is open right here; so it is wherever operators with two operands may stand. -/
def Settled (st : List Opening) : Prop := closeSigns st = st

theorem settled_nil : Settled [] := rfl

theorem settled_group (st : List Opening) : Settled (.group :: st) := by
  simp [Settled, closeSigns]

theorem closeSigns_replicate (k : Nat) (st : List Opening) :
    closeSigns (List.replicate k .sign ++ st) = closeSigns st := by
  induction k with
  | zero => rfl
  | succ k ih => exact ih

theorem openAfterAll_append (st : List Opening) (ts us : List Token) :
    openAfterAll st (ts ++ us) = openAfterAll (openAfterAll st ts) us :=
  List.foldl_append

theorem length_openAfterAll_le (st : List Opening) (ts : List Token) :
    (openAfterAll st ts).length ≤ nestingFrom st ts := by
  induction ts generalizing st with
  | nil => exact Nat.le_refl _
  | cons t ts ih => exact Nat.le_trans (ih _) (Nat.le_max_right _ _)

/-! ## What a derivation opens

From any state in which it may stand, a derived list of tokens closes what it opens but for signs
at its end, and the most that it opens on top of that state does not depend on the state. -/

/-- The states in which a derivation of the level may stand. -/
def Level.Admits : Level → List Opening → Prop
  | .or | .and | .equality | .order => Settled
  | .signed | .accessed | .operand => fun _ => True

/-- From `st`, the tokens leave `k` signs open and open `m` at most. -/
structure Opens (st : List Opening) (ts : List Token) (k m : Nat) : Prop where
  openAfterAll_eq : openAfterAll st ts = List.replicate k .sign ++ st
  nestingFrom_eq : nestingFrom st ts = st.length + m

namespace Opens

variable {st : List Opening} {ts us : List Token} {k m l n : Nat} {t : Token}

/-- A token that opens and closes nothing. -/
theorem single (ht : openAfter st t = st) : Opens st [t] 0 0 where
  openAfterAll_eq := ht
  nestingFrom_eq := by simp [nestingFrom, ht]

/-- Two operands with an operator between them: the operator closes the signs of the first one. -/
theorem operator (hst : Settled st) (ht : ∀ st', openAfter st' t = closeSigns st')
    (h : Opens st ts k m) (h' : Opens st us l n) : Opens st (ts ++ t :: us) l (max m n) where
  openAfterAll_eq := by
    have step : openAfterAll st (ts ++ t :: us) =
        openAfterAll (openAfter (openAfterAll st ts) t) us := openAfterAll_append st ts (t :: us)
    rw [step, h.openAfterAll_eq, ht, closeSigns_replicate, hst, h'.openAfterAll_eq]
  nestingFrom_eq := by
    have left := length_openAfterAll_le st ts
    have right := h'.nestingFrom_eq
    rw [h.openAfterAll_eq, h.nestingFrom_eq] at left
    rw [nestingFrom_append, h.openAfterAll_eq, h.nestingFrom_eq, nestingFrom, ht,
      closeSigns_replicate, hst]
    omega

/-- A sign stays open behind its operand. -/
theorem sign (ht : openAfter st t = .sign :: st) (h : Opens (.sign :: st) ts k m) :
    Opens st (t :: ts) (k + 1) (m + 1) where
  openAfterAll_eq := by
    have step : openAfterAll st (t :: ts) = openAfterAll (.sign :: st) ts := by
      rw [← ht]
      rfl
    rw [step, h.openAfterAll_eq, List.replicate_succ']
    simp
  nestingFrom_eq := by
    have inner := h.nestingFrom_eq
    rw [List.length_cons] at inner
    rw [nestingFrom, ht]
    omega

/-- A group is closed behind its content, and with it the signs at the end of the content. -/
theorem group {c : Token} (ht : openAfter st t = .group :: st)
    (hc : ∀ st', openAfter st' c = (closeSigns st').tail) (h : Opens (.group :: st) ts k m) :
    Opens st (t :: (ts ++ [c])) 0 (m + 1) where
  openAfterAll_eq := by
    have step : openAfterAll st (t :: (ts ++ [c])) =
        openAfter (openAfterAll (.group :: st) ts) c := by
      rw [← ht, ← List.cons_append, openAfterAll_append]
      rfl
    rw [step, h.openAfterAll_eq, hc, closeSigns_replicate, settled_group]
    rfl
  nestingFrom_eq := by
    have inner := h.nestingFrom_eq
    have last := length_openAfterAll_le (.group :: st) ts
    have closed : closeSigns (.group :: st) = .group :: st := settled_group st
    rw [h.openAfterAll_eq] at last
    rw [nestingFrom, ht, nestingFrom_append, h.openAfterAll_eq]
    simp only [nestingFrom, hc, closeSigns_replicate, closed, List.tail_cons]
    simp only [List.length_cons] at *
    omega

/-- What stands behind an operand without open signs. -/
theorem append (h : Opens st ts 0 m) (h' : Opens st us l n) :
    Opens st (ts ++ us) l (max m n) where
  openAfterAll_eq := by
    rw [openAfterAll_append, h.openAfterAll_eq]
    exact h'.openAfterAll_eq
  nestingFrom_eq := by
    have left := h.nestingFrom_eq
    have right := h'.nestingFrom_eq
    rw [nestingFrom_append, h.openAfterAll_eq]
    simp only [List.replicate_zero, List.nil_append]
    omega

end Opens

theorem openAfter_comparison {t : Token} {op : Comparison} (h : (t, op) ∈ equalities ++ orders)
    (st : List Opening) : openAfter st t = closeSigns st := by
  simp only [equalities, orders, List.cons_append, List.nil_append, List.mem_cons, Prod.mk.injEq,
    List.not_mem_nil, or_false] at h
  rcases h with ⟨rfl, -⟩ | ⟨rfl, -⟩ | ⟨rfl, -⟩ | ⟨rfl, -⟩ | ⟨rfl, -⟩ | ⟨rfl, -⟩ | ⟨rfl, -⟩ |
    ⟨rfl, -⟩ <;> rfl

/-- The signs at the end of a derivation: none behind an operand or an accessor. -/
def Level.Ends (L : Level) (k : Nat) : Prop := L = .accessed ∨ L = .operand → k = 0

theorem Derives.opens {L : Level} {ts : List Token} {e : Expr} (h : Derives L ts e) :
    ∃ k m, L.Ends k ∧ ∀ st, L.Admits st → Opens st ts k m := by
  induction h with
  | orOf _ ih | andOf _ ih | equalityOf _ ih =>
    obtain ⟨k, m, -, ih⟩ := ih
    exact ⟨k, m, by simp [Level.Ends], ih⟩
  | orderOf _ ih =>
    obtain ⟨k, m, -, ih⟩ := ih
    exact ⟨k, m, by simp [Level.Ends], fun st _ => ih st trivial⟩
  | or _ _ ihl ihr | and _ _ ihl ihr =>
    obtain ⟨k, m, -, ihl⟩ := ihl
    obtain ⟨l, n, -, ihr⟩ := ihr
    exact ⟨l, max m n, by simp [Level.Ends],
      fun st hst => .operator hst (fun _ => rfl) (ihl st hst) (ihr st hst)⟩
  | equality ht _ _ ihl ihr =>
    obtain ⟨k, m, -, ihl⟩ := ihl
    obtain ⟨l, n, -, ihr⟩ := ihr
    exact ⟨l, max m n, by simp [Level.Ends],
      fun st hst =>
        .operator hst (openAfter_comparison (List.mem_append_left _ ht)) (ihl st hst) (ihr st hst)⟩
  | order ht _ _ ihl ihr =>
    obtain ⟨k, m, -, ihl⟩ := ihl
    obtain ⟨l, n, -, ihr⟩ := ihr
    exact ⟨l, max m n, by simp [Level.Ends],
      fun st hst =>
        .operator hst (openAfter_comparison (List.mem_append_right _ ht)) (ihl st hst)
          (ihr st trivial)⟩
  | signedOf _ ih =>
    obtain ⟨k, m, -, ih⟩ := ih
    exact ⟨k, m, by simp [Level.Ends], ih⟩
  | not _ ih | negate _ ih =>
    obtain ⟨k, m, -, ih⟩ := ih
    exact ⟨k + 1, m + 1, by simp [Level.Ends], fun st _ => .sign rfl (ih _ trivial)⟩
  | accessedOf _ ih =>
    obtain ⟨k, m, hk, ih⟩ := ih
    exact ⟨k, m, fun _ => hk (.inr rfl), ih⟩
  | member _ ih =>
    obtain ⟨k, m, hk, ih⟩ := ih
    obtain rfl : k = 0 := hk (.inl rfl)
    have dot (st : List Opening) : Opens st [.dot] 0 0 := .single rfl
    exact ⟨0, _, fun _ => rfl, fun st _ =>
      (ih st trivial).append ((dot st).append (.single rfl))⟩
  | index _ _ ihe ihk =>
    obtain ⟨k, m, hk, ihe⟩ := ihe
    obtain rfl : k = 0 := hk (.inl rfl)
    obtain ⟨l, n, -, ihk⟩ := ihk
    exact ⟨0, max m (n + 1), fun _ => rfl, fun st _ =>
      (ihe st trivial).append (.group rfl (fun _ => rfl) (ihk _ (settled_group st)))⟩
  | number | str | constant | name | reference =>
    exact ⟨0, 0, fun _ => rfl, fun st _ => .single rfl⟩
  | group _ ih =>
    obtain ⟨l, n, -, ih⟩ := ih
    exact ⟨0, n + 1, fun _ => rfl, fun st _ =>
      .group rfl (fun _ => rfl) (ih _ (settled_group st))⟩

theorem Level.admits_nil (L : Level) : L.Admits [] := by cases L <;> first | rfl | trivial

theorem Opens.nesting_eq {ts : List Token} {k m : Nat} (h : Opens [] ts k m) : nesting ts = m :=
  h.nestingFrom_eq.trans (Nat.zero_add m)

/-- `Derives.opens` with the nesting that is meant. -/
theorem Derives.opens_nesting {L : Level} {ts : List Token} {e : Expr} (h : Derives L ts e) :
    ∃ k, L.Ends k ∧ ∀ st, L.Admits st → Opens st ts k (nesting ts) := by
  obtain ⟨k, m, hk, h⟩ := h.opens
  rw [(h [] L.admits_nil).nesting_eq]
  exact ⟨k, hk, h⟩

/-! ## What the rules of the grammar add to the nesting -/

section
variable {L M : Level} {ts us : List Token} {t : Token} {l r e key : Expr}

theorem nesting_operator (ht : ∀ st, openAfter st t = closeSigns st) (hl : Derives L ts l)
    (hr : Derives M us r) : nesting (ts ++ t :: us) = max (nesting ts) (nesting us) := by
  obtain ⟨_, -, hl⟩ := hl.opens_nesting
  obtain ⟨_, -, hr⟩ := hr.opens_nesting
  exact (Opens.operator settled_nil ht (hl [] L.admits_nil) (hr [] M.admits_nil)).nesting_eq

theorem nesting_sign (ht : openAfter [] t = [.sign]) (h : Derives .signed ts e) :
    nesting (t :: ts) = nesting ts + 1 := by
  obtain ⟨_, -, h⟩ := h.opens_nesting
  exact (Opens.sign ht (h [.sign] trivial)).nesting_eq

theorem nesting_group (h : Derives .or ts e) :
    nesting (.lParen :: (ts ++ [.rParen])) = nesting ts + 1 := by
  obtain ⟨_, -, h⟩ := h.opens_nesting
  exact (Opens.group rfl (fun _ => rfl) (h [.group] (settled_group []))).nesting_eq

theorem nesting_member (name : String) (h : Derives .accessed ts e) :
    nesting (ts ++ [.dot, .ident name]) = nesting ts := by
  obtain ⟨k, hk, h⟩ := h.opens_nesting
  obtain rfl : k = 0 := hk (.inl rfl)
  have back : Opens [] [.dot, .ident name] 0 0 := ⟨rfl, rfl⟩
  rw [((h [] trivial).append back).nesting_eq, Nat.max_zero]

theorem nesting_index (h : Derives .accessed ts e) (h' : Derives .or us key) :
    nesting (ts ++ .lBracket :: (us ++ [.rBracket])) = max (nesting ts) (nesting us + 1) := by
  obtain ⟨k, hk, h⟩ := h.opens_nesting
  obtain rfl : k = 0 := hk (.inl rfl)
  obtain ⟨_, -, h'⟩ := h'.opens_nesting
  have back : Opens [] (.lBracket :: (us ++ [.rBracket])) 0 (nesting us + 1) :=
    .group rfl (fun _ => rfl) (h' [.group] (settled_group []))
  exact ((h [] trivial).append back).nesting_eq

end

end PageHarvest.Expr
