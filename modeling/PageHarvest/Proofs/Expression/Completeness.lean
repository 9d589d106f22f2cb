import PageHarvest.Proofs.Expression.Soundness

/-!
# What is derived is read

A derived list of tokens is read in front of any tokens that do not continue it. A level with
operators of its own reads its derivation up to a point where more of them may follow, so
`Derives.readsBack` is about what the reader resumes with at that point (`Level.resume`): the
left-recursive rules of the grammar become the rounds of a loop.

With `Level.reads_of_reading` this gives `ofTokensWithin_eq_ok_iff`, from which the main statement,
`ofTokens_iff_derives`, and the uniqueness of what the grammar derives follow.
-/

namespace PageHarvest.Expr

/-! ## Where a derivation may end -/

/-- How strongly a token binds what stands in front of it, zero if it does not. -/
def Token.strength : Token → Nat
  | .or => 1
  | .and => 2
  | .eq | .notEq | .strictEq | .strictNotEq => 3
  | .lt | .le | .gt | .ge => 4
  | .dot | .lBracket => 5
  | _ => 0

/-- How strongly the operators of a level bind. -/
def Level.strength : Level → Nat
  | or => 1
  | and => 2
  | equality => 3
  | order | signed => 4
  | accessed | operand => 5

/-- The tokens do not go on with anything that binds more strongly than the level. -/
def Level.Stops (L : Level) (rest : List Token) : Prop :=
  ∀ t ∈ rest.head?, t.strength ≤ L.strength

/-- The reader of a level from after a first operand. -/
def Level.resume (d : Nat) (L : Level) (e : Expr) : Reading Expr := fun s =>
  match L with
  | or | and | equality | order => chainFrom L.operator? (L.next.reading d) s.rest.length e s
  | accessed => accessors (nested d) s.rest.length e s
  | signed | operand => .ok (e, s)

section
variable {L : Level} {d n : Nat} {s s' : ReadState} {e l r : Expr} {t : Token}
  {ts us rest : List Token} {combine : Expr → Expr → Expr}

theorem Level.resume_binary (hL : L.IsBinary) (s : ReadState) :
    L.resume d e s = chainFrom L.operator? (L.next.reading d) s.rest.length e s := by
  rcases hL with rfl | rfl | rfl | rfl <;> rfl

theorem operator?_eq_none (h : t.strength < L.strength) : L.operator? t = none := by
  cases L <;> cases t <;> first | rfl | exact absurd h (by decide)

theorem strength_of_operator? (ht : L.operator? t = some combine) : t.strength = L.strength := by
  cases L <;> cases t <;> first | rfl | cases ht

theorem chainFrom_eq_of_none {op : Token → Option (Expr → Expr → Expr)} {operand : Reading Expr}
    (fuel : Nat) (h : ∀ t ∈ s.rest.head?, op t = none) :
    chainFrom op operand fuel e s = .ok (e, s) := by
  cases fuel with
  | zero => rfl
  | succ fuel =>
    unfold chainFrom
    split
    · rfl
    · rename_i t rest hs
      have ht : op t = none := h t (by simp [hs])
      rw [ht]

theorem Level.resume_next (hL : L.IsBinary) (h : L.Stops rest) :
    L.next.resume d e ⟨rest, n⟩ = .ok (e, ⟨rest, n⟩) := by
  have none_of (M : Level) (hM : L.strength < M.strength) :
      ∀ t ∈ rest.head?, M.operator? t = none :=
    fun t ht => operator?_eq_none (Nat.lt_of_le_of_lt (h t ht) hM)
  rcases hL with rfl | rfl | rfl | rfl
  · exact chainFrom_eq_of_none _ (none_of .and (by decide))
  · exact chainFrom_eq_of_none _ (none_of .equality (by decide))
  · exact chainFrom_eq_of_none _ (none_of .order (by decide))
  · rfl

/-! ## Rounds

Every round of a loop takes a token, so any number of rounds from the number of tokens on gives
the same. -/

theorem length_le_of_reading (h : L.reading d s = .ok (e, s')) : s'.rest.length ≤ s.rest.length :=
  (Level.reads_of_reading h).length_le

theorem length_le_of_nested (h : nested d s = .ok (e, s')) : s'.rest.length ≤ s.rest.length := by
  obtain ⟨d', -, reads⟩ := (opensTo d).1 s e s' h
  exact reads.length_le

theorem chainFrom_fuel : ∀ {fuel fuel' : Nat} {e : Expr} {s : ReadState},
    s.rest.length ≤ fuel → s.rest.length ≤ fuel' →
    chainFrom L.operator? (L.next.reading d) fuel e s =
      chainFrom L.operator? (L.next.reading d) fuel' e s := by
  intro fuel
  induction fuel with
  | zero =>
    intro fuel' e s h _
    have hs : s.rest = [] := List.eq_nil_of_length_eq_zero (Nat.le_zero.1 h)
    rw [chainFrom_eq_of_none _ (by simp [hs]), chainFrom_eq_of_none _ (by simp [hs])]
  | succ fuel ih =>
    intro fuel' e s h h'
    cases fuel' with
    | zero =>
      have hs : s.rest = [] := List.eq_nil_of_length_eq_zero (Nat.le_zero.1 h')
      rw [chainFrom_eq_of_none _ (by simp [hs]), chainFrom_eq_of_none _ (by simp [hs])]
    | succ fuel' =>
      unfold chainFrom
      split
      · rfl
      · rename_i t rest hs
        simp only [hs, List.length_cons] at h h'
        split
        · rfl
        · rename_i combine ht
          refine bind_congr_ok ?_
          rintro ⟨r, s₁⟩ hr
          refine bind_congr_ok ?_
          rintro ⟨joined, s₂⟩ hc
          have shorter := length_le_of_reading hr
          obtain ⟨-, hrest, -⟩ := count_eq_ok hc
          simp only at shorter
          exact ih (by rw [hrest]; omega) (by rw [hrest]; omega)

theorem accessors_fuel : ∀ {fuel fuel' : Nat} {e : Expr} {s : ReadState},
    s.rest.length ≤ fuel → s.rest.length ≤ fuel' →
    accessors (nested d) fuel e s = accessors (nested d) fuel' e s := by
  have stop (fuel : Nat) (e : Expr) (s : ReadState) (hs : s.rest = []) :
      accessors (nested d) fuel e s = .ok (e, s) := by
    cases fuel with
    | zero => rfl
    | succ fuel => simp [accessors, hs]
  intro fuel
  induction fuel with
  | zero =>
    intro fuel' e s h _
    have hs : s.rest = [] := List.eq_nil_of_length_eq_zero (Nat.le_zero.1 h)
    rw [stop _ e s hs, stop _ e s hs]
  | succ fuel ih =>
    intro fuel' e s h h'
    cases fuel' with
    | zero =>
      have hs : s.rest = [] := List.eq_nil_of_length_eq_zero (Nat.le_zero.1 h')
      rw [stop _ e s hs, stop _ e s hs]
    | succ fuel' =>
      unfold accessors
      split
      · rename_i name rest hs
        simp only [hs, List.length_cons] at h h'
        refine bind_congr_ok ?_
        rintro ⟨e₁, s₁⟩ hc
        obtain ⟨-, hrest, -⟩ := count_eq_ok hc
        exact ih (by rw [hrest]; simp only; omega) (by rw [hrest]; simp only; omega)
      · rfl
      · rename_i rest hs
        simp only [hs, List.length_cons] at h h'
        refine bind_congr_ok ?_
        rintro ⟨key, s₁⟩ hk
        refine bind_congr_ok ?_
        rintro ⟨u, s₂⟩ hb
        refine bind_congr_ok ?_
        rintro ⟨e₁, s₃⟩ hc
        have shorter := length_le_of_nested hk
        obtain ⟨hb, -⟩ := reads_of_expectRBracket hb
        obtain ⟨-, hrest, -⟩ := count_eq_ok hc
        simp only [hb, List.length_cons] at shorter
        exact ih (by rw [hrest]; omega) (by rw [hrest]; omega)
      · rfl

/-! ## Completeness -/

theorem reading_of_next (hL : L.IsBinary) (hs : L.Stops rest)
    (h : L.next.reading d s = L.next.resume d e ⟨rest, n⟩) :
    L.reading d s = L.resume d e ⟨rest, n⟩ := by
  rw [Level.resume_next hL hs] at h
  rw [Level.reading_binary hL, Level.resume_binary hL]
  unfold chain
  rw [h]
  rfl

theorem reading_join (hL : L.IsBinary) (hs : L.Stops rest) (ht : L.operator? t = some combine)
    (hl : L.reading d s = L.resume d l ⟨t :: (us ++ rest), n + 1 + r.nodes⟩)
    (hr : L.next.reading d ⟨us ++ rest, n + 1 + r.nodes⟩ = L.next.resume d r ⟨rest, n + 1⟩) :
    L.reading d s = L.resume d (combine l r) ⟨rest, n⟩ := by
  rw [Level.resume_next hL hs] at hr
  rw [hl, Level.resume_binary hL, Level.resume_binary hL]
  simp only [List.length_cons, chainFrom, ht, hr]
  exact chainFrom_fuel (by simp) (Nat.le_refl _)

theorem Derives.exists_head (h : Derives L ts e) (hL : L = .accessed ∨ L = .operand) :
    ∃ t us, ts = t :: us ∧ openAfter [] t ≠ [.sign] := by
  induction h with
  | orOf | or | andOf | and | equalityOf | equality | orderOf | order | signedOf | not | negate =>
    rcases hL with h | h <;> cases h
  | accessedOf _ ih => exact ih (.inr rfl)
  | member _ ih =>
    obtain ⟨t, us, rfl, ht⟩ := ih (.inl rfl)
    exact ⟨t, _, rfl, ht⟩
  | index _ _ ih =>
    obtain ⟨t, us, rfl, ht⟩ := ih (.inl rfl)
    exact ⟨t, _, rfl, ht⟩
  | number | str | constant | name | reference | group => exact ⟨_, _, rfl, by simp [openAfter]⟩

theorem signedWith_of_head {signed inner : Reading Expr} (hr : s.rest = t :: rest)
    (ht : openAfter [] t ≠ [.sign]) : signedWith signed inner s = postfixed inner s := by
  unfold signedWith
  split
  · rename_i rest' hs
    rw [hr] at hs
    cases hs
    exact absurd rfl ht
  · rename_i rest' hs
    rw [hr] at hs
    cases hs
    exact absurd rfl ht
  · rfl

theorem ofName_constant {name : String} {value : Option Json} (h : (name, value) ∈ constants) :
    ofName name = .literal value := by
  simp only [constants, List.mem_cons, Prod.mk.injEq, List.not_mem_nil, or_false] at h
  rcases h with ⟨rfl, rfl⟩ | ⟨rfl, rfl⟩ | ⟨rfl, rfl⟩ | ⟨rfl, rfl⟩ <;> rfl

theorem ofName_of_not_mem {name : String} (h : name ∉ constants.map Prod.fst) :
    ofName name = .identifier name := by
  unfold ofName
  split
  · simp [constants] at h
  · simp [constants] at h
  · simp [constants] at h
  · simp [constants] at h
  · rfl

theorem operator?_of_mem_equalities {op : Comparison} (h : (t, op) ∈ equalities) :
    Level.equality.operator? t = some (.compare op) := by
  simp only [equalities, List.mem_cons, Prod.mk.injEq, List.not_mem_nil, or_false] at h
  rcases h with ⟨rfl, rfl⟩ | ⟨rfl, rfl⟩ | ⟨rfl, rfl⟩ | ⟨rfl, rfl⟩ <;> rfl

theorem operator?_of_mem_orders {op : Comparison} (h : (t, op) ∈ orders) :
    Level.order.operator? t = some (.compare op) := by
  simp only [orders, List.mem_cons, Prod.mk.injEq, List.not_mem_nil, or_false] at h
  rcases h with ⟨rfl, rfl⟩ | ⟨rfl, rfl⟩ | ⟨rfl, rfl⟩ | ⟨rfl, rfl⟩ <;> rfl

theorem Level.stops_operator (ht : L.operator? t = some combine) (rest : List Token) :
    L.Stops (t :: rest) := by
  intro u hu
  cases hu
  exact Nat.le_of_eq (strength_of_operator? ht)

theorem Level.Stops.mono {M : Level} (h : L.Stops rest) (hLM : L.strength ≤ M.strength) :
    M.Stops rest := fun t ht => Nat.le_trans (h t ht) hLM

/-- Where nothing follows that binds a part of an expression. -/
theorem Level.stops_of_strength_zero (L : Level) (ht : t.strength = 0) (rest : List Token) :
    L.Stops (t :: rest) := by
  intro u hu
  cases hu
  rw [ht]
  exact Nat.zero_le _

theorem accessors_eq_of_strength (fuel : Nat) (inner : Reading Expr)
    (h : Level.signed.Stops s.rest) : accessors inner fuel e s = .ok (e, s) := by
  cases fuel with
  | zero => rfl
  | succ fuel =>
    unfold accessors
    split
    · rename_i name rest hs
      exact absurd (h .dot (by simp [hs])) (by decide)
    · rename_i rest hs
      exact absurd (h .dot (by simp [hs])) (by decide)
    · rename_i rest hs
      exact absurd (h .lBracket (by simp [hs])) (by decide)
    · rfl

/-- With room for their nesting and for the nodes of the expression, the tokens are read as the
expression in front of any tokens that do not go on with it. -/
def Level.ReadsBack (L : Level) (ts : List Token) (e : Expr) : Prop := ∀ d n rest,
  nesting ts ≤ d → L.Stops rest → L.reading d ⟨ts ++ rest, n + e.nodes⟩ = L.resume d e ⟨rest, n⟩

namespace Level.ReadsBack

/-- A rule that goes on to the next level. -/
theorem ofNext (hL : L.IsBinary) (h : L.next.ReadsBack ts e) : L.ReadsBack ts e := by
  intro d n rest hd hs
  have hnext : L.next.Stops rest := hs.mono (by rcases hL with rfl | rfl | rfl | rfl <;> decide)
  exact reading_of_next hL hs (h d n rest hd hnext)

/-- A rule for two operands. -/
theorem operator (hL : L.IsBinary) (ht : L.operator? t = some combine) (hld : Derives L ts l)
    (hrd : Derives L.next us r) (hl : L.ReadsBack ts l) (hr : L.next.ReadsBack us r) :
    L.ReadsBack (ts ++ t :: us) (combine l r) := by
  intro d n rest hd hs
  rw [nesting_operator (openAfter_operator ht) hld hrd, Nat.max_le] at hd
  have hnext : L.next.Stops rest := hs.mono (by rcases hL with rfl | rfl | rfl | rfl <;> decide)
  have tokens : ts ++ t :: us ++ rest = ts ++ t :: (us ++ rest) := by simp
  have nodes : n + (combine l r).nodes = n + 1 + r.nodes + l.nodes := by
    rw [nodes_join ht]
    omega
  rw [tokens, nodes]
  exact reading_join hL hs ht (hl _ _ _ hd.1 (Level.stops_operator ht _)) (hr _ _ _ hd.2 hnext)

/-- A sign before an operand. -/
theorem sign {op : Expr → Expr} (ht : openAfter [] t = [.sign])
    (hn : (op e).nodes = e.nodes + 1) (hd : Derives .signed ts e) (h : signed.ReadsBack ts e)
    (hread : ∀ d s, signedWith (afterSign d) (nested d) ⟨t :: s.rest, s.spare⟩ =
      afterSign d s >>= fun p => count (op p.1) p.2) :
    signed.ReadsBack (t :: ts) (op e) := by
  intro d n rest deep hs
  rw [nesting_sign ht hd] at deep
  obtain ⟨d, rfl⟩ : ∃ d', d = d' + 1 := ⟨d - 1, by omega⟩
  have inner : Expr.operand d ⟨ts ++ rest, n + 1 + e.nodes⟩ = .ok (e, ⟨rest, n + 1⟩) :=
    h d (n + 1) rest (by omega) hs
  have nodes : n + (op e).nodes = n + 1 + e.nodes := by omega
  rw [nodes, Level.reading, operand_eq]
  refine (hread _ ⟨ts ++ rest, n + 1 + e.nodes⟩).trans ?_
  rw [afterSign, inner]
  rfl

theorem ofAccessed (hd : Derives .accessed ts e) (h : accessed.ReadsBack ts e) :
    signed.ReadsBack ts e := by
  intro d n rest deep hs
  obtain ⟨t, us, rfl, ht⟩ := hd.exists_head (.inl rfl)
  rw [Level.reading, operand_eq, signedWith_of_head rfl ht]
  exact (h d n rest deep (hs.mono (by decide))).trans (accessors_eq_of_strength _ _ hs)

theorem ofOperand (h : Level.operand.ReadsBack ts e) : accessed.ReadsBack ts e := by
  intro d n rest deep hs
  have front : primary (nested d) ⟨ts ++ rest, n + e.nodes⟩ = .ok (e, ⟨rest, n⟩) :=
    h d n rest deep hs
  rw [Level.reading]
  unfold postfixed
  rw [front]
  rfl

/-- An expression in brackets or parentheses, up to the token that closes it. -/
theorem nested_eq (h : Level.or.ReadsBack ts e) (ht : t.strength = 0) {d n : Nat}
    (hd : nesting ts ≤ d) (rest : List Token) :
    nested (d + 1) ⟨ts ++ t :: rest, n + e.nodes⟩ = .ok (e, ⟨t :: rest, n⟩) := by
  have stops : Level.or.Stops (t :: rest) := Level.stops_of_strength_zero _ ht rest
  have closes : ∀ u ∈ (t :: rest).head?, Level.or.operator? u = none := by
    intro u hu
    cases hu
    exact operator?_eq_none (by rw [ht]; decide)
  exact (h d n _ hd stops).trans (chainFrom_eq_of_none _ closes)

theorem member (hd : Derives .accessed ts e) (h : accessed.ReadsBack ts e) (name : String) :
    accessed.ReadsBack (ts ++ [.dot, .ident name]) (.member e name) := by
  intro d n rest deep _
  rw [nesting_member name hd] at deep
  have front : accessed.reading d ⟨ts ++ .dot :: .ident name :: rest, n + 1 + e.nodes⟩ =
      accessed.resume d e ⟨.dot :: .ident name :: rest, n + 1⟩ :=
    h _ _ _ deep (fun t ht => by cases ht; decide)
  have tokens : ts ++ [.dot, .ident name] ++ rest = ts ++ .dot :: .ident name :: rest := by simp
  have nodes : n + (Expr.member e name).nodes = n + 1 + e.nodes := by
    simp only [Expr.nodes]
    omega
  rw [tokens, nodes, front]
  refine accessors_fuel (s := ⟨rest, n⟩) ?_ (Nat.le_refl _)
  simp only [List.length_cons]
  omega

theorem index {key : Expr} (hd : Derives .accessed ts e) (hk : Derives .or us key)
    (h : accessed.ReadsBack ts e) (h' : Level.or.ReadsBack us key) :
    accessed.ReadsBack (ts ++ .lBracket :: (us ++ [.rBracket])) (.index e key) := by
  intro d n rest deep _
  rw [nesting_index hd hk, Nat.max_le] at deep
  obtain ⟨d, rfl⟩ : ∃ d', d = d' + 1 := ⟨d - 1, by omega⟩
  have front : accessed.reading (d + 1)
        ⟨ts ++ .lBracket :: (us ++ .rBracket :: rest), n + 1 + key.nodes + e.nodes⟩ =
      accessed.resume (d + 1) e ⟨.lBracket :: (us ++ .rBracket :: rest), n + 1 + key.nodes⟩ :=
    h _ _ _ deep.1 (fun t ht => by cases ht; decide)
  have read : nested (d + 1) ⟨us ++ .rBracket :: rest, n + 1 + key.nodes⟩ =
      .ok (key, ⟨.rBracket :: rest, n + 1⟩) :=
    h'.nested_eq rfl (by omega) rest
  have tokens : ts ++ .lBracket :: (us ++ [.rBracket]) ++ rest =
      ts ++ .lBracket :: (us ++ .rBracket :: rest) := by simp
  have nodes : n + (Expr.index e key).nodes = n + 1 + key.nodes + e.nodes := by
    simp only [Expr.nodes]
    omega
  rw [tokens, nodes, front, Level.resume]
  simp only [List.length_cons, accessors, read]
  refine accessors_fuel (s := ⟨rest, n⟩) ?_ (Nat.le_refl _)
  simp only [List.length_append, List.length_cons]
  omega

theorem group (hd : Derives .or ts e) (h : Level.or.ReadsBack ts e) :
    Level.operand.ReadsBack (.lParen :: (ts ++ [.rParen])) e := by
  intro d n rest deep _
  rw [nesting_group hd] at deep
  obtain ⟨d, rfl⟩ : ∃ d', d = d' + 1 := ⟨d - 1, by omega⟩
  have read : nested (d + 1) ⟨ts ++ .rParen :: rest, n + e.nodes⟩ =
      .ok (e, ⟨.rParen :: rest, n⟩) :=
    h.nested_eq rfl (by omega) rest
  have tokens : .lParen :: (ts ++ [.rParen]) ++ rest = .lParen :: (ts ++ .rParen :: rest) := by
    simp
  rw [tokens, Level.reading]
  simp only [primary, read]
  rfl

/-- A name by itself, as what it stands for. -/
theorem ident {name : String} (h : ofName name = e) (hn : e.nodes = 0) :
    Level.operand.ReadsBack [.ident name] e := by
  intro d n rest _ _
  rw [hn, ← h]
  rfl

end Level.ReadsBack

/-- What is derived is read back, with one lemma for each rule. -/
theorem Derives.readsBack (h : Derives L ts e) : L.ReadsBack ts e := by
  induction h with
  | orOf _ ih => exact .ofNext (.inl rfl) ih
  | andOf _ ih => exact .ofNext (.inr (.inl rfl)) ih
  | equalityOf _ ih => exact .ofNext (.inr (.inr (.inl rfl))) ih
  | orderOf _ ih => exact .ofNext (.inr (.inr (.inr rfl))) ih
  | or hl hr ihl ihr => exact .operator (.inl rfl) rfl hl hr ihl ihr
  | and hl hr ihl ihr => exact .operator (.inr (.inl rfl)) rfl hl hr ihl ihr
  | equality ht hl hr ihl ihr =>
    exact .operator (.inr (.inr (.inl rfl))) (operator?_of_mem_equalities ht) hl hr ihl ihr
  | order ht hl hr ihl ihr =>
    exact .operator (.inr (.inr (.inr rfl))) (operator?_of_mem_orders ht) hl hr ihl ihr
  | not h ih => exact .sign rfl rfl h ih fun _ _ => rfl
  | negate h ih => exact .sign rfl rfl h ih fun _ _ => rfl
  | signedOf h ih => exact .ofAccessed h ih
  | accessedOf _ ih => exact .ofOperand ih
  | member h ih => exact .member h ih _
  | index h h' ih ih' => exact .index h h' ih ih'
  | number | str | reference => exact fun _ _ _ _ _ => rfl
  | constant h => exact .ident (ofName_constant h) rfl
  | name h => exact .ident (ofName_of_not_mem h) rfl
  | group h ih => exact .group h ih

end

/-! ## All tokens -/

section
variable {L : Level} {ts : List Token} {e e' : Expr}

theorem Derives.ne_nil (h : Derives L ts e) : ts ≠ [] := by
  induction h with
  | orOf _ ih | andOf _ ih | equalityOf _ ih | orderOf _ ih | signedOf _ ih | accessedOf _ ih =>
    exact ih
  | or | and | equality | order | not | negate | member | index | number | str | constant | name
  | reference | group => simp

theorem ofTokensWithin_eq_ok_iff {d n : Nat} :
    ofTokensWithin d n ts = .ok e ↔ Derives .or ts e ∧ nesting ts ≤ d ∧ e.nodes ≤ n := by
  constructor
  · intro h
    unfold ofTokensWithin at h
    split at h
    · cases h
    · obtain ⟨⟨e₁, rest, k⟩, hr, h⟩ := bind_eq_ok.1 h
      cases rest with
      | nil =>
        cases h
        obtain ⟨us, hus, hn, hd, hw⟩ := Level.reads_of_reading (L := .or) hr
        simp only [List.append_nil] at hus hn
        subst hus
        exact ⟨hd, hw, by omega⟩
      | cons t rest => cases h
  · rintro ⟨h, hw, hn⟩
    obtain ⟨k, rfl⟩ := Nat.exists_eq_add_of_le' hn
    have read : binary (operand d) ⟨ts ++ [], k + e.nodes⟩ = .ok (e, ⟨[], k⟩) :=
      (h.readsBack _ _ _ hw (fun t ht => by cases ht)).trans
        (chainFrom_eq_of_none _ (fun t ht => by cases ht))
    rw [List.append_nil] at read
    unfold ofTokensWithin
    split
    · exact absurd rfl h.ne_nil
    · rw [read]
      rfl

/-- The grammar is unambiguous: within limits that are wide enough, the reader finds what is
derived. -/
theorem Derives.unique (h : Derives .or ts e) (h' : Derives .or ts e') : e = e' := by
  have read : ofTokensWithin (nesting ts) (max e.nodes e'.nodes) ts = .ok e :=
    ofTokensWithin_eq_ok_iff.2 ⟨h, Nat.le_refl _, Nat.le_max_left _ _⟩
  have read' : ofTokensWithin (nesting ts) (max e.nodes e'.nodes) ts = .ok e' :=
    ofTokensWithin_eq_ok_iff.2 ⟨h', Nat.le_refl _, Nat.le_max_right _ _⟩
  rw [read] at read'
  exact Except.ok.inj read'

end

/-- The reader accepts exactly what the grammar derives within the limits, and answers what it
derives. The grammar derives at most one expression, and parentheses around it add one level of
nesting and no node. -/
theorem ofTokens_iff_derives :
    (∀ ts e, ofTokens ts = .ok e ↔ Derives .or ts e ∧ nesting ts ≤ 64 ∧ e.nodes ≤ 512) ∧
    (∀ ts e e', Derives .or ts e → Derives .or ts e' → e = e') ∧
    (∀ ts e, Derives .or ts e → Derives .or (.lParen :: (ts ++ [.rParen])) e ∧
      nesting (.lParen :: (ts ++ [.rParen])) = nesting ts + 1) := by
  refine ⟨fun ts e => ofTokensWithin_eq_ok_iff, fun ts e e' => Derives.unique, ?_⟩
  intro ts e h
  exact ⟨.orOf (.andOf (.equalityOf (.orderOf (.signedOf (.accessedOf (.group h)))))),
    nesting_group h⟩

/-- `!(a.true)`: after a dot the name of a constant is a plain name. -/
theorem ofTokens_not_group_member :
    ofTokens [.not, .lParen, .ident "a", .dot, .ident "true", .rParen] =
      .ok (.not (.member (.identifier "a") "true")) := by
  have member : Derives .or [.ident "a", .dot, .ident "true"] (.member (.identifier "a") "true") :=
    .orOf (.andOf (.equalityOf (.orderOf (.signedOf
      (.member (.accessedOf (.name (by decide))))))))
  have all : Derives .or [.not, .lParen, .ident "a", .dot, .ident "true", .rParen]
      (.not (.member (.identifier "a") "true")) :=
    .orOf (.andOf (.equalityOf (.orderOf (.not (.signedOf (.accessedOf (.group member)))))))
  exact (ofTokens_iff_derives.1 _ _).2 ⟨all, by decide, by decide⟩

end PageHarvest.Expr
