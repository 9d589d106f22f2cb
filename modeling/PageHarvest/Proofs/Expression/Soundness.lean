import PageHarvest.Proofs.Expression.Grammar
import PageHarvest.Proofs.Fallible

/-!
# What is read is derived

`Level.reading d L` is the reader of a level where `d` more signs, parentheses and brackets may be
opened. `Reads L d s e s'` says what it should do: the tokens between the two states make up `e`
and open at most `d` at once, and the nodes of `e` are taken from those to spare. The lemmas
`Reads.join`, `Reads.sign`, `Reads.member`, `Reads.index` and `Reads.group` put readings together
by the rules of the grammar; `Level.reads_of_reading` says that every reader answers accordingly.
-/

namespace PageHarvest.Expr

/-- Reads what stands in parentheses and brackets, where `d` more levels may be opened. -/
def nested : Nat → Reading Expr
  | 0 => fun _ => .error .nestedTooDeeply
  | d + 1 => binary (operand d)

/-- Reads what a sign stands before. -/
def afterSign : Nat → Reading Expr
  | 0 => fun _ => .error .nestedTooDeeply
  | d + 1 => operand d

theorem operand_eq (d : Nat) : operand d = signedWith (afterSign d) (nested d) := by
  cases d <;> rfl

namespace Level

/-- The operators that join two operands at a level. -/
def operator? : Level → Token → Option (Expr → Expr → Expr)
  | or => orOperator?
  | and => andOperator?
  | equality => equalityOperator?
  | order => orderOperator?
  | signed | accessed | operand => fun _ => none

/-- The level of the right operands. -/
def next : Level → Level
  | or => and
  | and => equality
  | equality => order
  | order => signed
  | signed => accessed
  | accessed | operand => operand

/-- The levels of operators with two operands. -/
def IsBinary (L : Level) : Prop := L = or ∨ L = and ∨ L = equality ∨ L = order

/-- The reader of a level. -/
def reading (d : Nat) : Level → Reading Expr
  | or => binary (Expr.operand d)
  | and => chain andOperator? (chain equalityOperator? (chain orderOperator? (Expr.operand d)))
  | equality => chain equalityOperator? (chain orderOperator? (Expr.operand d))
  | order => chain orderOperator? (Expr.operand d)
  | signed => Expr.operand d
  | accessed => postfixed (nested d)
  | operand => primary (nested d)

theorem reading_binary {L : Level} (h : L.IsBinary) (d : Nat) :
    L.reading d = chain L.operator? (L.next.reading d) := by
  rcases h with rfl | rfl | rfl | rfl <;> rfl

end Level

/-! ## The grammar by levels -/

section
variable {L : Level} {ts us : List Token} {t : Token} {combine : Expr → Expr → Expr} {l r e : Expr}

theorem Derives.ofNext (hL : L.IsBinary) (h : Derives L.next ts e) : Derives L ts e := by
  rcases hL with rfl | rfl | rfl | rfl
  · exact .orOf h
  · exact .andOf h
  · exact .equalityOf h
  · exact .orderOf h

theorem Derives.join (ht : L.operator? t = some combine) (hl : Derives L ts l)
    (hr : Derives L.next us r) : Derives L (ts ++ t :: us) (combine l r) := by
  cases L with
  | or => cases t <;> cases ht; exact .or hl hr
  | and => cases t <;> cases ht; exact .and hl hr
  | equality => cases t <;> cases ht <;> exact .equality (by simp [equalities]) hl hr
  | order => cases t <;> cases ht <;> exact .order (by simp [orders]) hl hr
  | signed | accessed | operand => cases ht

theorem nodes_join (ht : L.operator? t = some combine) (l r : Expr) :
    (combine l r).nodes = l.nodes + r.nodes + 1 := by
  cases L <;> cases t <;> cases ht <;> rfl

theorem openAfter_operator (ht : L.operator? t = some combine) (st : List Opening) :
    openAfter st t = closeSigns st := by
  cases L <;> cases t <;> cases ht <;> rfl

end

/-! ## Soundness -/

/-- The tokens between two states make up an expression with at most `d` open at once, and its
nodes are taken from those to spare. -/
def Reads (L : Level) (d : Nat) (s : ReadState) (e : Expr) (s' : ReadState) : Prop :=
  ∃ ts, s.rest = ts ++ s'.rest ∧ s.spare = s'.spare + e.nodes ∧ Derives L ts e ∧ nesting ts ≤ d

section
variable {L : Level} {d n : Nat} {s s' s₁ : ReadState} {e l r key : Expr} {t : Token}
  {rest us : List Token} {combine : Expr → Expr → Expr}

theorem Reads.length_le (h : Reads L d s e s') : s'.rest.length ≤ s.rest.length := by
  obtain ⟨ts, hr, -, -, -⟩ := h
  rw [hr, List.length_append]
  omega

theorem Reads.ofNext (hL : L.IsBinary) (h : Reads L.next d s e s') : Reads L d s e s' := by
  obtain ⟨ts, hr, hn, hd, hw⟩ := h
  exact ⟨ts, hr, hn, hd.ofNext hL, hw⟩

theorem count_eq_ok {e' : Expr} (h : count e s = .ok (e', s')) :
    e' = e ∧ s'.rest = s.rest ∧ s.spare = s'.spare + 1 := by
  unfold count at h
  split at h
  · cases h
  · rename_i k hk
    cases h
    exact ⟨rfl, rfl, hk⟩

theorem Reads.join (ht : L.operator? t = some combine) (hl : Reads L d s l s₁)
    (hs : s₁.rest = t :: rest) (hr : Reads L.next d { s₁ with rest } r s')
    (hn : s'.spare = n + 1) : Reads L d s (combine l r) { s' with spare := n } := by
  obtain ⟨ts, hts, hln, hld, hlw⟩ := hl
  obtain ⟨us, hus, hrn, hrd, hrw⟩ := hr
  refine ⟨ts ++ t :: us, ?_, ?_, hld.join ht hrd, ?_⟩
  · simp only at hus
    simp [hts, hs, hus]
  · rw [nodes_join ht]
    simp only at hrn ⊢
    omega
  · rw [nesting_operator (openAfter_operator ht) hld hrd]
    exact Nat.max_le.2 ⟨hlw, hrw⟩

theorem reads_of_chainFrom (sound : ∀ s e s', L.next.reading d s = .ok (e, s') →
      Reads L.next d s e s') :
    ∀ {fuel : Nat} {l : Expr} {s₁ : ReadState}, Reads L d s l s₁ →
      chainFrom L.operator? (L.next.reading d) fuel l s₁ = .ok (e, s') → Reads L d s e s' := by
  intro fuel
  induction fuel with
  | zero =>
    intro l s₁ hl h
    cases h
    exact hl
  | succ fuel ih =>
    intro l s₁ hl h
    unfold chainFrom at h
    split at h
    · cases h
      exact hl
    · rename_i t rest hs
      split at h
      · cases h
        exact hl
      · rename_i combine ht
        obtain ⟨⟨r, s₂⟩, hr, h⟩ := bind_eq_ok.1 h
        obtain ⟨⟨joined, s₃⟩, hc, h⟩ := bind_eq_ok.1 h
        obtain ⟨rfl, hrest, hspare⟩ := count_eq_ok hc
        have reads := hl.join ht hs (sound _ _ _ hr) hspare
        rw [← hrest] at reads
        exact ih reads h

theorem reads_of_chain (hL : L.IsBinary) (sound : ∀ s e s', L.next.reading d s = .ok (e, s') →
      Reads L.next d s e s') (h : L.reading d s = .ok (e, s')) : Reads L d s e s' := by
  rw [Level.reading_binary hL] at h
  obtain ⟨⟨l, s₁⟩, hl, h⟩ := bind_eq_ok.1 h
  exact reads_of_chainFrom sound (.ofNext hL (sound _ _ _ hl)) h

theorem Reads.sign {op : Expr → Expr} {t : Token} (ht : openAfter [] t = [.sign])
    (hop : ∀ {ts}, Derives .signed ts e → Derives .signed (t :: ts) (op e))
    (hn : (op e).nodes = e.nodes + 1) (h : Reads .signed d ⟨rest, n⟩ e s)
    (hs : s'.rest = s.rest) (hc : s.spare = s'.spare + 1) :
    Reads .signed (d + 1) ⟨t :: rest, n⟩ (op e) s' := by
  obtain ⟨ts, hts, hsp, hd, hw⟩ := h
  simp only at hts hsp
  refine ⟨t :: ts, by simp [hts, hs], ?_, hop hd, ?_⟩
  · simp only
    omega
  · rw [nesting_sign ht hd]
    omega

theorem Reads.member {name : String} (h : Reads .accessed d s e s₁)
    (hs : s₁.rest = .dot :: .ident name :: rest) (hn : s₁.spare = n + 1) :
    Reads .accessed d s (.member e name) ⟨rest, n⟩ := by
  obtain ⟨ts, hts, hsp, hd, hw⟩ := h
  refine ⟨ts ++ [.dot, .ident name], by simp [hts, hs], ?_, .member hd, ?_⟩
  · simp only [Expr.nodes]
    omega
  · rwa [nesting_member name hd]

theorem Reads.index (h : Reads .accessed (d + 1) s e s₁) (hs : s₁.rest = .lBracket :: rest)
    (hk : Reads .or d { s₁ with rest } key s') (hs' : s'.rest = .rBracket :: us)
    (hn : s'.spare = n + 1) : Reads .accessed (d + 1) s (.index e key) ⟨us, n⟩ := by
  obtain ⟨ts, hts, hsp, hd, hw⟩ := h
  obtain ⟨ks, hks, hksp, hkd, hkw⟩ := hk
  simp only at hks hksp
  refine ⟨ts ++ .lBracket :: (ks ++ [.rBracket]), by simp [hts, hs, hks, hs'], ?_,
    .index hd hkd, ?_⟩
  · simp only [Expr.nodes]
    omega
  · rw [nesting_index hd hkd]
    exact Nat.max_le.2 ⟨hw, by omega⟩

theorem Reads.group (h : Reads .or d ⟨rest, n⟩ e s) (hs : s.rest = .rParen :: us) :
    Reads .operand (d + 1) ⟨.lParen :: rest, n⟩ e { s with rest := us } := by
  obtain ⟨ts, hts, hsp, hd, hw⟩ := h
  simp only at hts hsp
  refine ⟨.lParen :: (ts ++ [.rParen]), by simp [hts, hs], hsp, .group hd, ?_⟩
  rw [nesting_group hd]
  omega

theorem reads_of_expectRBracket {u : Unit} (h : expectRBracket s = .ok (u, s')) :
    s.rest = .rBracket :: s'.rest ∧ s'.spare = s.spare := by
  unfold expectRBracket at h
  split at h
  · rename_i hs
    cases h
    exact ⟨hs, rfl⟩
  · cases h

theorem reads_of_expectRParen {u : Unit} (h : expectRParen s = .ok (u, s')) :
    s.rest = .rParen :: s'.rest ∧ s'.spare = s.spare := by
  unfold expectRParen at h
  split at h
  · rename_i hs
    cases h
    exact ⟨hs, rfl⟩
  · cases h

end

/-- A reader that opens one more level and reads a level there. -/
def OpensTo (L : Level) (d : Nat) (r : Reading Expr) : Prop :=
  ∀ s e s', r s = .ok (e, s') → ∃ d', d = d' + 1 ∧ Reads L d' s e s'

section
variable {d : Nat} {s s' s₁ : ReadState} {e l : Expr}

theorem derives_ofName (name : String) : Derives .operand [.ident name] (ofName name) := by
  unfold ofName
  split
  · exact .constant (by simp [constants])
  · exact .constant (by simp [constants])
  · exact .constant (by simp [constants])
  · exact .constant (by simp [constants])
  · rename_i h₁ h₂ h₃ h₄
    exact .name (by simpa [constants] using ⟨h₁, h₂, h₃, h₄⟩)

theorem nodes_ofName (name : String) : (ofName name).nodes = 0 := by
  unfold ofName
  split <;> rfl

/-- An operand of one token. -/
theorem Reads.single {t : Token} {rest : List Token} (h : s.rest = t :: rest)
    (ht : openAfter [] t = []) (hd : Derives .operand [t] e) (hn : e.nodes = 0) :
    Reads .operand d s e { s with rest } := by
  refine ⟨[t], h, by simp [hn], hd, ?_⟩
  simp [nesting, nestingFrom, ht]

theorem reads_of_primary (hn : OpensTo .or d (nested d))
    (h : primary (nested d) s = .ok (e, s')) : Reads .operand d s e s' := by
  unfold primary at h
  split at h
  · rename_i f rest hs
    cases h
    exact .single hs rfl (.number f) rfl
  · rename_i text rest hs
    cases h
    exact .single hs rfl (.str text) rfl
  · rename_i path rest hs
    cases h
    exact .single hs rfl (.reference path) rfl
  · rename_i name rest hs
    cases h
    exact .single hs rfl (derives_ofName name) (nodes_ofName name)
  · rename_i rest hs
    obtain ⟨⟨e₁, s₁⟩, hi, h⟩ := bind_eq_ok.1 h
    obtain ⟨⟨u, s₂⟩, hp, h⟩ := bind_eq_ok.1 h
    cases h
    obtain ⟨d', rfl, inner⟩ := hn _ _ _ hi
    obtain ⟨hp, hsp⟩ := reads_of_expectRParen hp
    obtain ⟨ts, n⟩ := s
    obtain rfl : ts = .lParen :: rest := hs
    have reads := inner.group hp
    rwa [← hsp] at reads
  · cases h

theorem reads_of_accessors (hn : OpensTo .or d (nested d)) :
    ∀ {fuel : Nat} {l : Expr} {s₁ : ReadState}, Reads .accessed d s l s₁ →
      accessors (nested d) fuel l s₁ = .ok (e, s') → Reads .accessed d s e s' := by
  intro fuel
  induction fuel with
  | zero =>
    intro l s₁ hl h
    cases h
    exact hl
  | succ fuel ih =>
    intro l s₁ hl h
    unfold accessors at h
    split at h
    · rename_i name rest hs
      obtain ⟨⟨e₁, s₂⟩, hc, further⟩ := bind_eq_ok.1 h
      obtain ⟨rfl, hrest, hspare⟩ := count_eq_ok hc
      obtain rfl : s₂.rest = rest := hrest
      exact ih (hl.member hs hspare) further
    · cases h
    · rename_i rest hs
      obtain ⟨⟨key, s₂⟩, hk, h⟩ := bind_eq_ok.1 h
      obtain ⟨⟨u, s₃⟩, hb, h⟩ := bind_eq_ok.1 h
      obtain ⟨⟨e₁, s₄⟩, hc, h⟩ := bind_eq_ok.1 h
      obtain ⟨d', rfl, inner⟩ := hn _ _ _ hk
      obtain ⟨hb, hsp⟩ := reads_of_expectRBracket hb
      obtain ⟨rfl, hrest, hspare⟩ := count_eq_ok hc
      have reads := hl.index hs inner hb (hsp ▸ hspare)
      rw [← hrest] at reads
      exact ih reads h
    · cases h
      exact hl

theorem Reads.accessedOf (h : Reads .operand d s e s') : Reads .accessed d s e s' := by
  obtain ⟨ts, hr, hn, hd, hw⟩ := h
  exact ⟨ts, hr, hn, .accessedOf hd, hw⟩

theorem Reads.signedOf (h : Reads .accessed d s e s') : Reads .signed d s e s' := by
  obtain ⟨ts, hr, hn, hd, hw⟩ := h
  exact ⟨ts, hr, hn, .signedOf hd, hw⟩

theorem reads_of_postfixed (hn : OpensTo .or d (nested d))
    (h : postfixed (nested d) s = .ok (e, s')) : Reads .accessed d s e s' := by
  obtain ⟨⟨l, s₁⟩, hl, h⟩ := bind_eq_ok.1 h
  exact reads_of_accessors hn (reads_of_primary hn hl).accessedOf h

theorem reads_of_operand (hn : OpensTo .or d (nested d)) (ha : OpensTo .signed d (afterSign d))
    (h : operand d s = .ok (e, s')) : Reads .signed d s e s' := by
  rw [operand_eq] at h
  unfold signedWith at h
  split at h
  · rename_i rest hs
    obtain ⟨⟨l, s₁⟩, hl, hc⟩ := bind_eq_ok.1 h
    obtain ⟨rfl, hrest, hspare⟩ := count_eq_ok hc
    obtain ⟨d', rfl, inner⟩ := ha _ _ _ hl
    obtain ⟨ts, n⟩ := s
    obtain rfl : ts = .not :: rest := hs
    exact inner.sign rfl .not rfl hrest hspare
  · rename_i rest hs
    obtain ⟨⟨l, s₁⟩, hl, hc⟩ := bind_eq_ok.1 h
    obtain ⟨rfl, hrest, hspare⟩ := count_eq_ok hc
    obtain ⟨d', rfl, inner⟩ := ha _ _ _ hl
    obtain ⟨ts, n⟩ := s
    obtain rfl : ts = .minus :: rest := hs
    exact inner.sign rfl .negate rfl hrest hspare
  · exact (reads_of_postfixed hn h).signedOf

/-- The readers of operators with two operands, over a reader of their operands. -/
theorem reads_of_binary (signed : ∀ s e s', operand d s = .ok (e, s') → Reads .signed d s e s')
    {L : Level} (hL : L.IsBinary) : ∀ s e s', L.reading d s = .ok (e, s') → Reads L d s e s' := by
  have order : ∀ s e s', Level.order.reading d s = .ok (e, s') → Reads .order d s e s' :=
    fun _ _ _ => reads_of_chain (L := .order) (by simp [Level.IsBinary]) signed
  have equality : ∀ s e s', Level.equality.reading d s = .ok (e, s') → Reads .equality d s e s' :=
    fun _ _ _ => reads_of_chain (L := .equality) (by simp [Level.IsBinary]) order
  have and : ∀ s e s', Level.and.reading d s = .ok (e, s') → Reads .and d s e s' :=
    fun _ _ _ => reads_of_chain (L := .and) (by simp [Level.IsBinary]) equality
  have or : ∀ s e s', Level.or.reading d s = .ok (e, s') → Reads .or d s e s' :=
    fun _ _ _ => reads_of_chain (L := .or) (by simp [Level.IsBinary]) and
  rcases hL with rfl | rfl | rfl | rfl
  · exact or
  · exact and
  · exact equality
  · exact order

/-- Signs, parentheses and brackets are the only way down, so the readers inside them are sound by
induction on the nesting that is left. -/
theorem opensTo (d : Nat) : OpensTo .or d (nested d) ∧ OpensTo .signed d (afterSign d) := by
  induction d with
  | zero =>
    constructor
    · intro s e s' h
      cases h
    · intro s e s' h
      cases h
  | succ d ih =>
    have signed : ∀ s e s', operand d s = .ok (e, s') → Reads .signed d s e s' :=
      fun _ _ _ => reads_of_operand ih.1 ih.2
    constructor
    · intro s e s' h
      exact ⟨d, rfl, reads_of_binary signed (.inl rfl) s e s' h⟩
    · intro s e s' h
      exact ⟨d, rfl, signed s e s' h⟩

theorem Level.reads_of_reading {L : Level} (h : L.reading d s = .ok (e, s')) :
    Reads L d s e s' := by
  obtain ⟨hn, ha⟩ := opensTo d
  have signed : ∀ s e s', Expr.operand d s = .ok (e, s') → Reads .signed d s e s' :=
    fun _ _ _ => reads_of_operand hn ha
  cases L with
  | or => exact reads_of_binary signed (.inl rfl) _ _ _ h
  | and => exact reads_of_binary signed (.inr (.inl rfl)) _ _ _ h
  | equality => exact reads_of_binary signed (.inr (.inr (.inl rfl))) _ _ _ h
  | order => exact reads_of_binary signed (.inr (.inr (.inr rfl))) _ _ _ h
  | signed => exact signed _ _ _ h
  | accessed => exact reads_of_postfixed hn h
  | operand => exact reads_of_primary hn h

end

end PageHarvest.Expr
