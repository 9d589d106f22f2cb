import Mathlib.Data.List.Forall2
import PageHarvest.Proofs.Page.Acting

/-!
# Pages that are alike

Two pages may hold the same and yet number their elements differently, or one of them may take notes
of what it is asked. A likeness says which of their states correspond, and which handles stand for
the same in two such states.

* `Likeness.Later`: states that correspond again, in which no handle has lost its partner;
* `Act.Alike`: two actions come to the same and leave later states; there is one rule for each way
  to put actions together;
* `Page.Alike`: pages whose answers correspond;
* `Likeness.keeping`: a page is like itself as long as a property of its state lasts. What holds of
  pages that are alike thus holds of properties that a page keeps.
-/

namespace PageHarvest

structure Likeness (σ τ : Type) where
  states : σ → τ → Prop
  handles : σ → τ → Handle → Handle → Prop

variable {σ τ α β : Type}

namespace Likeness

/-- Scopes that stand for the same. -/
def scopes (L : Likeness σ τ) (s : σ) (t : τ) : Option Handle → Option Handle → Prop :=
  Option.Rel (L.handles s t)

def elements (L : Likeness σ τ) (s : σ) (t : τ) : List Handle → List Handle → Prop :=
  List.Forall₂ (L.handles s t)

/-- States after `s` and `t`. -/
structure Later (L : Likeness σ τ) (s : σ) (t : τ) (s' : σ) (t' : τ) : Prop where
  states : L.states s' t'
  handles : ∀ h h', L.handles s t h h' → L.handles s' t' h h'

variable {L : Likeness σ τ} {s s' s'' : σ} {t t' t'' : τ}

theorem Later.refl (h : L.states s t) : L.Later s t s t := ⟨h, fun _ _ h => h⟩

theorem Later.trans (first : L.Later s t s' t') (second : L.Later s' t' s'' t'') :
    L.Later s t s'' t'' :=
  ⟨second.states, fun h h' same => second.handles h h' (first.handles h h' same)⟩

theorem Later.scopes (later : L.Later s t s' t') {a b : Option Handle} (h : L.scopes s t a b) :
    L.scopes s' t' a b := by
  cases h with
  | some same => exact .some (later.handles _ _ same)
  | none => exact .none

theorem Later.elements (later : L.Later s t s' t') {hs hs' : List Handle}
    (h : L.elements s t hs hs') : L.elements s' t' hs hs' :=
  h.imp later.handles

end Likeness

/-- The same value, whatever the states. -/
def Same (_ : σ) (_ : τ) (x y : α) : Prop := x = y

/-! ## Actions -/

/-- From the states `s` and `t`, the actions come to values that correspond in the states they
leave, or to the same fault. -/
inductive Act.Alike (L : Likeness σ τ) (V : σ → τ → α → β → Prop) (a : Act σ α) (b : Act τ β)
    (s : σ) (t : τ) : Prop
  | value {x : α} {y : β} {s' : σ} {t' : τ} : a.runIn s = (.ok x, s') → b.runIn t = (.ok y, t') →
      L.Later s t s' t' → V s' t' x y → Alike L V a b s t
  | fault {f : Fault} {s' : σ} {t' : τ} : a.runIn s = (.error f, s') → b.runIn t = (.error f, t') →
      L.Later s t s' t' → Alike L V a b s t

namespace Act.Alike

variable {L : Likeness σ τ} {s : σ} {t : τ} {γ δ : Type} {V : σ → τ → α → β → Prop}
  {W : σ → τ → γ → δ → Prop} {a : Act σ α} {b : Act τ β}

theorem later (h : Alike L V a b s t) : L.Later s t (a.runIn s).2 (b.runIn t).2 := by
  cases h with
  | value ha hb later _ => rw [ha, hb]; exact later
  | fault ha hb later => rw [ha, hb]; exact later

theorem fst_eq {a : Act σ α} {b : Act τ α} (h : Alike L Same a b s t) :
    (a.runIn s).1 = (b.runIn t).1 := by
  cases h with
  | value ha hb _ same => rw [ha, hb, same]
  | fault ha hb _ => rw [ha, hb]

theorem exists_runs {a : Act σ α} {b : Act τ α} (h : Alike L Same a b s t) :
    ∃ v s' t', a.runIn s = (v, s') ∧ b.runIn t = (v, t') ∧ L.Later s t s' t' := by
  cases h with
  | value ha hb later same => exact ⟨_, _, _, ha, same ▸ hb, later⟩
  | fault ha hb later => exact ⟨_, _, _, ha, hb, later⟩

theorem of_fst_eq {a : Act σ α} {b : Act τ α} (same : (a.runIn s).1 = (b.runIn t).1)
    (later : L.Later s t (a.runIn s).2 (b.runIn t).2) : Alike L Same a b s t := by
  cases hv : (a.runIn s).1 with
  | ok x => exact .value (Prod.ext hv rfl) (Prod.ext (same ▸ hv) rfl) later rfl
  | error f => exact .fault (Prod.ext hv rfl) (Prod.ext (same ▸ hv) rfl) later

theorem pure {x : α} {y : β} (h : L.states s t) (hv : V s t x y) :
    Alike L V (Pure.pure x) (Pure.pure y) s t :=
  .value rfl rfl (.refl h) hv

theorem throw (h : L.states s t) (f : Fault) :
    Alike L V (MonadExcept.throw f) (MonadExcept.throw f) s t :=
  .fault rfl rfl (.refl h)

theorem mono {V' : σ → τ → α → β → Prop} (h : Alike L V a b s t)
    (imp : ∀ x y s' t', L.Later s t s' t' → V s' t' x y → V' s' t' x y) : Alike L V' a b s t := by
  cases h with
  | value ha hb later hv => exact .value ha hb later (imp _ _ _ _ later hv)
  | fault ha hb later => exact .fault ha hb later

theorem bind {k : α → Act σ γ} {l : β → Act τ δ} (h : Alike L V a b s t)
    (hk : ∀ x y s' t', L.Later s t s' t' → V s' t' x y → Alike L W (k x) (l y) s' t') :
    Alike L W (a >>= k) (b >>= l) s t := by
  cases h with
  | value ha hb first hv =>
    cases hk _ _ _ _ first hv with
    | value hk hl second hw =>
      exact .value ((runIn_bind_ok ha).trans hk) ((runIn_bind_ok hb).trans hl)
        (first.trans second) hw
    | fault hk hl second =>
      exact .fault ((runIn_bind_ok ha).trans hk) ((runIn_bind_ok hb).trans hl) (first.trans second)
  | fault ha hb first => exact .fault (runIn_bind_error ha) (runIn_bind_error hb) first

/-- Actions that go on alike from the same value. -/
theorem bindSame {a : Act σ α} {b : Act τ α} {k : α → Act σ γ} {l : α → Act τ δ}
    (h : Alike L Same a b s t)
    (hk : ∀ x s' t', L.Later s t s' t' → Alike L W (k x) (l x) s' t') :
    Alike L W (a >>= k) (b >>= l) s t :=
  h.bind fun x _ s' t' later same => same ▸ hk x s' t' later

/-- A function of the same value. -/
theorem mapSame {a : Act σ α} {b : Act τ α} (h : Alike L Same a b s t) (f : α → γ) :
    Alike L Same (a >>= fun x => Pure.pure (f x)) (b >>= fun x => Pure.pure (f x)) s t :=
  h.bindSame fun _ _ _ later => .pure later.states rfl

theorem tryCatch {k : Fault → Act σ α} {l : Fault → Act τ β} (h : Alike L V a b s t)
    (hk : ∀ f s' t', L.Later s t s' t' → Alike L V (k f) (l f) s' t') :
    Alike L V (MonadExcept.tryCatch a k) (MonadExcept.tryCatch b l) s t := by
  cases h with
  | value ha hb later hv =>
    refine .value ?_ ?_ later hv
    · rw [runIn_tryCatch, ha]
    · rw [runIn_tryCatch, hb]
  | @fault f s' t' ha hb first =>
    have ka : (MonadExcept.tryCatch a k).runIn s = (k f).runIn s' := by rw [runIn_tryCatch, ha]
    have kb : (MonadExcept.tryCatch b l).runIn t = (l f).runIn t' := by rw [runIn_tryCatch, hb]
    cases hk f _ _ first with
    | value hk hl second hv => exact .value (ka.trans hk) (kb.trans hl) (first.trans second) hv
    | fault hk hl second => exact .fault (ka.trans hk) (kb.trans hl) (first.trans second)

/-- Actions whose outcomes are looked at. -/
theorem lift {a : Act σ α} {b : Act τ α} (h : Alike L Same a b s t) :
    Alike L Same (ExceptT.lift a.run : Act σ (Except Fault α)) (ExceptT.lift b.run) s t := by
  obtain ⟨o, s', t', ha, hb, later⟩ := h.exists_runs
  refine .value (x := o) (y := o) ?_ ?_ later rfl
  · rw [runIn_lift, ha]
  · rw [runIn_lift, hb]

/-- Actions on items that correspond, and go on doing so. -/
theorem mapM {ι κ : Type} {U : σ → τ → ι → κ → Prop} {k : ι → Act σ α} {l : κ → Act τ α}
    (lasts : ∀ s' t' s'' t'' x y, L.Later s' t' s'' t'' → U s' t' x y → U s'' t'' x y)
    {xs : List ι} {ys : List κ} (h : L.states s t) (items : List.Forall₂ (U s t) xs ys)
    (hk : ∀ x y s' t', L.states s' t' → U s' t' x y → Alike L Same (k x) (l y) s' t') :
    Alike L Same (xs.mapM k) (ys.mapM l) s t := by
  induction xs generalizing ys s t with
  | nil =>
    cases items
    rw [List.mapM_nil, List.mapM_nil]
    exact .pure h rfl
  | cons x xs ih =>
    cases items with
    | cons item rest =>
      rw [List.mapM_cons, List.mapM_cons]
      refine (hk x _ s t h item).bindSame fun v s' t' later => ?_
      exact mapSame (ih later.states (rest.imp fun _ _ => lasts _ _ _ _ _ _ later)) _

/-- Actions on elements that stand for the same. -/
theorem mapElements {k : Handle → Act σ α} {l : Handle → Act τ α} {hs hs' : List Handle}
    (h : L.states s t) (elements : L.elements s t hs hs')
    (hk : ∀ x y s' t', L.states s' t' → L.handles s' t' x y → Alike L Same (k x) (l y) s' t') :
    Alike L Same (hs.mapM k) (hs'.mapM l) s t :=
  mapM (fun _ _ _ _ x y later => later.handles x y) h elements hk

theorem foldElements {k : γ → Handle → Act σ γ} {l : γ → Handle → Act τ γ} {hs hs' : List Handle}
    (h : L.states s t) (elements : L.elements s t hs hs')
    (hk : ∀ c x y s' t', L.states s' t' → L.handles s' t' x y →
      Alike L Same (k c x) (l c y) s' t') (c : γ) :
    Alike L Same (hs.foldlM k c) (hs'.foldlM l c) s t := by
  induction hs generalizing hs' c s t with
  | nil =>
    cases elements
    exact .pure h rfl
  | cons x hs ih =>
    cases elements with
    | cons same rest =>
      rw [List.foldlM_cons, List.foldlM_cons]
      exact (hk c x _ s t h same).bindSame fun c' s' t' later =>
        ih later.states (later.elements rest) c'

end Act.Alike

/-! ## Pages -/

/-- Pages that answer alike to all that an extraction asks. -/
structure Page.Alike (L : Likeness σ τ) (p : Page σ) (q : Page τ) : Prop where
  url : ∀ {s t}, L.states s t → Act.Alike L Same p.url q.url s t
  queryAll : ∀ {s t a b} l, L.states s t → L.scopes s t a b →
    Act.Alike L L.elements (p.queryAll a l) (q.queryAll b l) s t
  text : ∀ {s t h h'}, L.states s t → L.handles s t h h' →
    Act.Alike L Same (p.text h) (q.text h') s t
  innerHtml : ∀ {s t h h'}, L.states s t → L.handles s t h h' →
    Act.Alike L Same (p.innerHtml h) (q.innerHtml h') s t
  attributeOf : ∀ {s t h h'} name, L.states s t → L.handles s t h h' →
    Act.Alike L Same (p.attributeOf h name) (q.attributeOf h' name) s t
  inputValue : ∀ {s t h h'}, L.states s t → L.handles s t h h' →
    Act.Alike L Same (p.inputValue h) (q.inputValue h') s t
  isChecked : ∀ {s t h h'}, L.states s t → L.handles s t h h' →
    Act.Alike L Same (p.isChecked h) (q.isChecked h') s t
  metadata : ∀ {s t}, L.states s t → Act.Alike L Same p.metadata q.metadata s t
  screenshot : ∀ {s t}, L.states s t → Act.Alike L Same p.screenshot q.screenshot s t

/-- Pages whose elements have the same numbers are alike if they answer alike. -/
theorem Page.alike_of_eq {L : Likeness σ τ} (eq : ∀ s t, L.handles s t = Eq) {p : Page σ}
    {q : Page τ}
    (url : ∀ {s t}, L.states s t → Act.Alike L Same p.url q.url s t)
    (queryAll : ∀ scope l {s t}, L.states s t →
      Act.Alike L Same (p.queryAll scope l) (q.queryAll scope l) s t)
    (text : ∀ h {s t}, L.states s t → Act.Alike L Same (p.text h) (q.text h) s t)
    (innerHtml : ∀ h {s t}, L.states s t → Act.Alike L Same (p.innerHtml h) (q.innerHtml h) s t)
    (attributeOf : ∀ h name {s t}, L.states s t →
      Act.Alike L Same (p.attributeOf h name) (q.attributeOf h name) s t)
    (inputValue : ∀ h {s t}, L.states s t → Act.Alike L Same (p.inputValue h) (q.inputValue h) s t)
    (isChecked : ∀ h {s t}, L.states s t → Act.Alike L Same (p.isChecked h) (q.isChecked h) s t)
    (metadata : ∀ {s t}, L.states s t → Act.Alike L Same p.metadata q.metadata s t)
    (screenshot : ∀ {s t}, L.states s t → Act.Alike L Same p.screenshot q.screenshot s t) :
    p.Alike L q := by
  have ofHandle {α : Type} {a : Handle → Act σ α} {b : Handle → Act τ α}
      (h : ∀ x {s t}, L.states s t → Act.Alike L Same (a x) (b x) s t) {s : σ} {t : τ}
      {x y : Handle} (st : L.states s t) (xy : L.handles s t x y) :
      Act.Alike L Same (a x) (b y) s t := by
    rw [eq] at xy
    exact xy ▸ h x st
  refine ⟨url, fun {s t a b} l st scopes => ?_, ofHandle text, ofHandle innerHtml,
    fun name => ofHandle fun h => attributeOf h name, ofHandle inputValue, ofHandle isChecked,
    metadata, screenshot⟩
  obtain rfl : a = b := by
    cases scopes with
    | some same => rw [eq] at same; exact congrArg some same
    | none => rfl
  refine (queryAll a l st).mono fun hs hs' s' t' _ same => ?_
  obtain rfl : hs = hs' := same
  exact List.forall₂_same.2 fun _ _ => by rw [eq]

/-! ## Properties that last -/

/-- Equal states with a property. -/
def Likeness.keeping (I : σ → Prop) : Likeness σ σ := ⟨fun s t => s = t ∧ I s, fun _ _ => Eq⟩

/-- The property lasts, also where the action fails. -/
def Act.Keeps (I : σ → Prop) (a : Act σ α) : Prop := ∀ s, I s → I (a.runIn s).2

variable {I : σ → Prop}

theorem Act.Keeps.alike {a : Act σ α} (h : a.Keeps I) {s t : σ}
    (st : (Likeness.keeping I).states s t) : Act.Alike (.keeping I) Same a a s t := by
  obtain ⟨rfl, hs⟩ := st
  exact .of_fst_eq rfl ⟨⟨rfl, h s hs⟩, fun _ _ same => same⟩

/-- A page is like itself if the property lasts in all that an extraction asks of it. -/
theorem Page.alike_keeping {p : Page σ} (url : p.url.Keeps I)
    (queryAll : ∀ scope l, (p.queryAll scope l).Keeps I) (text : ∀ h, (p.text h).Keeps I)
    (innerHtml : ∀ h, (p.innerHtml h).Keeps I)
    (attributeOf : ∀ h name, (p.attributeOf h name).Keeps I)
    (inputValue : ∀ h, (p.inputValue h).Keeps I) (isChecked : ∀ h, (p.isChecked h).Keeps I)
    (metadata : p.metadata.Keeps I) (screenshot : p.screenshot.Keeps I) :
    p.Alike (.keeping I) p :=
  Page.alike_of_eq (fun _ _ => rfl) url.alike (fun scope l => (queryAll scope l).alike)
    (fun h => (text h).alike) (fun h => (innerHtml h).alike)
    (fun h name => (attributeOf h name).alike) (fun h => (inputValue h).alike)
    (fun h => (isChecked h).alike) metadata.alike screenshot.alike

end PageHarvest
