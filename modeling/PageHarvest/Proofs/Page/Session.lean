import Mathlib.Data.List.Induction
import PageHarvest.Proofs.Page.Operation

/-!
# Sessions on a site

A session asks a site one thing after the other, in any order. It keeps a record of the handles that
it was given, each with the load of the document and the place of the element that it was given for.

* `Kept`: what holds of the record at any time, by one step (`Kept.next`) and in a run (`kept_run`);
* `Sound`: handles keep their elements until the next load, are equal only for the same element of
  the same load, and are of no use after it; what fails changes nothing.
-/

namespace PageHarvest

open Html

namespace Site

/-- A handle that was given for the element at a place, in some load of a document. -/
structure Grant where
  load : Nat
  document : Document
  place : Place
  handle : Handle

/-- A site with the number of its loads and the handles that it gave so far. -/
structure Session where
  site : Site
  loads : Nat
  grants : List Grant

namespace Session

/-- The session on a site before anything was asked. -/
def on (s : Site) : Session := ⟨s, 0, []⟩

/-- The session after an operation. -/
def next (x : Session) (o : Operation) : Session :=
  match o.act.runIn x.site with
  | (.ok answer, site) =>
    ⟨site, if o.isNavigation then x.loads + 1 else x.loads,
      x.grants ++ List.zipWith (Grant.mk x.loads x.site.document) (o.found x.site)
        (o.handles answer)⟩
  | (.error _, site) => { x with site }

theorem next_of_ok {x : Session} {o : Operation} {answer : o.Answer} {t : Site}
    (ran : o.act.runIn x.site = (.ok answer, t)) :
    x.next o =
      ⟨t, if o.isNavigation then x.loads + 1 else x.loads,
        x.grants ++ List.zipWith (Grant.mk x.loads x.site.document) (o.found x.site)
          (o.handles answer)⟩ := by
  rw [next, ran]

def run (x : Session) (ops : List Operation) : Session := ops.foldl next x

theorem run_concat (x : Session) (ops : List Operation) (o : Operation) :
    x.run (ops ++ [o]) = (x.run ops).next o :=
  List.foldl_concat ..

/-! ## The record of a session -/

/-- What holds of a session at any time. -/
structure Kept (x : Session) : Prop where
  orderly : x.site.Orderly
  generation : x.site.generation = x.loads % 2 ^ 32
  /-- The handles of the current load are in the registry. -/
  current : ∀ g ∈ x.grants, g.load = x.loads →
    g.document = x.site.document ∧ x.site.placeOf g.handle = .ok g.place
  given : ∀ g ∈ x.grants,
    g.load ≤ x.loads ∧ g.handle.generation = g.load % 2 ^ 32 ∧ g.handle.index < 2 ^ 32
  apart : ∀ g ∈ x.grants, ∀ g' ∈ x.grants, g.load = g'.load →
    (g.handle.index = g'.handle.index ↔ g.place = g'.place)

variable {x : Session} {t : Site}

theorem kept_on {s : Site} (none : s.registered = []) (first : s.generation = 0) :
    (on s).Kept where
  orderly := ⟨by simp [on, none], by simp [on, none]⟩
  generation := first
  current := nofun
  given := nofun
  apart := nofun

theorem mem_newGrants {R : Handle → Place → Prop} {load : Nat} {d : Document} {hs : List Handle}
    {ps : List Place} (pairs : List.Forall₂ R hs ps) {g : Grant}
    (hg : g ∈ List.zipWith (Grant.mk load d) ps hs) :
    g.load = load ∧ g.document = d ∧ R g.handle g.place := by
  induction pairs with
  | nil => cases hg
  | cons related _ ih =>
    rcases List.mem_cons.1 hg with rfl | hg
    · exact ⟨rfl, rfl, related⟩
    · exact ih hg

theorem Kept.fails (kept : x.Kept) (same : x.site.Undisturbed t) : { x with site := t }.Kept where
  orderly := same.orderly kept.orderly
  generation := same.generation.trans kept.generation
  current g hg now := by
    rw [same.document, same.placeOf]
    exact kept.current g hg now
  given := kept.given
  apart := kept.apart

theorem Kept.loads (kept : x.Kept) (loaded : x.site.Loads t) :
    Kept ⟨t, x.loads + 1, x.grants⟩ where
  orderly := ⟨by simp [loaded.registered], by simp [loaded.registered]⟩
  generation := by
    rw [loaded.generation, kept.generation, Nat.mod_add_mod]
  current g hg now := by
    have before : g.load ≤ x.loads := (kept.given g hg).1
    exact absurd (now : g.load = x.loads + 1) (Nat.ne_of_lt (Nat.lt_succ_of_le before))
  given g hg := ⟨Nat.le_succ_of_le (kept.given g hg).1, (kept.given g hg).2⟩
  apart := kept.apart

theorem Kept.stays (kept : x.Kept) (grows : x.site.Grows t) (orderly : t.Orderly)
    (small : t.document.places.length < 2 ^ 32) {new : List Grant}
    (fresh : ∀ g ∈ new,
      g.load = x.loads ∧ g.document = x.site.document ∧ t.placeOf g.handle = .ok g.place) :
    Kept ⟨t, x.loads, x.grants ++ new⟩ := by
  have generation : t.generation = x.loads % 2 ^ 32 := grows.generation.trans kept.generation
  have current : ∀ g ∈ x.grants ++ new, g.load = x.loads →
      g.document = t.document ∧ t.placeOf g.handle = .ok g.place := by
    intro g hg now
    rw [grows.document]
    rcases List.mem_append.1 hg with hg | hg
    · exact (kept.current g hg now).imp_right grows.placeOf
    · exact (fresh g hg).2
  refine ⟨orderly, generation, current, ?_, ?_⟩
  · intro g hg
    rcases List.mem_append.1 hg with hg | hg
    · exact kept.given g hg
    · obtain ⟨now, _, known⟩ := fresh g hg
      obtain ⟨hgeneration, hp⟩ := placeOf_eq_ok.1 known
      obtain ⟨lt, _⟩ := List.getElem?_eq_some_iff.1 hp
      have index : g.handle.index < 2 ^ 32 :=
        calc g.handle.index < t.registered.length := lt
          _ ≤ t.document.places.length := orderly.length_le
          _ < 2 ^ 32 := small
      refine ⟨Nat.le_of_eq now, ?_, index⟩
      rw [hgeneration, generation, now]
  · intro g hg g' hg' same
    -- two handles of the current load are both in the registry, others were apart before
    by_cases now : g.load = x.loads
    · exact orderly.index_eq_iff (current g hg now).2 (current g' hg' (same.symm.trans now)).2
    · have old {g : Grant} (hg : g ∈ x.grants ++ new) (before : g.load ≠ x.loads) :
          g ∈ x.grants :=
        (List.mem_append.1 hg).resolve_right fun hg => before (fresh g hg).1
      exact kept.apart g (old hg now) g' (old hg' (same ▸ now)) same

theorem Kept.next (kept : x.Kept) (o : Operation)
    (small : (x.next o).site.document.places.length < 2 ^ 32) : (x.next o).Kept := by
  have step := o.step kept.orderly
  unfold Session.next at small ⊢
  generalize o.act.runIn x.site = outcome at step small ⊢
  cases step with
  | fails same => exact kept.fails same
  | loads navigates none loaded =>
    dsimp only
    rw [if_pos navigates, none, List.zipWith_nil_right, List.append_nil]
    exact kept.loads loaded
  | stays stayed grows orderly known =>
    dsimp only at small ⊢
    rw [if_neg (by simp [stayed])]
    exact kept.stays grows orderly small fun g hg => mem_newGrants known hg

theorem kept_run {s : Site} (none : s.registered = []) (first : s.generation = 0)
    (ops : List Operation)
    (small : ∀ before, before <+: ops →
      ((on s).run before).site.document.places.length < 2 ^ 32) :
    ((on s).run ops).Kept := by
  induction ops using List.reverseRecOn with
  | nil => exact kept_on none first
  | append_singleton ops o ih =>
    rw [run_concat]
    refine (ih fun before h => small before (h.trans (List.prefix_append _ _))).next o ?_
    rw [← run_concat]
    exact small _ List.prefix_rfl

/-! ## What handles are good for -/

/-- What a session can rely on. -/
structure Sound (x : Session) : Prop where
  /-- A handle can be written as one number. -/
  packed : ∀ g ∈ x.grants, Handle.ofNat g.handle.toNat = g.handle
  /-- A handle of the current load stands for the element that it was given for. -/
  keeps : ∀ g ∈ x.grants, g.load = x.loads →
    x.site.document = g.document ∧
      ∃ e, g.document.element? g.place = some e ∧ x.site.element g.handle = .ok (g.place, e)
  /-- Two handles are equal only for the same element of the same load. -/
  distinct : ∀ g ∈ x.grants, ∀ g' ∈ x.grants,
    (g.handle.toNat = g'.handle.toNat ↔ g.load = g'.load ∧ g.place = g'.place)
  /-- A handle of an earlier load is of no use. -/
  stale : ∀ g ∈ x.grants, g.load ≠ x.loads → ∀ o : Operation, o.Needs g.handle →
    o.act.runIn x.site = (.error Operation.staleFault, x.site)
  /-- What fails changes nothing. -/
  undisturbed : ∀ (o : Operation) f t, o.act.runIn x.site = (.error f, t) → x.site.Undisturbed t
  /-- Every handle that is given is on record. -/
  recorded : ∀ (o : Operation) answer t, o.act.runIn x.site = (.ok answer, t) →
    ∃ new, (x.next o).grants = x.grants ++ new ∧ new.map Grant.handle = o.handles answer

theorem toNat_eq_iff {h h' : Handle} (small : h.index < 2 ^ 32) (small' : h'.index < 2 ^ 32) :
    h.toNat = h'.toNat ↔ h.generation = h'.generation ∧ h.index = h'.index := by
  have pow : Nat.pow 2 32 = 4294967296 := rfl
  rw [Handle.toNat, Handle.toNat, pow]
  omega

theorem ofNat_toNat {h : Handle} (first : h.generation < 2 ^ 32) (small : h.index < 2 ^ 32) :
    Handle.ofNat h.toNat = h := by
  obtain ⟨generation, index⟩ := h
  have pow : Nat.pow 2 32 = 4294967296 := rfl
  rw [Handle.toNat, Handle.ofNat, pow]
  dsimp only at first small ⊢
  congr 1 <;> omega

theorem map_handle_zipWith (load : Nat) (d : Document) {R : Handle → Place → Prop}
    {hs : List Handle} {ps : List Place} (pairs : List.Forall₂ R hs ps) :
    (List.zipWith (Grant.mk load d) ps hs).map Grant.handle = hs := by
  induction pairs with
  | nil => rfl
  | cons _ _ ih => exact congrArg _ ih

theorem Kept.recorded (kept : x.Kept) {o : Operation} {answer : o.Answer}
    (ran : o.act.runIn x.site = (.ok answer, t)) :
    ∃ new, (x.next o).grants = x.grants ++ new ∧ new.map Grant.handle = o.handles answer := by
  have step := o.step kept.orderly
  rw [ran] at step
  rw [next_of_ok ran]
  refine ⟨_, rfl, ?_⟩
  cases step with
  | loads _ none => rw [none, List.zipWith_nil_right, List.map_nil]
  | stays _ _ _ known => exact map_handle_zipWith _ _ known

theorem Kept.sound (kept : x.Kept) (few : x.loads < 2 ^ 32) : x.Sound := by
  -- so few loads that each has a generation of its own
  have generation {g : Grant} (hg : g ∈ x.grants) : g.handle.generation = g.load := by
    obtain ⟨le, hgeneration, _⟩ := kept.given g hg
    rw [hgeneration, Nat.mod_eq_of_lt (Nat.lt_of_le_of_lt le few)]
  have index {g : Grant} (hg : g ∈ x.grants) : g.handle.index < 2 ^ 32 := (kept.given g hg).2.2
  constructor
  · intro g hg
    refine ofNat_toNat ?_ (index hg)
    rw [generation hg]
    exact Nat.lt_of_le_of_lt (kept.given g hg).1 few
  · intro g hg now
    obtain ⟨same, known⟩ := kept.current g hg now
    exact ⟨same.symm, same ▸ kept.orderly.element known⟩
  · intro g hg g' hg'
    rw [toNat_eq_iff (index hg) (index hg'), generation hg, generation hg']
    exact and_congr_right fun same => kept.apart g hg g' hg' same
  · intro g hg before o needs
    refine Operation.runIn_of_stale ?_ needs
    rwa [generation hg, kept.generation, Nat.mod_eq_of_lt few]
  · intro o f t failed
    have step := o.step kept.orderly
    rw [failed] at step
    cases step with
    | fails same => exact same
  · intro o answer t ran
    exact kept.recorded ran

theorem of_start {url : String} {pages : List (String × String)} {s : Site}
    (started : Site.start url pages = .ok s) : s.registered = [] ∧ s.generation = 0 := by
  unfold Site.start at started
  obtain ⟨sources, _, started⟩ := bind_eq_ok.1 started
  obtain ⟨u, _, started⟩ := bind_eq_ok.1 started
  cases known : sources.get? (key u) with
  | none =>
    rw [known] at started
    cases started
  | some source =>
    rw [known] at started
    cases started
    exact ⟨rfl, rfl⟩

/-- Whatever is asked of a site, in any order, if it loads fewer than `2 ^ 32` documents after the
first one and none of them has `2 ^ 32` elements: a handle keeps its element up to the next load and
is of no use after it, handles are equal only for the same element of the same load, and what fails
changes neither the document nor the registry. -/
theorem sound_of_start {url : String} {pages : List (String × String)} {s : Site}
    (started : Site.start url pages = .ok s) (ops : List Operation)
    (few : ((on s).run ops).loads < 2 ^ 32)
    (small : ∀ before, before <+: ops →
      ((on s).run before).site.document.places.length < 2 ^ 32) :
    ((on s).run ops).Sound := by
  obtain ⟨none, first⟩ := of_start started
  exact (kept_run none first ops small).sound few

/-- A site of two pages, of which the first one has a link to the second. -/
def twoPages : List (String × String) :=
  [("about:a", "<a href=about:b>b</a>"), ("about:b", "")]

def firstOfTwo : Site where
  sources := twoPages
  url := ⟨"about", none, "a", none, none⟩
  document := .parse "<a href=about:b>b</a>"
  registered := []
  generation := 0
  waited := 0
  isBroken := false

theorem findPlaces_firstOfTwo : firstOfTwo.findPlaces none (.css "a") = .ok [[0, 1, 0]] := by
  have places : firstOfTwo.document.places = [[0], [0, 0], [1, 0], [0, 1, 0]] := by
    rw [Document.places_of_pairwise (by decide +kernel)]
    decide +kernel
  have reads : (Css.Selector.read? "a").isSome := by decide +kernel
  rw [findPlaces_eq (l := .css "a") rfl (Option.some_get reads).symm none]
  dsimp only
  rw [Css.Selector.select, places]
  revert reads
  decide +kernel

/-- The link is found, clicked, and then read with the handle that it had. -/
def findAndFollow : List Operation :=
  [.query none (.css "a"), .click ⟨0, 0⟩, .read .text ⟨0, 0⟩]

def foundLink : Session :=
  ⟨{ firstOfTwo with registered := [[0, 1, 0]] }, 0,
    [⟨0, firstOfTwo.document, [0, 1, 0], ⟨0, 0⟩⟩]⟩

theorem next_foundLink : (on firstOfTwo).next (.query none (.css "a")) = foundLink := by
  have all : (Site.page.queryAll none (.css "a")).runIn firstOfTwo =
      (.ok [⟨0, 0⟩], { firstOfTwo with registered := [[0, 1, 0]] }) :=
    query_runIn_ok findPlaces_firstOfTwo
  have first : (Operation.query none (.css "a")).act.runIn firstOfTwo =
      (.ok (some ⟨0, 0⟩), { firstOfTwo with registered := [[0, 1, 0]] }) :=
    Act.runIn_bind_ok all
  rw [next_of_ok (x := on firstOfTwo) first]
  dsimp only [Operation.found, on]
  rw [findPlaces_firstOfTwo]
  rfl

theorem sound_of_start_clicked :
    ∃ s x, Site.start "about:a" twoPages = .ok s ∧ x = (on s).run findAndFollow ∧
      x.loads = 1 ∧ x.grants.map (fun g => (g.load, g.handle)) = [(0, ⟨0, 0⟩)] ∧
      (Operation.click ⟨0, 0⟩).act.runIn x.site = (.error Operation.staleFault, x.site) := by
  have started : Site.start "about:a" twoPages = .ok firstOfTwo := rfl
  have run (rest : List Operation) :
      (on firstOfTwo).run (.query none (.css "a") :: rest) = foundLink.run rest :=
    congrArg (fun x => x.run rest) next_foundLink
  have loads : ((on firstOfTwo).run findAndFollow).loads = 1 := by
    rw [findAndFollow, run]
    decide +kernel
  have grants : ((on firstOfTwo).run findAndFollow).grants.map (fun g => (g.load, g.handle)) =
      [(0, ⟨0, 0⟩)] := by
    rw [findAndFollow, run]
    decide +kernel
  have small : ∀ before, before <+: findAndFollow →
      ((on firstOfTwo).run before).site.document.places.length < 2 ^ 32 := by
    intro before isPrefix
    simp only [findAndFollow, List.prefix_cons_iff, List.prefix_nil] at isPrefix
    rw [Document.length_places]
    rcases isPrefix with rfl | ⟨_, rfl, rfl | ⟨_, rfl, rfl | ⟨_, rfl, rfl⟩⟩⟩
    · decide +kernel
    all_goals
      rw [run]
      decide +kernel
  have sound := sound_of_start started findAndFollow (by rw [loads]; decide) small
  refine ⟨firstOfTwo, _, started, rfl, loads, grants, ?_⟩
  obtain ⟨g, hg, same⟩ : ∃ g ∈ ((on firstOfTwo).run findAndFollow).grants,
      (g.load, g.handle) = (0, ⟨0, 0⟩) := by
    refine List.mem_map.1 ?_
    rw [grants]
    exact List.mem_singleton_self _
  obtain ⟨first, handle⟩ := Prod.mk.inj same
  refine sound.stale g hg ?_ _ handle.symm
  rw [first, loads]
  exact Nat.zero_ne_one

end Session

end Site

end PageHarvest
