import Mathlib.Data.List.Induction
import PageHarvest.Data.Entries

/-!
# Keys and values of entries

A map that is filled from a list has the names of the list in the order in which they first stand
there, and for each of them the last value.
-/

namespace PageHarvest.Entries

variable {α β : Type}

theorem keys_insert (es : Entries α) (key : String) (value : α) :
    (es.insert key value).keys = if key ∈ es.keys then es.keys else es.keys ++ [key] := by
  induction es with
  | nil => simp [insert, keys]
  | cons e rest ih =>
    obtain ⟨k, v⟩ := e
    by_cases own : k = key
    · subst own
      simp [insert, keys]
    · have rest_keys :
          (insert key value ((k, v) :: rest)).keys = k :: (insert key value rest).keys := by
        rw [insert, if_neg own]
        rfl
      have other : key ∈ keys ((k, v) :: rest) ↔ key ∈ keys rest := by
        simp [keys, Ne.symm own]
      rw [rest_keys, ih]
      by_cases seen : key ∈ keys rest
      · rw [if_pos seen, if_pos (other.2 seen)]
        rfl
      · rw [if_neg seen, if_neg (fun h => seen (other.1 h))]
        rfl

theorem nodup_keys_insert {es : Entries α} (distinct : es.keys.Nodup) (key : String) (value : α) :
    (es.insert key value).keys.Nodup := by
  rw [keys_insert]
  split
  · exact distinct
  · rename_i new
    refine List.nodup_append.2 ⟨distinct, by simp, fun k hk k' hk' same => ?_⟩
    rw [List.mem_singleton.1 hk'] at same
    exact new (same ▸ hk)

theorem nodup_keys_overwrite {es : Entries α} (distinct : es.keys.Nodup) (news : Entries α) :
    (es.overwrite news).keys.Nodup := by
  induction news generalizing es with
  | nil => exact distinct
  | cons e rest ih => exact ih (nodup_keys_insert distinct e.1 e.2)

theorem nodup_keys_ofList (es : List (String × α)) : (ofList es).keys.Nodup :=
  @nodup_keys_overwrite α [] List.nodup_nil es

theorem get?_eq_none {name : String} {es : Entries α} (new : name ∉ es.keys) :
    es.get? name = none := by
  induction es with
  | nil => rfl
  | cons e rest ih =>
    obtain ⟨k, v⟩ := e
    obtain ⟨other, further⟩ : name ≠ k ∧ name ∉ keys rest := by simpa [keys] using new
    rw [get?, if_neg (Ne.symm other), ih further]

/-- An entry that is set wins over the one that was there. -/
theorem get?_overwrite {news : Entries α} (distinct : news.keys.Nodup) (name : String)
    (es : Entries α) :
    (es.overwrite news).get? name = (news.get? name).orElse fun _ => es.get? name := by
  induction news generalizing es with
  | nil => rfl
  | cons e rest ih =>
    obtain ⟨k, v⟩ := e
    obtain ⟨new, distinct⟩ : k ∉ keys rest ∧ (keys rest).Nodup := List.nodup_cons.1 distinct
    have first : es.overwrite ((k, v) :: rest) = (es.insert k v).overwrite rest := rfl
    rw [first, ih distinct, get?_insert, get?]
    by_cases own : k = name
    · subst own
      rw [get?_eq_none new, if_pos rfl, if_pos rfl]
      rfl
    · rw [if_neg own, if_neg own]

theorem get?_overwrite_of_not_mem {news : Entries α} {name : String} (other : name ∉ news.keys)
    (es : Entries α) : (es.overwrite news).get? name = es.get? name := by
  induction news generalizing es with
  | nil => rfl
  | cons e rest ih =>
    obtain ⟨ne, further⟩ : name ≠ e.1 ∧ name ∉ keys rest := by simpa [keys] using other
    show ((es.insert e.1 e.2).overwrite rest).get? name = es.get? name
    rw [ih further, get?_insert, if_neg (Ne.symm ne)]

theorem insert_insert (name : String) (a b : α) (es : Entries α) :
    (es.insert name a).insert name b = es.insert name b := by
  induction es with
  | nil => simp [insert]
  | cons e rest ih =>
    obtain ⟨k, v⟩ := e
    by_cases own : k = name
    · simp [insert, own]
    · simp [insert, own, ih]

theorem ofList_concat (es : List (String × α)) (e : String × α) :
    ofList (es ++ [e]) = (ofList es).insert e.1 e.2 := by
  simp [ofList, overwrite]

theorem mem_of_mem_insert {es : Entries α} {key : String} {value : α} {e : String × α}
    (he : e ∈ es.insert key value) : e = (key, value) ∨ e ∈ es := by
  induction es with
  | nil => exact .inl (List.mem_singleton.1 he)
  | cons e' rest ih =>
    obtain ⟨k, v⟩ := e'
    rw [insert] at he
    split at he
    · rcases List.mem_cons.1 he with rfl | he
      · rename_i own
        exact .inl (by rw [own])
      · exact .inr (List.mem_cons_of_mem _ he)
    · rcases List.mem_cons.1 he with rfl | he
      · exact .inr List.mem_cons_self
      · exact (ih he).imp_right (List.mem_cons_of_mem _)

theorem mem_of_mem_ofList {es : List (String × α)} {e : String × α} (he : e ∈ ofList es) :
    e ∈ es := by
  induction es using List.reverseRecOn with
  | nil => cases he
  | append_singleton es e' ih =>
    rw [ofList_concat] at he
    rcases mem_of_mem_insert he with rfl | he
    · simp
    · exact List.mem_append_left _ (ih he)

theorem mem_of_get? {es : Entries α} {name : String} {value : α}
    (found : es.get? name = some value) : (name, value) ∈ es := by
  induction es with
  | nil => cases found
  | cons e rest ih =>
    obtain ⟨k, v⟩ := e
    rw [get?] at found
    split at found
    · rename_i own
      cases found
      rw [own]
      exact List.mem_cons_self
    · exact List.mem_cons_of_mem _ (ih found)

theorem get?_of_mem {es : Entries α} (distinct : es.keys.Nodup) {name : String} {value : α}
    (he : (name, value) ∈ es) : es.get? name = some value := by
  induction es with
  | nil => cases he
  | cons e rest ih =>
    obtain ⟨k, v⟩ := e
    obtain ⟨new, distinct⟩ : k ∉ keys rest ∧ (keys rest).Nodup := List.nodup_cons.1 distinct
    rw [get?]
    rcases List.mem_cons.1 he with same | he
    · cases same
      rw [if_pos rfl]
    · have other : k ≠ name := fun same => new (same ▸ List.mem_map_of_mem he)
      rw [if_neg other, ih distinct he]

theorem insert_of_not_mem {es : Entries α} {key : String} (new : key ∉ es.keys) (value : α) :
    es.insert key value = es ++ [(key, value)] := by
  induction es with
  | nil => rfl
  | cons e rest ih =>
    obtain ⟨k, v⟩ := e
    obtain ⟨other, further⟩ : key ≠ k ∧ key ∉ keys rest := by simpa [keys] using new
    rw [insert, if_neg (Ne.symm other), ih further]
    rfl

/-- A map that is filled from a list without repeated names is that list. -/
theorem ofList_of_nodup {es : List (String × α)} (distinct : (es.map Prod.fst).Nodup) :
    ofList es = es := by
  induction es using List.reverseRecOn with
  | nil => rfl
  | append_singleton es e ih =>
    rw [List.map_append, List.nodup_append] at distinct
    obtain ⟨front, _, apart⟩ := distinct
    have new : e.1 ∉ keys es := fun h => apart e.1 h e.1 (List.mem_singleton_self _) rfl
    rw [ofList_concat, ih front, insert_of_not_mem new]

/-- A name that is set joins the names that were set before. -/
theorem keys_insert_eraseDups {es : Entries α} {names : List String}
    (keys : es.keys = names.eraseDups) (key : String) (value : α) :
    (es.insert key value).keys = (names ++ [key]).eraseDups := by
  have known : key ∈ names.eraseDups ↔ key ∈ names := List.mem_eraseDups
  rw [keys_insert, keys, List.eraseDups_append]
  by_cases seen : key ∈ names
  · rw [if_pos (known.2 seen)]
    simp [List.removeAll, seen]
  · rw [if_neg (fun h => seen (known.1 h))]
    simp [List.removeAll, seen, List.eraseDups_cons]

theorem keys_ofList (es : List (String × α)) :
    (ofList es).keys = (es.map Prod.fst).eraseDups := by
  induction es using List.reverseRecOn with
  | nil => rfl
  | append_singleton es e ih =>
    rw [ofList_concat, keys_insert_eraseDups ih, List.map_append, List.map_singleton]

theorem get?_ofList (name : String) (es : List (String × α)) :
    (ofList es).get? name = (es.reverse.find? fun e => e.1 == name).map Prod.snd := by
  induction es using List.reverseRecOn with
  | nil => rfl
  | append_singleton es e ih =>
    rw [ofList_concat, get?_insert, ih, List.reverse_concat]
    by_cases own : e.1 = name
    · rw [if_pos own, List.find?_cons_of_pos (by simp [own])]
      rfl
    · rw [if_neg own, List.find?_cons_of_neg (by simp [own])]

/-- The last entry of a name counts. -/
theorem get?_ofList_of_last {es : List (String × α)} {i : Nat} {e : String × α}
    (here : es[i]? = some e) (last : ∀ j e', i < j → es[j]? = some e' → e'.1 ≠ e.1) :
    (ofList es).get? e.1 = some e.2 := by
  induction es using List.reverseRecOn with
  | nil => cases here
  | append_singleton es x ih =>
    rw [ofList_concat, get?_insert]
    rcases Nat.lt_or_ge i es.length with inside | atEnd
    · have other : x.1 ≠ e.1 := last es.length x inside (by simp)
      rw [if_neg other]
      rw [List.getElem?_append_left inside] at here
      refine ih here fun j e' after there => last j e' after ?_
      rw [List.getElem?_append_left (List.getElem?_eq_some_iff.1 there).1, there]
    · rw [List.getElem?_append_right atEnd, List.getElem?_singleton] at here
      split at here
      · cases here
        rw [if_pos rfl]
      · cases here

theorem get?_eq_find? (name : String) (es : Entries α) :
    es.get? name = (es.find? fun e => e.1 == name).map Prod.snd := by
  induction es with
  | nil => rfl
  | cons e rest ih =>
    obtain ⟨k, v⟩ := e
    rw [get?, ih]
    by_cases own : k = name <;> simp [own]

/-- A name that stands in a list once at most has the value that it has there. -/
theorem get?_ofList_of_once {name : String} {es : List (String × α)}
    (once : (es.filter fun e => e.1 == name).length ≤ 1) :
    (ofList es).get? name = Entries.get? name es := by
  have reversed {l : List (String × α)} (short : l.length ≤ 1) : l.reverse = l := by
    match l, short with
    | [], _ | [_], _ => rfl
  rw [get?_ofList, get?_eq_find?, ← List.head?_filter, ← List.head?_filter, List.filter_reverse,
    reversed once]

/-! ## Other values for the same keys -/

theorem get?_map (name : String) (f : α → β) (es : Entries α) :
    Entries.get? name (es.map fun e => (e.1, f e.2)) = (es.get? name).map f := by
  induction es with
  | nil => rfl
  | cons e rest ih =>
    rw [List.map_cons, get?, get?, ih]
    split <;> rfl

/-- How often a name stands there. -/
theorem length_filter_map (name : String) (f : α → β) (es : Entries α) :
    ((es.map fun e => (e.1, f e.2)).filter fun e => e.1 == name).length =
      (es.filter fun e => e.1 == name).length := by
  rw [List.filter_map, List.length_map]
  rfl

/-! ## Leaving keys out -/

theorem filter_insert (keep : String → Bool) (es : Entries α) (key : String) (value : α) :
    (es.insert key value).filter (fun e => keep e.1) =
      if keep key then Entries.insert key value (es.filter fun e => keep e.1)
      else es.filter fun e => keep e.1 := by
  induction es with
  | nil => cases kept : keep key <;> simp [insert, kept]
  | cons e rest ih =>
    obtain ⟨k, v⟩ := e
    by_cases own : k = key
    · subst own
      cases kept : keep k <;> simp [insert, kept]
    · rw [insert, if_neg own, List.filter_cons, List.filter_cons, ih]
      cases kept : keep k <;> cases keep key <;> simp [insert, own]

/-- Keys can be left out before a map is filled, or after. -/
theorem ofList_filter (keep : String → Bool) (es : List (String × α)) :
    ofList (es.filter fun e => keep e.1) = (ofList es).filter fun e => keep e.1 := by
  induction es using List.reverseRecOn with
  | nil => rfl
  | append_singleton es e ih =>
    rw [ofList_concat, filter_insert, List.filter_append, ← ih]
    cases kept : keep e.1
    · simp [kept]
    · have last : [e].filter (fun e => keep e.1) = [e] := List.filter_cons_of_pos kept
      rw [last, ofList_concat, if_pos rfl]

/-! ## Setting keys that are there -/

theorem mem_keys_insert_self (es : Entries α) (key : String) (value : α) :
    key ∈ (es.insert key value).keys := by
  rw [keys_insert]
  split
  · assumption
  · simp

/-- A key that has its place can be set before or after any other. -/
theorem insert_comm {es : Entries α} {key other : String} (known : key ∈ es.keys)
    (ne : key ≠ other) (a b : α) :
    (es.insert other b).insert key a = (es.insert key a).insert other b := by
  induction es with
  | nil => cases known
  | cons e rest ih =>
    obtain ⟨k, v⟩ := e
    by_cases own : k = key
    · subst own
      simp [insert, ne]
    · have further : key ∈ keys rest := by simpa [keys, Ne.symm own] using known
      by_cases at_other : k = other
      · simp [insert, at_other, Ne.symm ne]
      · simp [insert, at_other, own, ih further]

theorem insert_overwrite {es news : Entries α} {key : String} (known : key ∈ es.keys)
    (apart : key ∉ news.keys) (value : α) :
    (es.overwrite news).insert key value = (es.insert key value).overwrite news := by
  induction news generalizing es with
  | nil => rfl
  | cons e rest ih =>
    obtain ⟨k, v⟩ := e
    obtain ⟨ne, apart⟩ : key ≠ k ∧ key ∉ keys rest := by simpa [keys] using apart
    have still : key ∈ (es.insert k v).keys := by
      rw [keys_insert]
      split
      · exact known
      · exact List.mem_append_left _ known
    show ((es.insert k v).overwrite rest).insert key value =
      ((es.insert key value).insert k v).overwrite rest
    rw [ih still apart, insert_comm known ne]

/-- Of two lists with the same keys the one that is set last counts. -/
theorem overwrite_overwrite {es news lasts : Entries α} (distinct : news.keys.Nodup)
    (same : lasts.keys = news.keys) :
    (es.overwrite news).overwrite lasts = es.overwrite lasts := by
  induction news generalizing es lasts with
  | nil => rfl
  | cons e rest ih =>
    obtain ⟨k, v⟩ := e
    obtain ⟨apart, further⟩ := List.nodup_cons.1 distinct
    cases lasts with
    | nil => cases same
    | cons e' rest' =>
      obtain ⟨k', w⟩ := e'
      obtain ⟨rfl, rest_same⟩ : k' = k ∧ keys rest' = keys rest := List.cons.inj same
      show (((es.insert k' v).overwrite rest).insert k' w).overwrite rest' =
        (es.insert k' w).overwrite rest'
      rw [insert_overwrite (mem_keys_insert_self ..) apart, insert_insert,
        ih further rest_same]

end PageHarvest.Entries
