import Synoptic.Cache

namespace Synoptic

variable {α : Type}

namespace Descriptor.SameField

theorem refl (d : Descriptor α) : d.SameField d := ⟨rfl, rfl, rfl, rfl, rfl, rfl, rfl⟩

variable {a b c : Descriptor α}

theorem symm (h : a.SameField b) : b.SameField a := by
  obtain ⟨h1, h2, h3, h4, h5, h6, h7⟩ := h
  exact ⟨h1.symm, h2.symm, h3.symm, h4.symm, h5.symm, h6.symm, h7.symm⟩

theorem trans (h : a.SameField b) (h' : b.SameField c) : a.SameField c := by
  obtain ⟨h1, h2, h3, h4, h5, h6, h7⟩ := h
  obtain ⟨h1', h2', h3', h4', h5', h6', h7'⟩ := h'
  exact ⟨h1.trans h1', h2.trans h2', h3.trans h3', h4.trans h4', h5.trans h5', h6.trans h6',
    h7.trans h7'⟩

end Descriptor.SameField

namespace Cache

variable {c : Cache α} {p : Descriptor α → Bool} {i : Nat} {e : CacheEntry α}

theorem getElem?_of_get? (h : c.get? i = some e) : c.slots[i]? = some (some e) := by
  rw [get?] at h
  cases hi : c.slots[i]? with
  | none => rw [hi] at h; cases h
  | some slot =>
    rw [hi] at h
    cases (show slot = some e from h)
    rfl

theorem mem_of_get? (h : c.get? i = some e) : some e ∈ c.slots :=
  List.mem_of_getElem? (getElem?_of_get? h)

theorem lt_capacity (h : c.get? i = some e) : i < c.capacity :=
  (List.getElem?_eq_some_iff.mp (getElem?_of_get? h)).1

theorem start_lt (h : 0 < c.capacity) : c.start < c.capacity := by
  rw [start]
  split
  · split
    · assumption
    · exact h
  · exact h

theorem mem_searchOrder : i ∈ c.searchOrder ↔ i < c.capacity := by
  rw [searchOrder, List.mem_map]
  constructor
  · rintro ⟨k, hk, rfl⟩
    exact Nat.mod_lt _ (Nat.zero_lt_of_lt (List.mem_range.mp hk))
  · intro hi
    have hstart := start_lt (Nat.zero_lt_of_lt hi)
    by_cases h : c.start ≤ i
    · refine ⟨i - c.start, List.mem_range.mpr (by omega), ?_⟩
      rw [Nat.add_sub_cancel' h, Nat.mod_eq_of_lt hi]
    · refine ⟨i + c.capacity - c.start, List.mem_range.mpr (by omega), ?_⟩
      rw [Nat.add_sub_cancel' (by omega), Nat.add_mod_right, Nat.mod_eq_of_lt hi]

theorem scan?_some (h : c.scan? p = some i) :
    ∃ e, c.get? i = some e ∧ p e.descriptor = true := by
  have hp := List.find?_some h
  split at hp
  · rename_i e he
    exact ⟨e, he, hp⟩
  · cases hp

theorem scan?_eq_none_iff :
    c.scan? p = none ↔ ∀ i e, c.get? i = some e → p e.descriptor = false := by
  rw [scan?, List.find?_eq_none]
  constructor
  · intro h i e he
    have hi := h i (mem_searchOrder.mpr (lt_capacity he))
    rw [he] at hi
    exact eq_false_of_ne_true hi
  · intro h i _
    cases he : c.get? i with
    | none => exact Bool.false_ne_true
    | some e => exact ne_true_of_eq_false (h i e he)

theorem exists_scan? (he : c.get? i = some e) (hp : p e.descriptor = true) :
    ∃ j, c.scan? p = some j := by
  rw [← Option.isSome_iff_exists, ← Option.ne_none_iff_isSome]
  intro hnone
  rw [scan?_eq_none_iff.mp hnone i e he] at hp
  cases hp

theorem scan?_eq_some (he : c.get? i = some e) (hp : p e.descriptor = true)
    (honly : ∀ j e', c.get? j = some e' → p e'.descriptor = true → j = i) :
    c.scan? p = some i := by
  obtain ⟨j, hj⟩ := exists_scan? he hp
  obtain ⟨e', he', hp'⟩ := scan?_some hj
  rw [hj, honly j e' he' hp']

theorem get?_congr {c c' : Cache α} (h : c.slots = c'.slots) : c.get? = c'.get? := by
  funext i
  rw [get?, get?, h]

theorem get?_mk_set (slots : List (Option (CacheEntry α))) (hint : Option Nat)
    (x : Option (CacheEntry α)) (h : i < slots.length) (j : Nat) :
    (⟨slots.set i x, hint⟩ : Cache α).get? j =
      if j = i then x else (⟨slots, hint⟩ : Cache α).get? j := by
  rw [get?, get?, List.getElem?_set]
  by_cases hj : i = j
  · rw [if_pos hj, if_pos h, if_pos hj.symm]
    rfl
  · rw [if_neg hj, if_neg (Ne.symm hj)]

theorem get?_mk_append (slots : List (Option (CacheEntry α))) (hint : Option Nat)
    (x : Option (CacheEntry α)) (j : Nat) :
    (⟨slots ++ [x], hint⟩ : Cache α).get? j =
      if j = slots.length then x else (⟨slots, hint⟩ : Cache α).get? j := by
  rw [get?, get?]
  rcases Nat.lt_trichotomy j slots.length with h | rfl | h
  · rw [List.getElem?_append_left h, if_neg (Nat.ne_of_lt h)]
  · rw [List.getElem?_append_right (Nat.le_refl _), Nat.sub_self, if_pos rfl]
    rfl
  · have hnew : (slots ++ [x]).length ≤ j := by
      rw [List.length_append]
      exact h
    rw [List.getElem?_eq_none hnew, if_neg (Nat.ne_of_gt h),
      List.getElem?_eq_none (Nat.le_of_lt h)]

theorem get?_delete (c : Cache α) (d : Descriptor α) (j : Nat) :
    (c.delete d).2.get? j = if c.scan? (·.SameField d) = some j then none else c.get? j := by
  rw [delete]
  cases hscan : c.scan? (·.SameField d) with
  | none => rfl
  | some i =>
    obtain ⟨e, he, _⟩ := scan?_some hscan
    refine (get?_mk_set c.slots none none (lt_capacity he) j).trans ?_
    by_cases hj : j = i
    · rw [if_pos hj, if_pos (congrArg some hj.symm)]
    · rw [if_neg hj, if_neg fun h => hj (Option.some.inj h).symm]
      rfl

variable [Number α]

theorem get?_add_slot (c : Cache α) (d : Descriptor α) (q : Projection α) (f : Field α) :
    c.get? (c.add d q f).1 = none := by
  rw [add]
  split
  · rename_i i hi
    obtain ⟨h, hempty, _⟩ := List.findIdx?_eq_some_iff_getElem.mp hi
    rw [get?, List.getElem?_eq_getElem h, Option.isNone_iff_eq_none.mp hempty]
    rfl
  · rw [get?, capacity, List.getElem?_eq_none (Nat.le_refl _)]
    rfl

theorem get?_add (c : Cache α) (d : Descriptor α) (q : Projection α) (f : Field α) (j : Nat) :
    (c.add d q f).2.get? j =
      if j = (c.add d q f).1 then some (.stamped d q f) else c.get? j := by
  rw [add]
  split
  · rename_i i hi
    obtain ⟨h, _⟩ := List.findIdx?_eq_some_iff_getElem.mp hi
    exact get?_mk_set c.slots c.lastHit _ h j
  · exact get?_mk_append c.slots c.lastHit _ j

theorem get?_add_self (c : Cache α) (d : Descriptor α) (q : Projection α) (f : Field α) :
    (c.add d q f).2.get? (c.add d q f).1 = some (.stamped d q f) := by
  rw [get?_add, if_pos rfl]

theorem get?_add_of_some (h : c.get? i = some e) (d : Descriptor α) (q : Projection α)
    (f : Field α) : (c.add d q f).2.get? i = some e := by
  rw [get?_add, if_neg, h]
  rintro rfl
  rw [get?_add_slot] at h
  cases h

theorem added_or_get? {d : Descriptor α} {q : Projection α} {f : Field α}
    (h : (c.add d q f).2.get? i = some e) :
    (i = (c.add d q f).1 ∧ e = .stamped d q f) ∨ c.get? i = some e := by
  rw [get?_add] at h
  split at h
  · exact .inl ⟨‹_›, (Option.some.inj h).symm⟩
  · exact .inr h

/-- After a field that no slot had is added, two slots of one field held it before. -/
theorem eq_or_get?_of_add {d : Descriptor α} {q : Projection α} {f : Field α}
    (hlacks : ∀ i e, c.get? i = some e → ¬ e.descriptor.SameField d) {j : Nat}
    {e' : CacheEntry α} (he : (c.add d q f).2.get? i = some e)
    (he' : (c.add d q f).2.get? j = some e') (hsame : e.descriptor.SameField e'.descriptor) :
    i = j ∨ c.get? i = some e ∧ c.get? j = some e' := by
  rcases added_or_get? he with ⟨rfl, rfl⟩ | hold
  · rcases added_or_get? he' with ⟨rfl, _⟩ | hold'
    · exact .inl rfl
    · exact absurd hsame.symm (hlacks j e' hold')
  · rcases added_or_get? he' with ⟨_, rfl⟩ | hold'
    · exact absurd hsame (hlacks i e hold)
    · exact .inr ⟨hold, hold'⟩

theorem get?_replace (c : Cache α) (d : Descriptor α) (q : Projection α) (f : Field α) (j : Nat) :
    (c.replace d q f).2.get? j =
      if j = (c.replace d q f).1 then some (.stamped d q f) else c.get? j := by
  rw [replace]
  split
  · rename_i i hi
    obtain ⟨e, he, _⟩ := scan?_some hi
    exact get?_mk_set c.slots c.lastHit _ (lt_capacity he) j
  · exact get?_add c d q f j

theorem get?_replace_self (c : Cache α) (d : Descriptor α) (q : Projection α) (f : Field α) :
    (c.replace d q f).2.get? (c.replace d q f).1 = some (.stamped d q f) := by
  rw [get?_replace, if_pos rfl]

end Cache

end Synoptic
