import Mathlib.Data.List.Find
import Synoptic.Proofs.Cache.Search

namespace Synoptic.Cache

variable {α : Type}

theorem searchOrder_eq (c : Cache α) :
    c.searchOrder = List.range' c.start (c.capacity - c.start) ++ List.range c.start := by
  rcases Nat.eq_zero_or_pos c.capacity with hempty | hpos
  · have hstart : c.start = 0 := by
      rw [start]
      split
      · exact if_neg (by omega)
      · rfl
    rw [searchOrder, hstart, hempty]
    rfl
  · have hlt := start_lt hpos
    obtain ⟨n, hn⟩ := Nat.exists_eq_add_of_lt hlt
    have hsplit : c.capacity = (c.capacity - c.start) + c.start := by omega
    have hrange : List.range c.capacity =
        List.range (c.capacity - c.start) ++ (List.range c.start).map (c.capacity - c.start + ·) := by
      rw [← List.range_add, ← hsplit]
    rw [searchOrder, hrange, List.map_append, List.map_map, List.range'_eq_map_range]
    congr 1
    · apply List.map_congr_left
      intro k hk
      rw [List.mem_range] at hk
      exact Nat.mod_eq_of_lt (by omega)
    · refine (List.map_congr_left fun k hk => ?_).trans (List.map_id _)
      rw [List.mem_range] at hk
      have hsum : c.start + (c.capacity - c.start + k) = k + c.capacity := by omega
      change (c.start + (c.capacity - c.start + k)) % c.capacity = k
      rw [hsum, Nat.add_mod_right, Nat.mod_eq_of_lt (by omega)]

theorem scan?_congr {c c' : Cache α} (hslots : c.slots = c'.slots) (hstart : c.start = c'.start)
    (p : Descriptor α → Bool) : c.scan? p = c'.scan? p := by
  have hcapacity : c.capacity = c'.capacity := congrArg List.length hslots
  rw [scan?, scan?, searchOrder, searchOrder, hstart, hcapacity, get?_congr hslots]

variable {slots : List (Option (CacheEntry α))} {more : List (CacheEntry α)} {hint : Option Nat}
  {p : Descriptor α → Bool}

theorem get?_append_left {i : Nat} (h : i < slots.length) :
    (⟨slots ++ more.map some, hint⟩ : Cache α).get? i = (⟨slots, hint⟩ : Cache α).get? i := by
  rw [get?, get?, List.getElem?_append_left h]

theorem mem_of_get?_append {i : Nat} {e : CacheEntry α} (h : slots.length ≤ i)
    (he : (⟨slots ++ more.map some, hint⟩ : Cache α).get? i = some e) : e ∈ more := by
  have hslot := getElem?_of_get? he
  rw [List.getElem?_append_right h] at hslot
  simpa using List.mem_of_getElem? hslot

theorem filter_range' {s k n : Nat} (h : n ≤ s + k) :
    (List.range' s k).filter (· < n) = List.range' s (n - s) := by
  have hsplit : List.range' s k =
      List.range' s (n - s) ++ List.range' (s + (n - s)) (k - (n - s)) := by
    rw [List.range'_append_1]
    congr 1
    omega
  have hbelow : (List.range' s (n - s)).filter (· < n) = List.range' s (n - s) := by
    rw [List.filter_eq_self]
    intro i hi
    rw [List.mem_range'_1] at hi
    exact decide_eq_true (by omega)
  have habove : (List.range' (s + (n - s)) (k - (n - s))).filter (· < n) = [] := by
    rw [List.filter_eq_nil_iff]
    intro i hi
    rw [List.mem_range'_1] at hi
    simp only [decide_eq_true_eq, not_lt]
    omega
  rw [hsplit, List.filter_append, hbelow, habove, List.append_nil]

theorem searchOrder_append :
    (⟨slots ++ more.map some, hint⟩ : Cache α).searchOrder.filter (· < slots.length) =
      (⟨slots, hint⟩ : Cache α).searchOrder := by
  have hlong : (⟨slots ++ more.map some, hint⟩ : Cache α).capacity =
      slots.length + more.length := by simp [capacity]
  have hshort : (⟨slots, hint⟩ : Cache α).capacity = slots.length := rfl
  rw [searchOrder_eq, searchOrder_eq, List.filter_append, List.range_eq_range', hlong, hshort,
    List.range_eq_range']
  have hstart : (⟨slots, hint⟩ : Cache α).start =
      if (⟨slots ++ more.map some, hint⟩ : Cache α).start < slots.length then
        (⟨slots ++ more.map some, hint⟩ : Cache α).start else 0 := by
    cases hint with
    | none => exact (ite_self 0).symm
    | some i =>
      simp only [start, hlong, hshort]
      split_ifs <;> omega
  generalize (⟨slots ++ more.map some, hint⟩ : Cache α).start = s at hstart ⊢
  rw [hstart]
  by_cases hs : s < slots.length
  · have hold : (List.range' 0 s).filter (· < slots.length) = List.range' 0 s := by
      rw [List.filter_eq_self]
      intro i hi
      rw [List.mem_range'_1] at hi
      exact decide_eq_true (by omega)
    rw [if_pos hs, hold, filter_range' (by omega)]
  · rw [if_neg hs, filter_range' (by omega), filter_range' (by omega),
      Nat.sub_eq_zero_of_le (Nat.le_of_not_lt hs)]
    simp

theorem scan?_append (h : ∀ e ∈ more, p e.descriptor = false) :
    (⟨slots ++ more.map some, hint⟩ : Cache α).scan? p = (⟨slots, hint⟩ : Cache α).scan? p := by
  have horder : (⟨slots, hint⟩ : Cache α).searchOrder =
      (⟨slots ++ more.map some, hint⟩ : Cache α).searchOrder.filter (· < slots.length) :=
    searchOrder_append.symm
  rw [scan?, scan?, horder, List.find?_filter]
  apply List.find?_congr
  intro i _
  by_cases hi : i < slots.length
  · simp [get?_append_left hi, hi]
  · simp only [hi, decide_false, Bool.false_eq_true, false_and]
    split
    · rename_i e he
      exact h e (mem_of_get?_append (Nat.le_of_not_lt hi) he)
    · rfl

section Storing

variable [Number α] {c : Cache α} (hfull : none ∉ c.slots) (d : Descriptor α) (q : Projection α)
  (f : Field α)

include hfull

theorem add_of_full :
    c.add d q f = (c.capacity, { c with slots := c.slots ++ [some (.stamped d q f)] }) := by
  have hnone : c.slots.findIdx? (·.isNone) = none := by
    rw [List.findIdx?_eq_none_iff]
    intro slot hslot
    cases slot with
    | none => exact absurd hslot hfull
    | some e => rfl
  rw [add, hnone]

theorem full_add : none ∉ (c.add d q f).2.slots := by
  rw [add_of_full hfull]
  simpa using hfull

theorem full_replace : none ∉ (c.replace d q f).2.slots := by
  rw [replace]
  split
  · intro hmem
    rcases List.mem_or_eq_of_mem_set hmem with hold | hnew
    · exact hfull hold
    · cases hnew
  · exact full_add hfull d q f

end Storing

end Synoptic.Cache
