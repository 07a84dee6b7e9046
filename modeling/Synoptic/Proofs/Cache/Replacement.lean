import Synoptic.Binary64.Scalar
import Synoptic.Proofs.Cache.Search

/-!
Reading back what was replaced. A replacement goes to a slot whose names match up to blanks and case,
a lookup to one whose names are equal, so another slot may be left that a lookup can come to. What
was replaced is found by every later lookup just if no such slot holds another field.
-/

namespace Synoptic.Cache

variable {α : Type}

/-- A lookup comes to a slot of the field asked for, and that slot holds `f`. -/
def Finds (c : Cache α) (d : Descriptor α) (f : Field α) : Prop :=
  ∃ i e, (c.lookup d).1 = some i ∧ (c.lookup d).2.get? i = some e ∧ e.descriptor.SameField d ∧
    e.field = f

def afterLookups (c : Cache α) (later : List (Descriptor α)) : Cache α :=
  later.foldl (fun c d => (c.lookup d).2) c

theorem slots_afterLookups (c : Cache α) (later : List (Descriptor α)) :
    (c.afterLookups later).slots = c.slots := by
  induction later generalizing c with
  | nil => rfl
  | cons d later ih => exact ih (c.lookup d).2

theorem scan?_lastHit {c : Cache α} {p : Descriptor α → Bool} {i : Nat} {e : CacheEntry α}
    (hint : c.lastHit = some i) (he : c.get? i = some e) (hp : p e.descriptor = true) :
    c.scan? p = some i := by
  have hi := lt_capacity he
  have hstart : c.start = i := by rw [start, hint]; exact if_pos hi
  obtain ⟨n, hn⟩ := Nat.exists_eq_succ_of_ne_zero (Nat.ne_zero_of_lt hi)
  have horder : c.searchOrder = i :: c.searchOrder.tail := by
    rw [searchOrder, hn, List.range_succ_eq_map, List.map_cons, hstart, Nat.add_zero, ← hn,
      Nat.mod_eq_of_lt hi]
    rfl
  rw [scan?, horder, List.find?_cons_of_pos]
  rw [he]
  exact hp

theorem matches_of_sameField {d d' : Descriptor α} (h : d.SameField d') : d.Matches d' := by
  obtain ⟨h1, h2, h3, h4, h5, h6, h7⟩ := h
  simp only [Descriptor.Matches, Descriptor.SameField, Descriptor.normalized, h1, h2, h3, h4, h5,
    h6, h7, and_self]

theorem kind_of_matches {d d' : Descriptor α} (h : d.Matches d') : d.kind = d'.kind := by
  obtain ⟨_, _, _, _, _, _, hkind⟩ := h
  exact hkind

variable [Number α]

theorem scan?_replace (c : Cache α) (d : Descriptor α) (q : Projection α) (f : Field α) :
    (c.replace d q f).2.scan? (·.SameField d) = some (c.replace d q f).1 := by
  -- The lookup that follows a replacement begins where the replacement began to search and comes to
  -- no other slot of the same field before the one that was written, since the replacement would
  -- have stopped there.
  have hget := get?_replace c d q f
  have hwritten := get?_replace_self c d q f
  cases hscan : c.scan? (·.Matches d) with
  | none =>
    apply scan?_eq_some hwritten (decide_eq_true (.refl d))
    intro j e he hsame
    rw [hget] at he
    split at he
    · assumption
    · have hmatches := matches_of_sameField (of_decide_eq_true hsame)
      exact absurd hmatches (of_decide_eq_false (scan?_eq_none_iff.mp hscan j e he))
  | some i =>
    have hi : (c.replace d q f).1 = i := by simp only [replace, hscan]
    have horder : (c.replace d q f).2.searchOrder = c.searchOrder := by
      simp only [replace, hscan, searchOrder, start, capacity, List.length_set]
      rfl
    obtain ⟨hmatch, before, after, hsplit, hbefore⟩ := List.find?_eq_some_iff_append.mp hscan
    rw [hi] at hwritten hget ⊢
    refine List.find?_eq_some_iff_append.mpr ⟨?_, before, after, horder.trans hsplit, ?_⟩
    · rw [hwritten]
      exact decide_eq_true (.refl d)
    · intro j hj
      have hfail := hbefore j hj
      have hne : j ≠ i := by
        rintro rfl
        rw [hmatch] at hfail
        cases hfail
      rw [hget, if_neg hne]
      cases he : c.get? j with
      | none => rfl
      | some e =>
        rw [he] at hfail
        dsimp only at hfail ⊢
        rw [Bool.not_eq_true', decide_eq_false_iff_not] at hfail ⊢
        exact fun hsame => hfail (matches_of_sameField hsame)

theorem get?_replace_of_kind {c : Cache α} {d : Descriptor α} {q : Projection α} {f : Field α}
    {i : Nat} {e : CacheEntry α} (he : c.get? i = some e) (hkind : e.descriptor.kind ≠ d.kind) :
    (c.replace d q f).2.get? i = some e := by
  rw [get?_replace, if_neg, he]
  rintro rfl
  rw [replace] at he
  split at he
  · rename_i j hscan
    obtain ⟨e', he', hmatches⟩ := scan?_some hscan
    cases Option.some.inj (he'.symm.trans he)
    exact hkind (kind_of_matches (of_decide_eq_true hmatches))
  · rw [get?_add_slot] at he
    cases he

theorem finds_of_get? {c c' : Cache α} {d : Descriptor α} {q : Projection α} {f : Field α}
    (hslots : c'.slots = (c.replace d q f).2.slots)
    (honly : ∀ j e, j ≠ (c.replace d q f).1 → c.get? j = some e → e.descriptor.SameField d →
      e.field = f) : c'.Finds d f := by
  have hget : ∀ j, c'.get? j =
      if j = (c.replace d q f).1 then some (.stamped d q f) else c.get? j := by
    intro j
    rw [← get?_replace, get?_congr hslots]
  have hnew := hget (c.replace d q f).1
  rw [if_pos rfl] at hnew
  obtain ⟨i, hi⟩ := exists_scan? (p := (·.SameField d)) hnew (decide_eq_true (.refl d))
  obtain ⟨e, he, hsame⟩ := scan?_some hi
  refine ⟨i, e, hi, he, of_decide_eq_true hsame, ?_⟩
  rw [hget] at he
  split at he
  · cases he
    rfl
  · rename_i hother
    exact honly i e hother he (of_decide_eq_true hsame)

/-- What was replaced is found after all later lookups, wherever the last hit stands, if and only if
no other slot of the same field holds another one. -/
theorem finds_after_replace (c : Cache α) (d : Descriptor α) (q : Projection α) (f : Field α) :
    (∀ hint later,
      ({ (c.replace d q f).2 with lastHit := hint }.afterLookups later).Finds d f) ↔
    ∀ j e, j ≠ (c.replace d q f).1 → c.get? j = some e → e.descriptor.SameField d →
      e.field = f := by
  constructor
  · intro h j e hj he hsame
    have hold : (c.replace d q f).2.get? j = some e := by rw [get?_replace, if_neg hj, he]
    obtain ⟨i, e', hi, he', _, hf⟩ := h (some j) []
    have hscan := scan?_lastHit (c := { (c.replace d q f).2 with lastHit := some j })
      (p := (·.SameField d)) rfl hold (decide_eq_true hsame)
    cases Option.some.inj (hi.symm.trans hscan)
    cases Option.some.inj (he'.symm.trans hold)
    exact hf
  · intro h hint later
    exact finds_of_get? (slots_afterLookups ..) h

namespace Variants

def descriptor (source : String) : Descriptor Float :=
  { source, element := "temp", level := "500mb", kind := .continuous }

def cache : Cache Float :=
  let c := (empty.add (descriptor "gem") .standard (.features .areas [])).2
  let c := (c.add (descriptor "GEM") .standard (.features .areas [])).2
  (c.lookup (descriptor "GEM")).2

end Variants

/-- The variant is replaced, and after a miss a lookup comes to the older field. -/
theorem finds_after_replace_ne :
    ¬ ∀ later, ((Variants.cache.replace (Variants.descriptor "gem") .standard
      (.features .curves [])).2.afterLookups later).Finds (Variants.descriptor "gem")
        (.features .curves []) := by
  intro h
  obtain ⟨i, e, hi, he, _, hf⟩ := h [Variants.descriptor "ecmwf"]
  have hslot : (((Variants.cache.replace (Variants.descriptor "gem") .standard
      (.features .curves [])).2.afterLookups [Variants.descriptor "ecmwf"]).lookup
        (Variants.descriptor "gem")).1 = some 0 := by decide +kernel
  cases Option.some.inj (hi.symm.trans hslot)
  have hold : ((((Variants.cache.replace (Variants.descriptor "gem") .standard
      (.features .curves [])).2.afterLookups [Variants.descriptor "ecmwf"]).lookup
        (Variants.descriptor "gem")).2.get? 0).map (·.field.category) =
      some (.features .areas) := by decide +kernel
  rw [he, Option.map_some, hf] at hold
  cases hold

end Synoptic.Cache
