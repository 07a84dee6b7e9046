import Mathlib.Data.List.Basic
import Mathlib.Data.List.Induction
import Mathlib.Order.Bounds.Basic
import Synoptic.Binary64.Scalar
import Synoptic.Proofs.Cache.Search

namespace Synoptic

variable {α : Type}

inductive SlotOp (α : Type)
  | lookup (d : Descriptor α)
  | add (d : Descriptor α) (projection : Projection α) (field : Field α)
  | replace (d : Descriptor α) (projection : Projection α) (field : Field α)
  | delete (d : Descriptor α)
  | clear

namespace Cache

variable {c : Cache α} {i : Nat} {e : CacheEntry α} {d : Descriptor α}

theorem size_le_capacity (c : Cache α) : c.size ≤ c.capacity := List.countP_le_length

def HintPopulated (c : Cache α) : Prop := ∀ i, c.lastHit = some i → ∃ e, c.get? i = some e

/-- Nothing is touched, or one slot, or where all of them hold fields there is one more. -/
inductive Touches (slots : List (Option (CacheEntry α))) : List (Option (CacheEntry α)) → Prop
  | nothing : Touches slots slots
  | one (i : Nat) (x : Option (CacheEntry α)) : Touches slots (slots.set i x)
  | more (e : CacheEntry α) (hfull : ∀ slot ∈ slots, slot.isSome = true) :
    Touches slots (slots ++ [some e])

namespace Touches

variable {slots slots' : List (Option (CacheEntry α))}

theorem length_eq (h : Touches slots slots') : slots.length ≤ slots'.length ∧
    (slots'.length = slots.length ∨ slots'.countP (·.isSome) = slots'.length) := by
  cases h with
  | nothing => exact ⟨Nat.le_refl _, .inl rfl⟩
  | one i x =>
    rw [List.length_set]
    exact ⟨Nat.le_refl _, .inl rfl⟩
  | more e hfull =>
    refine ⟨by simp, .inr (List.countP_eq_length.mpr fun slot hslot => ?_)⟩
    rcases List.mem_append.mp hslot with hold | hnew
    · exact hfull slot hold
    · rw [List.mem_singleton.mp hnew]
      rfl

theorem getElem?_eq (h : Touches slots slots') : ∃ i : Nat, ∀ j ≠ i, slots'[j]? = slots[j]? := by
  cases h with
  | nothing => exact ⟨0, fun _ _ => rfl⟩
  | one i x => exact ⟨i, fun j hj => List.getElem?_set_ne hj.symm⟩
  | more e _ =>
    refine ⟨slots.length, fun j hj => ?_⟩
    rcases Nat.lt_or_gt_of_ne hj with hlt | hgt
    · exact List.getElem?_append_left hlt
    · rw [List.getElem?_append_right hgt.le, List.getElem?_eq_none hgt.le,
        List.getElem?_eq_none (Nat.sub_pos_of_lt hgt)]

end Touches

theorem lookup_finds (he : c.get? i = some e) (hsame : e.descriptor.SameField d) :
    ∃ j e', (c.lookup d).1 = some j ∧ c.get? j = some e' ∧ e'.descriptor.SameField d := by
  obtain ⟨j, hj⟩ := exists_scan? (p := (·.SameField d)) he (decide_eq_true hsame)
  obtain ⟨e', he', hsame'⟩ := scan?_some hj
  exact ⟨j, e', hj, he', of_decide_eq_true hsame'⟩

theorem delete_finds (he : c.get? i = some e) (hsame : e.descriptor.SameField d) :
    (c.delete d).1 = true ∧ ∃ j e', c.get? j = some e' ∧ e'.descriptor.SameField d ∧
      (c.delete d).2.get? j = none := by
  obtain ⟨j, e', hj, he', hsame'⟩ := lookup_finds he hsame
  replace hj : c.scan? (·.SameField d) = some j := hj
  refine ⟨?_, j, e', he', hsame', ?_⟩
  · simp only [delete, hj]
  · rw [get?_delete, if_pos hj]

variable [Number α]

def perform (c : Cache α) : SlotOp α → Cache α
  | .lookup d => (c.lookup d).2
  | .add d q f => (c.add d q f).2
  | .replace d q f => (c.replace d q f).2
  | .delete d => (c.delete d).2
  | .clear => c.clear

theorem touches_add (c : Cache α) (d : Descriptor α) (q : Projection α) (f : Field α) :
    Touches c.slots (c.add d q f).2.slots := by
  rw [add]
  split
  · exact .one ..
  · rename_i hfull
    refine .more _ fun slot hslot => ?_
    simpa using List.findIdx?_eq_none_iff.mp hfull slot hslot

theorem touches_perform (c : Cache α) {op : SlotOp α} (hop : op ≠ .clear) :
    Touches c.slots (c.perform op).slots := by
  cases op with
  | lookup d => exact .nothing
  | add d q f => exact touches_add c d q f
  | replace d q f =>
    rw [perform, replace]
    split
    · exact .one ..
    · exact touches_add c d q f
  | delete d =>
    rw [perform, delete]
    split
    · exact .one ..
    · exact .nothing
  | clear => exact absurd rfl hop

theorem hintPopulated_perform (h : c.HintPopulated) (op : SlotOp α) :
    (c.perform op).HintPopulated := by
  have hadd (d : Descriptor α) (q : Projection α) (f : Field α) :
      (c.add d q f).2.lastHit = c.lastHit := by
    rw [add]
    split <;> rfl
  -- A field that was written where the hint points is a field there.
  have hwrite {c' : Cache α} {i : Nat} {e : CacheEntry α} (hhint : c'.lastHit = c.lastHit)
      (hget : ∀ j, c'.get? j = if j = i then some e else c.get? j) : c'.HintPopulated := by
    intro j hj
    rw [hhint] at hj
    rw [hget]
    split
    · exact ⟨e, rfl⟩
    · exact h j hj
  cases op with
  | lookup d =>
    intro i hi
    obtain ⟨e, he, _⟩ := scan?_some (show c.scan? (·.SameField d) = some i from hi)
    exact ⟨e, he⟩
  | add d q f => exact hwrite (hadd d q f) (get?_add c d q f)
  | replace d q f =>
    have hhint : (c.replace d q f).2.lastHit = c.lastHit := by
      rw [replace]
      split
      · rfl
      · exact hadd d q f
    exact hwrite hhint (get?_replace c d q f)
  | delete d =>
    intro i hi
    rw [perform, delete] at hi
    split at hi <;> cases hi
  | clear =>
    intro i hi
    cases hi

def afterOps (ops : List (SlotOp α)) : Cache α := ops.foldl perform empty

theorem afterOps_concat (ops : List (SlotOp α)) (op : SlotOp α) :
    afterOps (ops ++ [op]) = (afterOps ops).perform op := by
  rw [afterOps, List.foldl_concat]
  rfl

/-- So many fields were held at some time since the cache was new or last cleared. -/
def HeldSince (ops : List (SlotOp α)) (n : Nat) : Prop :=
  ∃ before later, ops = before ++ later ∧ .clear ∉ later ∧ (afterOps before).size = n

theorem heldSince_clear {ops : List (SlotOp α)} {n : Nat} :
    HeldSince (ops ++ [.clear]) n ↔ n = 0 := by
  constructor
  · rintro ⟨before, later, hsplit, hclear, rfl⟩
    rcases List.eq_nil_or_concat' later with rfl | ⟨later, op, rfl⟩
    · rw [List.append_nil] at hsplit
      rw [← hsplit, afterOps_concat]
      rfl
    · rw [← List.append_assoc] at hsplit
      obtain ⟨_, hop⟩ := List.append_inj' hsplit rfl
      cases hop
      exact absurd (List.mem_append_right _ (List.mem_singleton.mpr rfl)) hclear
  · rintro rfl
    refine ⟨ops ++ [.clear], [], (List.append_nil _).symm, List.not_mem_nil, ?_⟩
    rw [afterOps_concat]
    rfl

theorem heldSince_concat {ops : List (SlotOp α)} {op : SlotOp α} (hop : op ≠ .clear) {n : Nat} :
    HeldSince (ops ++ [op]) n ↔ HeldSince ops n ∨ n = (afterOps (ops ++ [op])).size := by
  constructor
  · rintro ⟨before, later, hsplit, hclear, rfl⟩
    rcases List.eq_nil_or_concat' later with rfl | ⟨later, op', rfl⟩
    · rw [List.append_nil] at hsplit
      exact .inr (by rw [hsplit])
    · rw [← List.append_assoc] at hsplit
      obtain ⟨hops, _⟩ := List.append_inj' hsplit rfl
      exact .inl ⟨before, later, hops, fun h => hclear (List.mem_append_left _ h), rfl⟩
  · rintro (⟨before, later, rfl, hclear, rfl⟩ | rfl)
    · refine ⟨before, later ++ [op], List.append_assoc .., ?_, rfl⟩
      intro h
      rcases List.mem_append.mp h with h | h
      · exact hclear h
      · exact hop (List.mem_singleton.mp h).symm
    · exact ⟨ops ++ [op], [], (List.append_nil _).symm, List.not_mem_nil, rfl⟩

theorem capacity_afterOps (ops : List (SlotOp α)) :
    IsGreatest {n | HeldSince ops n} (afterOps ops).capacity := by
  induction ops using List.reverseRecOn with
  | nil =>
    refine ⟨⟨[], [], rfl, List.not_mem_nil, rfl⟩, ?_⟩
    rintro n ⟨before, later, hsplit, _, rfl⟩
    obtain ⟨rfl, _⟩ := List.nil_eq_append_iff.mp hsplit
    exact Nat.le_refl 0
  | append_singleton ops op ih =>
    by_cases hop : op = .clear
    · subst hop
      have hempty : (afterOps (ops ++ [.clear])).capacity = 0 := by
        rw [afterOps_concat]
        rfl
      rw [hempty]
      exact ⟨heldSince_clear.mpr rfl, fun n hn => (heldSince_clear.mp hn).le⟩
    · have htouches := touches_perform (afterOps ops) hop
      rw [← afterOps_concat] at htouches
      obtain ⟨hgrows, hkept⟩ := htouches.length_eq
      constructor
      · apply (heldSince_concat hop).mpr
        rcases hkept with hkept | hfull
        · exact .inl (by rw [capacity, hkept]; exact ih.1)
        · exact .inr hfull.symm
      · intro n hn
        rcases (heldSince_concat hop).mp hn with hn | rfl
        · exact (ih.2 hn).trans hgrows
        · exact size_le_capacity _

theorem hintPopulated_afterOps (ops : List (SlotOp α)) : (afterOps ops).HintPopulated := by
  induction ops using List.reverseRecOn with
  | nil => exact fun i hi => nomatch hi
  | append_singleton ops op ih =>
    rw [afterOps_concat]
    exact hintPopulated_perform ih op

/-- After every history: there are as many slots as the most fields held at one time, the last hit is
at a field, a field that is held is found and deleted from wherever a search begins, what is added
goes where nothing is, and whatever is done, short of clearing, changes one slot at most. -/
theorem slots_afterOps (ops : List (SlotOp α)) :
    IsGreatest {n | HeldSince ops n} (afterOps ops).capacity ∧
    (∀ i, (afterOps ops).lastHit = some i → ∃ e, (afterOps ops).get? i = some e) ∧
    (∀ i e d hint, (afterOps ops).get? i = some e → e.descriptor.SameField d →
      (∃ j e', ({ afterOps ops with lastHit := hint }.lookup d).1 = some j ∧
        (afterOps ops).get? j = some e' ∧ e'.descriptor.SameField d) ∧
      ({ afterOps ops with lastHit := hint }.delete d).1 = true ∧
      ∃ j e', (afterOps ops).get? j = some e' ∧ e'.descriptor.SameField d ∧
        ({ afterOps ops with lastHit := hint }.delete d).2.get? j = none) ∧
    (∀ d q f i e, (afterOps ops).get? i = some e →
      ((afterOps ops).add d q f).2.get? i = some e) ∧
    ∀ op, op ≠ .clear →
      ∃ i : Nat, ∀ j ≠ i, ((afterOps ops).perform op).slots[j]? = (afterOps ops).slots[j]? := by
  refine ⟨capacity_afterOps ops, hintPopulated_afterOps ops, ?_, ?_, ?_⟩
  · intro i e d hint he hsame
    have he' : ({ afterOps ops with lastHit := hint } : Cache α).get? i = some e := he
    exact ⟨lookup_finds he' hsame, delete_finds he' hsame⟩
  · exact fun d q f i e he => get?_add_of_some he d q f
  · exact fun op hop => (touches_perform _ hop).getElem?_eq

namespace Reused

def descriptor (element : String) : Descriptor Float :=
  { source := "gem", element, level := "500mb", kind := .continuous }

def add (element : String) : SlotOp Float :=
  .add (descriptor element) .standard (.features .areas [])

def ops : List (SlotOp Float) :=
  [add "a", add "b", add "c", .delete (descriptor "b"), add "d", .lookup (descriptor "c")]

end Reused

theorem slots_afterOps_reused :
    IsGreatest {n | HeldSince Reused.ops n} 3 ∧
      (∃ e, (afterOps Reused.ops).get? 2 = some e) ∧
      (∃ j, ({ afterOps Reused.ops with lastHit := some 7 }.lookup (Reused.descriptor "d")).1 =
        some j) ∧
      ∃ i : Nat, ∀ j ≠ i, ((afterOps Reused.ops).perform (Reused.add "e")).slots[j]? =
        (afterOps Reused.ops).slots[j]? := by
  have hslots : (afterOps Reused.ops).capacity = 3 := by decide +kernel
  have hhint : (afterOps Reused.ops).lastHit = some 2 := by decide +kernel
  have hheld : ((afterOps Reused.ops).get? 1).map (·.descriptor) = some (Reused.descriptor "d") := by
    decide +kernel
  obtain ⟨hcapacity, hpopulated, hfinds, _, hone⟩ := slots_afterOps Reused.ops
  obtain ⟨e, he, hd⟩ := Option.map_eq_some_iff.mp hheld
  have hsame : e.descriptor.SameField (Reused.descriptor "d") := hd ▸ .refl _
  obtain ⟨⟨j, _, hj, _⟩, _⟩ := hfinds 1 e (Reused.descriptor "d") (some 7) he hsame
  exact ⟨hslots ▸ hcapacity, hpopulated 2 hhint, ⟨j, hj⟩, hone (Reused.add "e") nofun⟩

end Cache

end Synoptic
