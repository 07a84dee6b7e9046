import Synoptic.Binary64.Scalar
import Synoptic.Proofs.Cache.Search

/-!
A cache as a registry of fields. As long as a field is added only when a lookup has just missed it,
no two slots are of the same field, and lookups and deletions answer as a table from fields to what
was stored under them, wherever a search begins.
-/

namespace Synoptic

variable {α : Type}

/-- What a reader does that stores what it did not find. -/
inductive CacheOp (α : Type)
  | lookup (d : Descriptor α)
  | add (d : Descriptor α) (projection : Projection α) (field : Field α)
  | delete (d : Descriptor α)
  | clear

def Registry (α : Type) := Descriptor α → Option (Projection α × Field α)

namespace Registry

def empty : Registry α := fun _ => none

def insert (m : Registry α) (d : Descriptor α) (q : Projection α) (f : Field α) : Registry α :=
  fun d' => if d.SameField d' then some (q, f) else m d'

def erase (m : Registry α) (d : Descriptor α) : Registry α :=
  fun d' => if d.SameField d' then none else m d'

def step (m : Registry α) : CacheOp α → Registry α
  | .lookup _ => m
  | .add d q f => m.insert d q f
  | .delete d => m.erase d
  | .clear => empty

def run (ops : List (CacheOp α)) : Registry α := ops.foldl step empty

theorem run_append (ops later : List (CacheOp α)) :
    run (ops ++ later) = later.foldl step (run ops) := List.foldl_append

end Registry

namespace Cache

variable {c : Cache α} {m : Registry α} {d : Descriptor α} {q : Projection α} {f : Field α}

/-- Each field of the registry is in one slot, and no other field is in any. -/
structure Represents [Number α] (c : Cache α) (m : Registry α) : Prop where
  unique : ∀ i j e e', c.get? i = some e → c.get? j = some e' →
    e.descriptor.SameField e'.descriptor → i = j
  stored : ∀ d q f, m d = some (q, f) →
    ∃ i e, c.get? i = some e ∧ e.descriptor.SameField d ∧ e.projection = f.stamp q ∧ e.field = f
  absent : ∀ d i e, m d = none → c.get? i = some e → ¬ e.descriptor.SameField d

variable [Number α]

theorem represents_empty : Represents (α := α) .empty .empty where
  unique i j e e' he := by cases he
  stored d q f h := by cases h
  absent d i e _ he := by cases he

namespace Represents

theorem of_slots {c' : Cache α} (h : c.Represents m) (hslots : c'.slots = c.slots) :
    c'.Represents m := by
  have hget := get?_congr hslots
  exact ⟨hget ▸ h.unique, hget ▸ h.stored, hget ▸ h.absent⟩

theorem add (h : c.Represents m) (hmiss : c.scan? (·.SameField d) = none) :
    (c.add d q f).2.Represents (m.insert d q f) := by
  -- Adding needs a miss, or the same field would be there twice.
  have hother : ∀ i e, c.get? i = some e → ¬ e.descriptor.SameField d := fun i e he =>
    of_decide_eq_false (scan?_eq_none_iff.mp hmiss i e he)
  constructor
  case unique =>
    intro i j e e' he he' hsame
    rcases eq_or_get?_of_add hother he he' hsame with hij | ⟨hold, hold'⟩
    · exact hij
    · exact h.unique i j e e' hold hold' hsame
  case stored =>
    intro d' q' f' hd'
    rw [Registry.insert] at hd'
    split at hd'
    · rename_i hsame
      cases hd'
      exact ⟨(c.add d q f).1, .stamped d q f, get?_add_self c d q f, hsame, rfl, rfl⟩
    · obtain ⟨i, e, he, hi⟩ := h.stored d' q' f' hd'
      exact ⟨i, e, get?_add_of_some he d q f, hi⟩
  case absent =>
    intro d' i e hd' he
    rw [Registry.insert] at hd'
    split at hd'
    · cases hd'
    · rename_i hne
      rcases added_or_get? he with ⟨_, rfl⟩ | hold
      · exact hne
      · exact h.absent d' i e hd' hold

theorem delete (h : c.Represents m) : (c.delete d).2.Represents (m.erase d) := by
  have hsub : ∀ {i e}, (c.delete d).2.get? i = some e → c.get? i = some e := by
    intro i e he
    rw [get?_delete] at he
    split at he
    · cases he
    · exact he
  constructor
  case unique => exact fun i j e e' he he' => h.unique i j e e' (hsub he) (hsub he')
  case stored =>
    intro d' q f hd'
    rw [Registry.erase] at hd'
    split at hd'
    · cases hd'
    · rename_i hne
      obtain ⟨i, e, he, hsame, hi⟩ := h.stored d' q f hd'
      refine ⟨i, e, ?_, hsame, hi⟩
      rw [get?_delete, if_neg, he]
      intro hscan
      obtain ⟨e', he', hd⟩ := scan?_some hscan
      cases Option.some.inj (he'.symm.trans he)
      exact hne ((of_decide_eq_true hd).symm.trans hsame)
  case absent =>
    intro d' i e hd' he hsame
    rw [Registry.erase] at hd'
    split at hd'
    · -- The slot matches what was deleted, so it is the one that was emptied.
      rename_i hdel
      have hmatch : e.descriptor.SameField d := hsame.trans hdel.symm
      have hscan := scan?_eq_some (p := (·.SameField d)) (hsub he) (decide_eq_true hmatch)
        fun j e' he' hd =>
          h.unique j i e' e he' (hsub he) ((of_decide_eq_true hd).trans hmatch.symm)
      rw [get?_delete, if_pos hscan] at he
      cases he
    · exact h.absent d' i e hd' (hsub he) hsame

theorem scan?_stored (h : c.Represents m) (hd : m d = some (q, f)) :
    ∃ i e, c.get? i = some e ∧ e.descriptor.SameField d ∧ e.projection = f.stamp q ∧
      e.field = f ∧
      ∀ hint, ({ c with lastHit := hint } : Cache α).scan? (·.SameField d) = some i := by
  obtain ⟨i, e, he, hsame, hq, hf⟩ := h.stored d q f hd
  refine ⟨i, e, he, hsame, hq, hf, fun hint => ?_⟩
  refine scan?_eq_some he (decide_eq_true hsame) fun j e' he' hd' => ?_
  exact h.unique j i e' e he' he ((of_decide_eq_true hd').trans hsame.symm)

theorem scan?_absent (h : c.Represents m) (hd : m d = none) (hint : Option Nat) :
    ({ c with lastHit := hint } : Cache α).scan? (·.SameField d) = none :=
  scan?_eq_none_iff.mpr fun i e he => decide_eq_false (h.absent d i e hd he)

theorem scan?_hint (h : c.Represents m) (d : Descriptor α) (hint : Option Nat) :
    ({ c with lastHit := hint } : Cache α).scan? (·.SameField d) = c.scan? (·.SameField d) := by
  cases hd : m d with
  | none => rw [h.scan?_absent hd hint, ← h.scan?_absent hd c.lastHit]
  | some x =>
    obtain ⟨i, e, _, _, _, _, hscan⟩ := h.scan?_stored hd
    rw [hscan hint, ← hscan c.lastHit]

theorem isSome_scan? (h : c.Represents m) (d : Descriptor α) :
    (c.scan? (·.SameField d)).isSome = (m d).isSome := by
  cases hd : m d with
  | none => rw [show c.scan? (·.SameField d) = none from h.scan?_absent hd c.lastHit]; rfl
  | some x =>
    obtain ⟨i, e, _, _, _, _, hscan⟩ := h.scan?_stored hd
    rw [show c.scan? (·.SameField d) = some i from hscan c.lastHit]
    rfl

end Represents

def step (c : Cache α) : CacheOp α → Cache α
  | .lookup d => (c.lookup d).2
  | .add d q f => (c.add d q f).2
  | .delete d => (c.delete d).2
  | .clear => c.clear

def run (ops : List (CacheOp α)) : Cache α := ops.foldl step empty

theorem run_append (ops later : List (CacheOp α)) :
    run (ops ++ later) = later.foldl step (run ops) := List.foldl_append

/-- A field is added only right after a lookup of it that found nothing. -/
inductive Orderly : List (CacheOp α) → Prop
  | nil : Orderly []
  | lookup {ops} (d : Descriptor α) : Orderly ops → Orderly (ops ++ [.lookup d])
  | add (ops) (d : Descriptor α) (q : Projection α) (f : Field α) : Orderly ops →
    ((run ops).lookup d).1 = none → Orderly (ops ++ [.lookup d, .add d q f])
  | delete {ops} (d : Descriptor α) : Orderly ops → Orderly (ops ++ [.delete d])
  | clear {ops} : Orderly ops → Orderly (ops ++ [.clear])

theorem represents_run {ops : List (CacheOp α)} (h : Orderly ops) :
    (run ops).Represents (.run ops) := by
  induction h with
  | nil => exact represents_empty
  | lookup d _ ih =>
    rw [run_append, Registry.run_append]
    exact ih.of_slots rfl
  | add ops d q f _ hmiss ih =>
    rw [run_append, Registry.run_append]
    have hlookup : ((run ops).lookup d).2.Represents (.run ops) := ih.of_slots rfl
    -- The miss was told before the lookup cleared the last hit.
    exact hlookup.add ((ih.scan?_hint d _).trans hmiss)
  | delete d _ ih =>
    rw [run_append, Registry.run_append]
    exact ih.delete
  | clear _ ih =>
    rw [run_append, Registry.run_append]
    exact represents_empty

structure Implements (c : Cache α) (m : Registry α) : Prop where
  unique : ∀ i j e e', c.get? i = some e → c.get? j = some e' →
    e.descriptor.SameField e'.descriptor → i = j
  lookup_stored : ∀ d q f, m d = some (q, f) → ∃ i e, (c.lookup d).1 = some i ∧
    (c.lookup d).2.get? i = some e ∧ e.descriptor.SameField d ∧ e.projection = f.stamp q ∧
      e.field = f
  lookup_absent : ∀ d, m d = none → (c.lookup d).1 = none
  delete_answer : ∀ d, (c.delete d).1 = (m d).isSome
  delete_lookup : ∀ d, ((c.delete d).2.lookup d).1 = none
  lookup_hint : ∀ hint d, (({ c with lastHit := hint } : Cache α).lookup d).1 = (c.lookup d).1
  delete_hint : ∀ hint d, ({ c with lastHit := hint } : Cache α).delete d = c.delete d
  add_hint : ∀ hint d q f,
    (({ c with lastHit := hint } : Cache α).add d q f).1 = (c.add d q f).1

theorem Represents.lookup_absent (h : c.Represents m) (hd : m d = none) :
    (c.lookup d).1 = none := h.scan?_absent hd c.lastHit

theorem Represents.delete_answer (h : c.Represents m) (d : Descriptor α) :
    (c.delete d).1 = (m d).isSome := by
  rw [← h.isSome_scan? d, Cache.delete]
  cases c.scan? (·.SameField d) <;> rfl

theorem Represents.delete_hint (h : c.Represents m) (d : Descriptor α) (hint : Option Nat) :
    ({ c with lastHit := hint } : Cache α).delete d = c.delete d := by
  rw [Cache.delete, Cache.delete, h.scan?_hint]

theorem add_hint (c : Cache α) (d : Descriptor α) (q : Projection α) (f : Field α)
    (hint : Option Nat) :
    (({ c with lastHit := hint } : Cache α).add d q f).1 = (c.add d q f).1 := by
  rw [add, add]
  cases c.slots.findIdx? (·.isNone) <;> rfl

/-- Whatever was done, a cache answers as the registry of what was done does. -/
theorem run_implements {ops : List (CacheOp α)} (h : Orderly ops) :
    (run ops).Implements (.run ops) := by
  have hrep := represents_run h
  exact {
    unique := hrep.unique
    lookup_stored := fun d q f hd => by
      obtain ⟨i, e, he, hsame, hq, hf, hscan⟩ := hrep.scan?_stored hd
      exact ⟨i, e, hscan _, he, hsame, hq, hf⟩
    lookup_absent := fun d hd => hrep.lookup_absent hd
    delete_answer := hrep.delete_answer
    delete_lookup := fun d => hrep.delete.lookup_absent (if_pos (.refl d))
    lookup_hint := fun hint d => hrep.scan?_hint d hint
    delete_hint := fun hint d => hrep.delete_hint d hint
    add_hint := fun hint d q f => add_hint _ d q f hint }

namespace Reuse

def descriptor (element : String) : Descriptor Float :=
  { source := "gem", element, level := "500mb", kind := .continuous }

def surface : Spline Float := ⟨4, 4, .replicate 16 0, .origin, 0, 10, .standard⟩

def ops : List (CacheOp Float) :=
  [.lookup (descriptor "temp"), .add (descriptor "temp") .standard (.features .areas []),
    .lookup (descriptor "dewpt"), .add (descriptor "dewpt") .standard (.features .areas []),
    .delete (descriptor "temp"), .lookup (descriptor "dewpt"),
    .lookup (descriptor "wind"), .add (descriptor "wind") .standard (.surface [surface])]

theorem orderly : Orderly ops :=
  .add (ops.take 6) _ _ _
    (.lookup _ (.delete _
      (.add (ops.take 2) _ _ _ (.add [] _ _ _ .nil (by decide +kernel))
        (by decide +kernel))))
    (by decide +kernel)

end Reuse

theorem run_implements_reuse :
    Orderly Reuse.ops ∧ (run Reuse.ops).Implements (.run Reuse.ops) ∧
      ((run Reuse.ops).lookup (Reuse.descriptor "temp")).1 = none ∧
      ((run Reuse.ops).lookup (Reuse.descriptor "wind")).1 = some 0 := by
  have h := run_implements Reuse.orderly
  exact ⟨Reuse.orderly, h, h.lookup_absent _ (by decide +kernel), by decide +kernel⟩

/-- A surface was added without a grid and is stored with the one of its nodes. -/
theorem projection_ne_added :
    ¬ ∀ (ops : List (CacheOp Float)) d q f, Orderly ops → Registry.run ops d = some (q, f) →
      ∃ i e, ((run ops).lookup d).1 = some i ∧ ((run ops).lookup d).2.get? i = some e ∧
        e.projection = q ∧ e.field = f := by
  intro h
  obtain ⟨i, e, hi, he, hq, _⟩ := h Reuse.ops (Reuse.descriptor "wind") .standard
    (.surface [Reuse.surface]) Reuse.orderly rfl
  have hslot : ((run Reuse.ops).lookup (Reuse.descriptor "wind")).1 = some 0 := by
    decide +kernel
  cases Option.some.inj (hi.symm.trans hslot)
  have hgrid : (((run Reuse.ops).lookup (Reuse.descriptor "wind")).2.get? 0).map
      (·.projection.grid.isSome) = some true := by decide +kernel
  rw [he, Option.map_some, hq] at hgrid
  cases hgrid

end Cache

end Synoptic
