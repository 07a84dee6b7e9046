import Synoptic.Proofs.Cache.Search

namespace Synoptic

variable {α : Type} [Number α]

theorem Field.stamp_stamp (f : Field α) (p : Projection α) : f.stamp (f.stamp p) = f.stamp p := by
  simp only [stamp]
  cases f.grid? <;> rfl

def CacheEntry.IsStamped (e : CacheEntry α) : Prop := e.field.stamp e.projection = e.projection

theorem CacheEntry.isStamped_stamped (d : Descriptor α) (p : Projection α) (f : Field α) :
    (CacheEntry.stamped d p f).IsStamped := f.stamp_stamp p

namespace Cache

/-- The caches that a new one can become. -/
inductive Reached : Cache α → Prop
  | empty : Reached .empty
  | lookup {c} (d : Descriptor α) : Reached c → Reached (c.lookup d).2
  | add {c} (d : Descriptor α) (p : Projection α) (f : Field α) : Reached c →
    Reached (c.add d p f).2
  | replace {c} (d : Descriptor α) (p : Projection α) (f : Field α) : Reached c →
    Reached (c.replace d p f).2
  | delete {c} (d : Descriptor α) : Reached c → Reached (c.delete d).2
  | clear {c} : Reached c → Reached c.clear

def Stamped (c : Cache α) : Prop := ∀ i e, c.get? i = some e → e.IsStamped

omit [Number α] in
/-- What holds of all entries holds of them after some slots were written with one of which it holds,
or emptied. -/
theorem forall_of_write {P : CacheEntry α → Prop} {c c' : Cache α}
    (h : ∀ i e, c.get? i = some e → P e) {held : Option (CacheEntry α)}
    (hheld : ∀ e, held = some e → P e) {written : Nat → Prop} [DecidablePred written]
    (hget : ∀ j, c'.get? j = if written j then held else c.get? j) :
    ∀ i e, c'.get? i = some e → P e := by
  intro i e he
  rw [hget] at he
  split at he
  · exact hheld e he
  · exact h i e he

theorem Stamped.of_write {c c' : Cache α} (h : c.Stamped) {i : Nat} {d : Descriptor α}
    {p : Projection α} {f : Field α}
    (hget : ∀ j, c'.get? j = if j = i then some (.stamped d p f) else c.get? j) : c'.Stamped :=
  forall_of_write h (by rintro _ ⟨⟩; exact CacheEntry.isStamped_stamped d p f) hget

theorem Reached.stamped {c : Cache α} (h : c.Reached) : c.Stamped := by
  induction h with
  | empty => exact fun _ _ he => nomatch he
  | lookup d _ ih => exact ih
  | add d p f _ ih => exact ih.of_write (get?_add _ d p f)
  | replace d p f _ ih => exact ih.of_write (get?_replace _ d p f)
  | delete d _ ih => exact forall_of_write ih (by rintro _ ⟨⟩) (get?_delete _ d)
  | clear => exact fun _ _ he => nomatch he

end Cache

end Synoptic
