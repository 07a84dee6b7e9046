import Synoptic.Proofs.Cache.Extension
import Synoptic.Proofs.Footprint
import Synoptic.Proofs.Queries.Keeping

namespace Synoptic

variable {α : Type} {t : ComponentTable}

theorem Database.declaredVector?_congr {d d' : Descriptor α} (h : d.SameField d') :
    declaredVector? t d = declaredVector? t d' := by
  obtain ⟨_, _, _, _, helement, _, hkind⟩ := h
  rw [declaredVector?, declaredVector?, helement, hkind]

namespace Cache

structure Tidy (t : ComponentTable) (c : Cache α) : Prop where
  full : none ∉ c.slots
  unique : ∀ i j e e', c.get? i = some e → c.get? j = some e' →
    e.descriptor.SameField e'.descriptor → Database.declaredVector? t e.descriptor = none → i = j

theorem Tidy.empty : (Cache.empty : Cache α).Tidy t where
  full := List.not_mem_nil
  unique _ _ _ _ he := nomatch he

theorem Tidy.congr {c c' : Cache α} (h : c.Tidy t) (hslots : c'.slots = c.slots) : c'.Tidy t where
  full := hslots ▸ h.full
  unique := get?_congr hslots ▸ h.unique

variable [Number α]

theorem Tidy.add {c : Cache α} (h : c.Tidy t) {d : Descriptor α}
    (hmiss : c.scan? (·.SameField d) = none) (q : Projection α) (f : Field α) :
    (c.add d q f).2.Tidy t where
  full := full_add h.full d q f
  unique := by
    have hnone : ∀ i e, c.get? i = some e → ¬ e.descriptor.SameField d := fun i e he =>
      of_decide_eq_false (scan?_eq_none_iff.mp hmiss i e he)
    intro i j e e' he he' hsame hd
    rcases eq_or_get?_of_add hnone he he' hsame with hij | ⟨hold, hold'⟩
    · exact hij
    · exact h.unique i j e e' hold hold' hsame hd

theorem Tidy.replace {c : Cache α} (h : c.Tidy t) {d : Descriptor α}
    (hd : Database.declaredVector? t d ≠ none) (q : Projection α) (f : Field α) :
    (c.replace d q f).2.Tidy t where
  full := full_replace h.full d q f
  unique := by
    intro i j e e' he he' hsame hplain
    rw [get?_replace] at he he'
    split at he
    · cases he
      exact absurd hplain hd
    · split at he'
      · cases he'
        exact absurd ((Database.declaredVector?_congr hsame).symm.trans hplain) hd
      · exact h.unique i j e e' he he' hsame hplain

end Cache

namespace Database

variable [Number α] {I : Database α → Prop}

/-- What asking for any entry keeps, putting a vector in its place and remembering a projection. -/
structure KeptByParts (t : ComponentTable) (I : Database α → Prop) : Prop where
  components : ∀ db, I db → db.components = t
  entry : ∀ d, Ensures I (entry d) (fun _ => True) fun _ => True
  replace : ∀ d, declaredVector? t d ≠ none → ∀ p f,
    Ensures I (onCache (·.replace d p f)) (fun _ => True) fun _ => True
  remember : ∀ p, Ensures I
    (modify fun db => { db with lastProjection := some p } : Query α PUnit) (fun _ => True)
      fun _ => True

namespace KeptByParts

variable (h : KeptByParts t I)

include h

theorem vectorComponent (vector : Descriptor α) (element : String) :
    Ensures I (vectorComponent vector element) (fun _ => True) fun _ => True := by
  apply Ensures.bind (Query.ensures_outcome (h.entry _))
  intro r _
  cases r with
  | error e => exact Ensures.throw trivial
  | ok e =>
    dsimp only
    cases e.field.single? with
    | some s => exact Ensures.pure trivial
    | none => exact Ensures.throw trivial

theorem assemble {d : Descriptor α} (hd : declaredVector? t d ≠ none) (x y : String) :
    Ensures I (assemble d x y) (fun _ => True) fun _ => True := by
  apply Ensures.bind (h.vectorComponent d x)
  rintro ⟨p, u⟩ _
  apply Ensures.bind (h.vectorComponent d y)
  rintro ⟨q, v⟩ _
  dsimp only
  split
  · apply Ensures.bind (h.replace d hd p _)
    intro _ _
    exact Ensures.bind (h.remember p) fun _ _ => Ensures.pure trivial
  · exact Ensures.throw trivial

theorem reading : KeptByReading (fun d => declaredVector? t d ≠ none) I where
  declared db _ hdb hd _ := h.components db hdb ▸ hd
  entry := h.entry
  assemble _ x y hd := h.assemble hd x y
  remember := h.remember

end KeptByParts

def Tidied (t : ComponentTable) (db : Database α) : Prop := db.cache.Tidy t ∧ db.components = t

theorem ensures_entry_tidied (d : Descriptor α) :
    Ensures (Tidied t) (entry d) (fun _ => True) fun _ => True := by
  rintro db ⟨htidy, ht⟩
  have hentry := entry_entering d db
  have hcomponents := keepsComponents_entry d t db ht
  generalize entry d db = r at hentry hcomponents ⊢
  cases hentry with
  | hit hscan he => exact ⟨⟨htidy.congr rfl, ht⟩, trivial⟩
  | @fetched p f db' hmiss hread hrest =>
    have hmiss' : db'.cache.scan? (·.SameField d) = none :=
      Cache.scan?_eq_none_iff.mpr (hrest.get?_eq ▸ Cache.scan?_eq_none_iff.mp hmiss)
    exact ⟨⟨(htidy.congr hrest.slots).add hmiss' p f, hcomponents.1⟩, trivial⟩
  | failed hmiss hread hrest => exact ⟨⟨htidy.congr hrest.slots, hcomponents.1⟩, trivial⟩

theorem keptByParts_tidied : KeptByParts t (Tidied (α := α) t) where
  components _ hdb := hdb.2
  entry := ensures_entry_tidied
  replace _ hd p f := ensures_onCache fun _ hdb => ⟨⟨hdb.1.replace hd p f, hdb.2⟩, trivial⟩
  remember _ := Ensures.modify fun _ hdb => hdb

def afterEvaluations (db : Database α) (history : List (Expr α × Context α)) : Database α :=
  db.after (history.map fun asked => .evaluate asked.1 asked.2)

theorem afterEvaluations_tidied {db : Database α} (h : Tidied t db)
    (history : List (Expr α × Context α)) : Tidied t (db.afterEvaluations history) := by
  induction history generalizing db with
  | nil => exact h
  | cons asked history ih =>
    exact ih ((asked.1.evaluate_keeps keptByParts_tidied.reading.readingKeeps asked.2).stateAfter h)

end Database

end Synoptic
