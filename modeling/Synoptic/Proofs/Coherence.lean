import Synoptic.Proofs.Cache.Search
import Synoptic.Proofs.Outcome
import Synoptic.Proofs.Reading

/-!
Coherence of a database: the cache holds what the archive would give. Every query keeps it, and comes
to the reading that has no cache.
-/

namespace Synoptic

variable {α : Type}

theorem Descriptor.SameField.component {d d' : Descriptor α} (h : d.SameField d')
    (element : String) (kind : FieldKind) :
    (d.component element kind).SameField (d'.component element kind) := by
  obtain ⟨h1, h2, h3, h4, _, h6, _⟩ := h
  exact ⟨h1, h2, h3, h4, rfl, h6, rfl⟩

namespace Cache

theorem mem_delete {c : Cache α} {d : Descriptor α} {e : CacheEntry α}
    (h : some e ∈ (c.delete d).2.slots) : some e ∈ c.slots := by
  rw [delete] at h
  split at h
  · exact (List.mem_or_eq_of_mem_set h).resolve_right (Option.some_ne_none e)
  · exact h

variable [Number α]

theorem mem_add {c : Cache α} {d : Descriptor α} {p : Projection α} {f : Field α}
    {e : CacheEntry α} (h : some e ∈ (c.add d p f).2.slots) :
    some e ∈ c.slots ∨ e = .stamped d p f := by
  rw [add] at h
  split at h
  · exact (List.mem_or_eq_of_mem_set h).imp_right Option.some.inj
  · exact (List.mem_append.mp h).imp_right fun h => Option.some.inj (List.mem_singleton.mp h)

theorem mem_replace {c : Cache α} {d : Descriptor α} {p : Projection α} {f : Field α}
    {e : CacheEntry α} (h : some e ∈ (c.replace d p f).2.slots) :
    some e ∈ c.slots ∨ e = .stamped d p f := by
  rw [replace] at h
  split at h
  · exact (List.mem_or_eq_of_mem_set h).imp_right Option.some.inj
  · exact mem_add h

end Cache

variable [Number α]

/-- An entry holds what is stored for a descriptor, or the vector that is put together for it where
none is stored whole. -/
def CacheEntry.Faithful (a : Archive α) (t : ComponentTable) (d : Descriptor α)
    (e : CacheEntry α) : Prop :=
  a.reading d = .ok (e.projection, e.field) ∨
    ¬ a.StoredWhole d ∧
      ∃ v, Database.declaredVector? t d = some v ∧ a.assembly d v = .ok e.field

/-- The cache holds what the archive would give, and no wish is pending. -/
structure Database.Coherent (a : Archive α) (t : ComponentTable) (db : Database α) : Prop where
  files : db.archive.SameFiles a
  components : db.components = t
  noWish : db.preferPlot = false
  faithful : ∀ e, some e ∈ db.cache.slots → e.Faithful a t e.descriptor

namespace Archive

variable {a : Archive α} {d d' : Descriptor α}

theorem componentReading_eq_ok_iff {element : String} {p : Projection α} {s : Spline α} :
    a.componentReading d element = .ok (p, s) ↔
      ∃ f, a.reading (d.component element .continuous) = .ok (p, f) ∧ f.single? = some s := by
  rw [componentReading]
  cases a.reading (d.component element .continuous) with
  | error e => exact iff_of_false nofun nofun
  | ok r =>
    obtain ⟨p', f⟩ := r
    simp only [Except.mapError, ok_bind, surfaceOf]
    cases hs : f.single? with
    | none => exact iff_of_false nofun (by rintro ⟨_, ⟨⟩, h⟩; cases hs.symm.trans h)
    | some s' =>
      constructor
      · rintro ⟨⟩
        exact ⟨f, rfl, hs⟩
      · rintro ⟨_, ⟨⟩, h⟩
        cases hs.symm.trans h
        rfl

theorem assembly_eq_ok_iff {v : VectorElement} {f : Field α} :
    a.assembly d v = .ok f ↔ ∃ x y, a.componentReading d v.x = .ok x ∧
      a.componentReading d v.y = .ok y ∧ x.1.sameMap y.1 = true ∧ f = .surface [x.2, y.2] := by
  rw [assembly]
  constructor
  · intro h
    obtain ⟨⟨xProjection, x⟩, hx, h⟩ := ok_of_bind h
    obtain ⟨⟨yProjection, y⟩, hy, h⟩ := ok_of_bind h
    dsimp only at h
    split at h
    · rename_i hmap
      exact ⟨(xProjection, x), (yProjection, y), hx, hy, hmap, (Except.ok.inj h).symm⟩
    · cases h
  · rintro ⟨x, y, hx, hy, hmap, rfl⟩
    rw [hx, hy]
    exact if_pos hmap

theorem componentReading_ok_of_sameField (h : d.SameField d') {element : String}
    {r : Projection α × Spline α} (hr : a.componentReading d element = .ok r) :
    a.componentReading d' element = .ok r := by
  obtain ⟨f, hf, hs⟩ := componentReading_eq_ok_iff.mp hr
  exact componentReading_eq_ok_iff.mpr
    ⟨f, reading_ok_of_sameField (h.component element .continuous) hf, hs⟩

theorem assembly_ok_of_sameField (h : d.SameField d') {v : VectorElement} {f : Field α}
    (hf : a.assembly d v = .ok f) : a.assembly d' v = .ok f := by
  obtain ⟨x, y, hx, hy, hmap, rfl⟩ := assembly_eq_ok_iff.mp hf
  exact assembly_eq_ok_iff.mpr ⟨x, y, componentReading_ok_of_sameField h hx,
    componentReading_ok_of_sameField h hy, hmap, rfl⟩

theorem single?_of_assembly {v : VectorElement} {f : Field α} (h : a.assembly d v = .ok f) :
    f.single? = none := by
  obtain ⟨x, y, _, _, _, rfl⟩ := assembly_eq_ok_iff.mp h
  rfl

theorem storedWhole_of_sameField (h : d.SameField d') (hw : a.StoredWhole d) : a.StoredWhole d' := by
  obtain ⟨p, f, hr, hv⟩ := hw
  exact ⟨p, f, reading_ok_of_sameField h hr, hv⟩

theorem faithful_of_sameField {t : ComponentTable} {e : CacheEntry α} (h : d.SameField d')
    (he : e.Faithful a t d) : e.Faithful a t d' := by
  cases he with
  | inl hr => exact .inl (reading_ok_of_sameField h hr)
  | inr hc =>
    obtain ⟨hw, v, hv, hf⟩ := hc
    right
    constructor
    · exact fun hw' => hw (storedWhole_of_sameField h.symm hw')
    · refine ⟨v, ?_, assembly_ok_of_sameField h hf⟩
      obtain ⟨_, _, _, _, helement, _, hkind⟩ := h
      simp only [Database.declaredVector?, ← helement, ← hkind] at hv ⊢
      exact hv

end Archive

/-- The partner of a component is not itself declared a vector of the kind that the component is
asked for as. -/
def Descriptor.PlainPartner (t : ComponentTable) (d : Descriptor α) : Prop :=
  Database.declaredVector? t d = none → ∀ partner axis, t.partner? d.element = some (partner, axis) →
    Database.declaredVector? t (d.component partner d.kind) = none

namespace Database

variable {a : Archive α} {t : ComponentTable}

namespace Coherent

theorem new (a : Archive α) (t : ComponentTable) : Coherent a t (.new a t) where
  files := ⟨rfl, rfl⟩
  components := rfl
  noWish := rfl
  faithful := by
    intro e he
    cases he

theorem withCache {db : Database α} (h : Coherent a t db) {cache : Cache α}
    (hc : ∀ e, some e ∈ cache.slots → some e ∈ db.cache.slots ∨ e.Faithful a t e.descriptor) :
    Coherent a t { db with cache } where
  files := h.files
  components := h.components
  noWish := h.noWish
  faithful := fun e he => (hc e he).elim (h.faithful e) id

end Coherent

theorem ensures_rewrite {β : Type} {f : Cache α → β × Cache α} {Q : DatabaseError α → Prop}
    (hf : ∀ c e, some e ∈ (f c).2.slots → some e ∈ c.slots ∨ e.Faithful a t e.descriptor) :
    Ensures (Coherent a t) (onCache f) (fun _ => True) Q :=
  ensures_onCache fun db hdb => ⟨hdb.withCache (hf db.cache), trivial⟩

theorem ensures_add {d : Descriptor α} {p : Projection α} {f : Field α}
    {Q : DatabaseError α → Prop} (h : (CacheEntry.stamped d p f).Faithful a t d) :
    Ensures (Coherent a t) (onCache (·.add d p f)) (fun _ => True) Q :=
  ensures_rewrite fun _ _ he => (Cache.mem_add he).imp_right (by rintro rfl; exact h)

theorem ensures_replace {d : Descriptor α} {p : Projection α} {f : Field α}
    {Q : DatabaseError α → Prop} (h : (CacheEntry.stamped d p f).Faithful a t d) :
    Ensures (Coherent a t) (onCache (·.replace d p f)) (fun _ => True) Q :=
  ensures_rewrite fun _ _ he => (Cache.mem_replace he).imp_right (by rintro rfl; exact h)

theorem ensures_delete (d : Descriptor α) {Q : DatabaseError α → Prop} :
    Ensures (Coherent a t) (delete d) (fun _ => True) Q :=
  ensures_rewrite fun _ _ he => .inl (Cache.mem_delete he)

theorem ensures_clear {Q : DatabaseError α → Prop} :
    Ensures (Coherent a t) clear (fun _ => True) Q :=
  ensures_rewrite fun _ _ he => by cases he

theorem ensures_remember {p : Projection α} {Q : DatabaseError α → Prop} :
    Ensures (Coherent a t) (modify fun db => { db with lastProjection := some p })
      (fun _ => True) Q :=
  Ensures.modify fun _ h => ⟨h.files, h.components, h.noWish, h.faithful⟩

theorem ensures_cached? (d : Descriptor α) {Q : DatabaseError α → Prop} :
    Ensures (Coherent a t) (cached? d) (fun found => ∀ e, found = some e → e.Faithful a t d) Q := by
  apply ensures_onCache
  intro db hdb
  constructor
  · exact hdb.withCache fun e he => .inl he
  · intro e he
    obtain ⟨i, hi, he⟩ := Option.bind_eq_some_iff.mp he
    obtain ⟨e', he', hsame⟩ :=
      Cache.scan?_some (show db.cache.scan? (·.SameField d) = some i from hi)
    cases he'.symm.trans he
    exact Archive.faithful_of_sameField (of_decide_eq_true hsame)
      (hdb.faithful e (Cache.mem_of_get? he))

theorem ensures_takeCategory (kind : FieldKind) {Q : DatabaseError α → Prop} :
    Ensures (Coherent a t) (takeCategory kind) (fun c => c = categoryFor false kind) Q := by
  intro db hdb
  have hc : categoryFor db.preferPlot kind = categoryFor false kind := by rw [hdb.noWish]
  have hused : Coherent a t { db with preferPlot := false } :=
    ⟨hdb.files, hdb.components, rfl, hdb.faithful⟩
  cases kind with
  | scattered => exact ⟨hused, hc⟩
  | _ => exact ⟨hdb, hc⟩

theorem ensures_readFile (path : Path) (d : Descriptor α) :
    Ensures (Coherent a t) (readFile path d) (fun file => (a.read? path).map (·.1) = some file)
      fun e => (a.read? path).map (·.1) = none ∧ e = .fetch (.unreadable path d) := by
  apply Ensures.bind Ensures.get
  intro db hdb
  have hread := hdb.files.read?_eq path
  split
  · rename_i file archive hr
    have hfiles := Archive.read?_sameFiles hr
    have hdb' : Coherent a t { db with archive } :=
      ⟨⟨hfiles.1.trans hdb.files.1, hfiles.2.trans hdb.files.2⟩, hdb.components, hdb.noWish,
        hdb.faithful⟩
    apply Ensures.bind (Ensures.set hdb')
    intro _ _
    apply Ensures.pure
    rw [← hread, hr]
    rfl
  · rename_i hr
    apply Ensures.throw
    rw [← hread, hr]
    exact ⟨rfl, rfl⟩

theorem ensures_fetch (d : Descriptor α) :
    Ensures (Coherent a t) (fetch d) (fun r => a.reading d = .ok (r.2.stamp r.1, r.2))
      fun e => a.reading d = .error e := by
  apply Ensures.bind (ensures_takeCategory d.kind)
  rintro category rfl
  apply Ensures.bind Ensures.get
  intro db hdb
  rw [hdb.files.locate?_eq]
  cases hl : a.locate? d with
  | none =>
    apply Ensures.throw
    simp only [Archive.reading, Archive.readingAs, hl]
  | some path =>
    apply Ensures.bind ((ensures_readFile path d).mono (fun _ => id) _)
    · intro file hfile
      split
      · rename_i field htake
        apply Ensures.pure
        simp only [Archive.reading, Archive.readingAs, hl, hfile, htake]
      · rename_i htake
        apply Ensures.throw
        simp only [Archive.reading, Archive.readingAs, hl, hfile, htake]
    · rintro e ⟨hnone, rfl⟩
      simp only [Archive.reading, Archive.readingAs, hl, hnone]

theorem ensures_entry (d : Descriptor α) :
    Ensures (Coherent a t) (entry d) (·.Faithful a t d) fun e => a.reading d = .error e := by
  apply Ensures.bind (ensures_cached? d)
  intro found hfound
  cases found with
  | some e => exact Ensures.pure (hfound e rfl)
  | none =>
    apply Ensures.bind (ensures_fetch d)
    rintro ⟨p, f⟩ hr
    apply Ensures.bind (ensures_add (.inl hr))
    intro _ _
    exact Ensures.pure (.inl hr)

theorem ensures_of_entry {β : Type} (d : Descriptor α) (part : CacheEntry α → β) :
    Ensures (Coherent a t) (entry d >>= fun e => pure (part e)) (fun _ => True)
      fun e => a.reading d = .error e :=
  Ensures.bind (ensures_entry d) fun _ _ => Ensures.pure trivial

theorem ensures_entry_plain {d : Descriptor α} (hd : declaredVector? t d = none) :
    Ensures (Coherent a t) (entry d) (fun e => a.reading d = .ok (e.projection, e.field))
      fun e => a.reading d = .error e := by
  apply (ensures_entry d).mono _ fun _ => id
  rintro e (hr | ⟨_, v, hv, _⟩)
  · exact hr
  · rw [hd] at hv
    cases hv

theorem vectorComponent_realizes (d : Descriptor α) (element : String) :
    Realizes (Coherent a t) True (vectorComponent d element) (a.componentReading d element) := by
  have hplain : declaredVector? t (d.component element .continuous) = none := rfl
  apply Ensures.bind (Query.ensures_outcome (ensures_entry_plain hplain))
  intro r hr
  cases r with
  | error e =>
    apply Ensures.throw
    intro _
    rw [Archive.componentReading, hr]
    rfl
  | ok e =>
    have hread : a.componentReading d element =
        (do let s ← Archive.surfaceOf d element e.field; .ok (e.projection, s)) := by
      rw [Archive.componentReading, hr]
      rfl
    rw [hread]
    dsimp only
    split
    · rename_i s hs
      simp only [Archive.surfaceOf, hs]
      exact Realizes.ok
    · rename_i hs
      simp only [Archive.surfaceOf, hs]
      exact Realizes.error

theorem assemble_realizes {d : Descriptor α} {v : VectorElement}
    (hv : declaredVector? t d = some v) (hw : ¬ a.StoredWhole d) :
    Realizes (Coherent a t) True (assemble d v.x v.y) (a.assembly d v) := by
  apply Realizes.bind (vectorComponent_realizes d v.x)
  rintro ⟨xProjection, x⟩ hx
  apply Realizes.bind (vectorComponent_realizes d v.y)
  rintro ⟨yProjection, y⟩ hy
  dsimp only
  split
  · rename_i hmap
    have hf : a.assembly d v = .ok (.surface [x, y]) :=
      Archive.assembly_eq_ok_iff.mpr ⟨_, _, hx, hy, hmap, rfl⟩
    apply Ensures.bind (ensures_replace (.inr ⟨hw, v, hv, hf⟩))
    intro _ _
    apply Ensures.bind ensures_remember
    intro _ _
    exact Realizes.ok
  · exact Realizes.error

theorem vectorField_realizes {d : Descriptor α} {v : VectorElement}
    (hv : declaredVector? t d = some v) :
    Realizes (Coherent a t) True (vectorField d v.x v.y) (a.vectorReading d v) := by
  have hkind : d.kind = .vector := by
    by_contra h
    simp only [declaredVector?, if_neg h] at hv
    cases hv
  rw [vectorField]
  rw [if_neg (not_not.mpr hkind)]
  apply Ensures.bind (Query.ensures_outcome (ensures_entry d))
  intro r hr
  cases r with
  | ok e =>
    dsimp only
    cases hr with
    | inl hr =>
      have hreading : a.vectorReading d v =
          if e.field.isVector then .ok e.field else a.assembly d v := by
        rw [Archive.vectorReading, hr]
      rw [hreading]
      split
      · apply Ensures.bind ensures_remember
        intro _ _
        exact Realizes.ok
      · rename_i hf
        apply assemble_realizes hv
        rintro ⟨p, f, hr', hf'⟩
        cases hr.symm.trans hr'
        exact hf hf'
    | inr hc =>
      obtain ⟨hw, v', hv', hf⟩ := hc
      cases hv.symm.trans hv'
      rw [Archive.vectorReading_of_not_storedWhole hw]
      split
      · apply Ensures.bind ensures_remember
        intro _ _
        exact Ensures.pure hf
      · exact assemble_realizes hv hw
  | error e =>
    obtain ⟨f, rfl⟩ := Archive.reading_error hr
    have hw : ¬ a.StoredWhole d := by
      rintro ⟨p, f, hr', _⟩
      cases hr.symm.trans hr'
    rw [Archive.vectorReading_of_not_storedWhole hw]
    exact assemble_realizes hv hw

omit [Number α] in
theorem singleSurface_realizes {I : Database α → Prop} (d : Descriptor α) (element : String)
    (f : Field α) :
    Realizes I True (singleSurface d element f) (Archive.surfaceOf d element f) := by
  rw [singleSurface]
  split
  · rename_i s hs
    simp only [Archive.surfaceOf, hs]
    exact Realizes.ok
  · rename_i hs
    simp only [Archive.surfaceOf, hs]
    exact Realizes.error

theorem partnerEntry_ensures (d : Descriptor α) (partner : String) :
    Ensures (Coherent a t) (partnerEntry d partner) (·.Faithful a t (d.component partner d.kind))
      fun e => a.partnerReading d partner = .error e := by
  apply Ensures.bind (Query.ensures_outcome (ensures_entry _))
  intro r hr
  cases r with
  | ok e => exact Ensures.pure hr
  | error e =>
    apply Ensures.throw
    rw [Archive.partnerReading, hr]
    rfl

def turnedField (d : Descriptor α) (axis : Axis) (partner : String) (target : Projection α)
    (f g : Field α) : Query α (Field α) := do
  let mine ← singleSurface d d.element f
  let theirs ← singleSurface d partner g
  let (x, y) := axis.arrange mine theirs
  match Reprojection.components x y target with
  | .ok turned => return .surface [axis.select turned]
  | .error e => throw (.value e)

theorem turnedField_realizes {I : Database α → Prop} (d : Descriptor α) (axis : Axis)
    (partner : String) (target : Projection α) (f g : Field α) :
    Realizes I True (turnedField d axis partner target f g)
      (Archive.turn d axis partner target f g) := by
  apply Realizes.bind (singleSurface_realizes d d.element f)
  intro mine _
  apply Realizes.bind (singleSurface_realizes d partner g)
  intro theirs _
  dsimp only
  cases Reprojection.components (axis.arrange mine theirs).1 (axis.arrange mine theirs).2 target with
  | ok turned => exact Realizes.ok
  | error e => exact Realizes.error

theorem turnedField_fails (d : Descriptor α) (axis : Axis) (partner : String)
    (target : Projection α) (f : Field α) {g : Field α} (hg : g.single? = none)
    (db : Database α) : ∃ err, turnedField d axis partner target f g db = .error err db := by
  have htheirs : singleSurface d partner g = throw (.missingComponent d partner) := by
    simp only [singleSurface, hg]
  rw [turnedField, htheirs, singleSurface]
  cases f.single? with
  | some s => exact ⟨_, rfl⟩
  | none => exact ⟨_, rfl⟩

theorem turnedField_ensures_false {d : Descriptor α} (axis : Axis) {partner : String}
    (target : Projection α) (f : Field α) {g : Field α} (hg : g.single? = none) :
    Ensures (Coherent a t) (turnedField d axis partner target f g) (fun _ => False)
      fun _ => True := by
  intro db hdb
  obtain ⟨err, hrun⟩ := turnedField_fails d axis partner target f hg db
  rw [hrun]
  exact ⟨hdb, trivial⟩

theorem componentField_realizes {d : Descriptor α} (axis : Axis) (partner : String)
    (target : Projection α) (hd : declaredVector? t d = none) :
    Realizes (Coherent a t) (declaredVector? t (d.component partner d.kind) = none)
      (componentField d axis partner target) (a.turnedReading d axis partner target) := by
  -- A partner that is declared a vector itself may be cached as one. It then has no single surface,
  -- so that a component is found only where it would be without a cache.
  apply Ensures.bind ((ensures_entry_plain hd).mono (fun _ => id) _)
  · intro requested hr
    have hread : a.turnedReading d axis partner target =
        if Reprojection.isNeeded requested.projection target then
          (a.partnerReading d partner >>= fun theirs =>
            if requested.projection.sameMap theirs.1 then
              Archive.turn d axis partner target requested.field theirs.2
            else .error (.mismatchedProjection d))
        else .ok requested.field := by
      rw [Archive.turnedReading, hr]
      rfl
    rw [hread]
    split
    · apply Ensures.bind ((partnerEntry_ensures d partner).mono (fun _ => id) _)
      · rintro other (ho | ⟨_, v, hv, hassembly⟩)
        · have hpartner : a.partnerReading d partner = .ok (other.projection, other.field) := by
            rw [Archive.partnerReading, ho]
            rfl
          rw [hpartner]
          change Realizes _ _ _
            (if requested.projection.sameMap other.projection = true then _ else _)
          split
          · exact (turnedField_realizes d axis partner target _ _).mono fun _ => trivial
          · exact Realizes.error
        · have hsingle := Archive.single?_of_assembly hassembly
          split
          · apply (turnedField_ensures_false axis target _ hsingle).mono (fun _ => False.elim)
            intro _ _ hc
            rw [hv] at hc
            cases hc
          · apply Ensures.throw
            intro hc
            rw [hv] at hc
            cases hc
      · intro e he _
        rw [he]
        rfl
    · exact Realizes.ok
  · intro e hr _
    rw [Archive.turnedReading, hr]
    rfl

theorem fieldFor_realizes (d : Descriptor α) (target : Projection α) :
    Realizes (Coherent a t) (d.PlainPartner t) (fieldFor d target) (a.fieldReading t d target) := by
  apply Ensures.bind Ensures.get
  intro db hdb
  rw [hdb.components]
  dsimp only
  split
  · rename_i v hv
    simp only [Archive.fieldReading, hv]
    exact (vectorField_realizes hv).mono fun _ => trivial
  · rename_i hd
    split
    · rename_i partner axis hp
      simp only [Archive.fieldReading, hd, hp]
      exact (componentField_realizes axis partner target hd).mono fun h => h hd partner axis hp
    · rename_i hp
      simp only [Archive.fieldReading, hd, hp]
      apply Ensures.bind ((ensures_entry_plain hd).mono (fun _ => id) _)
      · intro e hr
        rw [hr]
        exact Realizes.ok
      · intro e hr _
        rw [hr]
        rfl

end Database

end Synoptic
