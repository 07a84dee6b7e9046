import Synoptic.Proofs.Bounds.Sampling
import Synoptic.Proofs.Coherence

namespace Synoptic

variable {ε α β : Type}

def Field.Within (N : Nat) : Field α → Prop
  | .surface components => ∀ s ∈ components, s.Within N
  | .features _ _ => True

/-- No surface that is stored or cached has more than `N` coefficients. -/
structure Database.Within (N : Nat) (db : Database α) : Prop where
  stored : ∀ file ∈ db.archive.files, ∀ entry ∈ file.2.fields, entry.2.2.Within N
  cached : ∀ e, some e ∈ db.cache.slots → e.field.Within N

namespace Checked

abbrev Query (α : Type) := EStateM (Stop (DatabaseError α)) (Database α)

def outcome (q : Query α β) : Query α (Except (DatabaseError α) β) := fun db =>
  match q db with
  | .ok b db => .ok (.ok b) db
  | .error (.error e) db => .ok (.error e) db
  | .error .outOfRange db => .error .outOfRange db

def onCache (f : Cache α → Checked (DatabaseError α) (β × Cache α)) : Query α β := fun db =>
  match f db.cache with
  | .ok (b, cache) => .ok b { db with cache }
  | .error e => .error e db

def setSlot (c : Cache α) (i : Nat) (e : CacheEntry α) : Checked ε (Cache α) :=
  if i < c.capacity then .ok { c with slots := c.slots.set i (some e) } else .error .outOfRange

variable [Number α]

def add (c : Cache α) (d : Descriptor α) (projection : Projection α) (field : Field α) :
    Checked ε (Nat × Cache α) :=
  let entry := CacheEntry.stamped d projection field
  match c.slots.findIdx? (·.isNone) with
  | some i => do return (i, ← setSlot c i entry)
  | none => .ok (c.capacity, { c with slots := c.slots ++ [some entry] })

def replace (c : Cache α) (d : Descriptor α) (projection : Projection α) (field : Field α) :
    Checked ε (Nat × Cache α) :=
  match c.scan? (·.Matches d) with
  | some i => do return (i, ← setSlot c i (.stamped d projection field))
  | none => add c d projection field

def entry (d : Descriptor α) : Query α (CacheEntry α) := do
  match ← runInRange (Database.cached? d) with
  | some e => return e
  | none =>
    let (projection, field) ← runInRange (Database.fetch d)
    let _ ← onCache (add · d projection field)
    return .stamped d projection field

def vectorComponent (vector : Descriptor α) (element : String) :
    Query α (Projection α × Spline α) := do
  match ← outcome (entry (vector.component element .continuous)) with
  | .ok e =>
    match e.field.single? with
    | some s => return (e.projection, s)
    | none => throw (.error (.missingComponent vector element))
  | .error _ => throw (.error (.missingComponent vector element))

def assemble (d : Descriptor α) (xElement yElement : String) : Query α (Field α) := do
  let (xProjection, x) ← vectorComponent d xElement
  let (yProjection, y) ← vectorComponent d yElement
  if xProjection.sameMap yProjection then
    let field := .surface [x, y]
    let _ ← onCache (replace · d xProjection field)
    modify fun db => { db with lastProjection := some xProjection }
    return field
  else throw (.error (.mismatchedProjection d))

def vectorField (d : Descriptor α) (xElement yElement : String) : Query α (Field α) := do
  if d.kind ≠ .vector then throw (.error (.notVector d))
  match ← outcome (entry d) with
  | .ok e =>
    if e.field.isVector then
      modify fun db => { db with lastProjection := some e.projection }
      return e.field
    else assemble d xElement yElement
  | .error (.fetch _) => assemble d xElement yElement
  | .error e => throw (.error e)

def partnerEntry (d : Descriptor α) (partner : String) : Query α (CacheEntry α) := do
  match ← outcome (entry (d.component partner d.kind)) with
  | .ok e => return e
  | .error _ => throw (.error (.missingComponent d partner))

def componentField (d : Descriptor α) (axis : Axis) (partner : String) (target : Projection α) :
    Query α (Field α) := do
  let requested ← entry d
  if Reprojection.isNeeded requested.projection target then
    let other ← partnerEntry d partner
    if requested.projection.sameMap other.projection then
      let mine ← runInRange (Database.singleSurface d d.element requested.field)
      let theirs ← runInRange (Database.singleSurface d partner other.field)
      let (x, y) := axis.arrange mine theirs
      match components x y target with
      | .ok turned => return .surface [axis.select turned]
      | .error (.error e) => throw (.error (.value e))
      | .error .outOfRange => throw .outOfRange
    else throw (.error (.mismatchedProjection d))
  else return requested.field

def fieldFor (d : Descriptor α) (target : Projection α) : Query α (Field α) := do
  let table := (← get).components
  match Database.declaredVector? table d with
  | some v => vectorField d v.x v.y
  | none =>
    match table.partner? d.element with
    | some (partner, axis) => componentField d axis partner target
    | none => return (← entry d).field

/-! ### Slots -/

omit [Number α] in
theorem setSlot_eq {c : Cache α} {i : Nat} (h : i < c.capacity) (e : CacheEntry α) :
    (setSlot c i e : Checked ε (Cache α)) = .ok { c with slots := c.slots.set i (some e) } :=
  if_pos h

theorem add_eq (c : Cache α) (d : Descriptor α) (projection : Projection α) (field : Field α) :
    (add c d projection field : Checked ε (Nat × Cache α)) = .ok (c.add d projection field) := by
  rw [add, Cache.add]
  cases hi : c.slots.findIdx? (·.isNone) with
  | none => rfl
  | some i =>
    have hlt : i < c.capacity := (List.findIdx?_eq_some_iff_findIdx_eq.mp hi).1
    dsimp only
    rw [setSlot_eq hlt]
    rfl

theorem replace_eq (c : Cache α) (d : Descriptor α) (projection : Projection α) (field : Field α) :
    (replace c d projection field : Checked ε (Nat × Cache α)) =
      .ok (c.replace d projection field) := by
  rw [replace, Cache.replace]
  cases hi : c.scan? (·.Matches d) with
  | none => exact add_eq c d projection field
  | some i =>
    obtain ⟨e, he, _⟩ := Cache.scan?_some hi
    dsimp only
    rw [setSlot_eq (Cache.lt_capacity he)]
    rfl

end Checked

/-! ### What is stored -/

namespace Field

variable {N : Nat} {f : Field α}

theorem Within.single? (h : f.Within N) {s : Spline α} (hs : f.single? = some s) : s.Within N := by
  cases f with
  | surface components =>
    match components, hs with
    | [_], rfl => exact h _ List.mem_cons_self
  | features set items => cases hs

end Field

namespace Database.Within

variable {N : Nat} {db : Database α}

theorem withCache (h : db.Within N) {cache : Cache α}
    (hc : ∀ e, some e ∈ cache.slots → some e ∈ db.cache.slots ∨ e.field.Within N) :
    Database.Within N { db with cache } :=
  ⟨h.stored, fun e he => (hc e he).elim (h.cached e) id⟩

theorem file? (h : db.Within N) {path : Path} {file : Metafile α}
    (hfile : db.archive.file? path = some file) :
    ∀ entry ∈ file.fields, entry.2.2.Within N := by
  obtain ⟨⟨_, _⟩, hmem, rfl⟩ := Option.map_eq_some_iff.mp hfile
  exact h.stored _ (List.mem_of_find?_eq_some hmem)

end Database.Within

theorem Metafile.take?_within {N : Nat} {m : Metafile α}
    (h : ∀ entry ∈ m.fields, entry.2.2.Within N) {category : Category} {kind : FieldKind}
    {element level : String} {f : Field α} (hf : m.take? category kind element level = some f) :
    f.Within N := by
  rw [take?] at hf
  split at hf
  · rename_i hfound
    split at hf
    · cases hf
      exact h _ (List.mem_of_find?_eq_some hfound)
    · cases hf
  · cases hf

namespace Database

variable {N : Nat}

theorem within_cached? (d : Descriptor α) :
    Ensures (Within N) (cached? d) (fun found => ∀ e, found = some e → e.field.Within N)
      fun _ => True := by
  apply ensures_onCache
  intro db hdb
  constructor
  · exact hdb.withCache fun e he => .inl he
  · intro e he
    obtain ⟨i, _, he⟩ := Option.bind_eq_some_iff.mp he
    exact hdb.cached e (Cache.mem_of_get? he)

theorem within_takeCategory (kind : FieldKind) {Q : DatabaseError α → Prop} :
    Ensures (Within N) (takeCategory kind) (fun _ => True) Q := by
  intro db hdb
  cases kind <;> exact ⟨⟨hdb.stored, hdb.cached⟩, trivial⟩

theorem within_readFile (path : Path) (d : Descriptor α) :
    Ensures (Within N) (readFile path d) (fun file => ∀ entry ∈ file.fields, entry.2.2.Within N)
      fun _ => True := by
  apply Ensures.bind Ensures.get
  intro db hdb
  split
  · rename_i file archive hread
    rw [Archive.read?] at hread
    split at hread
    · cases hread
    · obtain ⟨m, hfile, hm⟩ := Option.map_eq_some_iff.mp hread
      cases hm
      apply Ensures.bind (Ensures.set ⟨hdb.stored, hdb.cached⟩)
      intro _ _
      exact Ensures.pure (hdb.file? hfile)
  · exact Ensures.throw trivial

theorem within_fetch (d : Descriptor α) :
    Ensures (Within N) (fetch d) (fun r => r.2.Within N) fun _ => True := by
  apply Ensures.bind (within_takeCategory d.kind)
  intro category _
  apply Ensures.bind Ensures.get
  intro db _
  split
  · exact Ensures.throw trivial
  · apply Ensures.bind (within_readFile _ d)
    intro file hfile
    split
    · exact Ensures.pure (file.take?_within hfile (by assumption))
    · exact Ensures.throw trivial

end Database

namespace Checked

variable {I : Database α → Prop} {P : β → Prop} {N : Nat}

theorem stays_onCache {f' : Cache α → Checked (DatabaseError α) (β × Cache α)}
    {f : Cache α → β × Cache α} (hf : ∀ c, f' c = .ok (f c))
    (h : ∀ db, I db → I { db with cache := (f db.cache).2 } ∧ P (f db.cache).1) :
    StaysInRange I (onCache f') (Database.onCache f) P := by
  refine ⟨fun db _ => ?_, Database.ensures_onCache h⟩
  rw [onCache, hf]
  rfl

theorem stays_outcome {q' : Query α β} {q : Synoptic.Query α β} (h : StaysInRange I q' q P) :
    StaysInRange I (outcome q') q.outcome (fun r => Yields r P fun _ => True) := by
  refine ⟨fun db hdb => ?_, Query.ensures_outcome h.ensures⟩
  rw [outcome, h.eq db hdb, runInRange, runInRange, Query.outcome]
  cases q db <;> rfl

variable [Number α]

theorem stays_add (d : Descriptor α) (projection : Projection α) {field : Field α}
    (h : field.Within N) :
    StaysInRange (Database.Within N) (onCache (add · d projection field))
      (Database.onCache (·.add d projection field)) fun _ => True := by
  apply stays_onCache fun c => add_eq c d projection field
  intro db hdb
  refine ⟨hdb.withCache fun e he => ?_, trivial⟩
  exact (Cache.mem_add he).imp_right (by rintro rfl; exact h)

theorem stays_replace (d : Descriptor α) (projection : Projection α) {field : Field α}
    (h : field.Within N) :
    StaysInRange (Database.Within N) (onCache (replace · d projection field))
      (Database.onCache (·.replace d projection field)) fun _ => True := by
  apply stays_onCache fun c => replace_eq c d projection field
  intro db hdb
  refine ⟨hdb.withCache fun e he => ?_, trivial⟩
  exact (Cache.mem_replace he).imp_right (by rintro rfl; exact h)

/-! ### Queries -/

theorem stays_entry (d : Descriptor α) :
    StaysInRange (Database.Within N) (entry d) (Database.entry d) (·.field.Within N) := by
  apply StaysInRange.bind (StaysInRange.free (Database.within_cached? d))
  intro found hfound
  cases found with
  | some e => exact StaysInRange.pure (hfound e rfl)
  | none =>
    apply StaysInRange.bind (StaysInRange.free (Database.within_fetch d))
    rintro ⟨projection, field⟩ h
    apply StaysInRange.bind (stays_add d projection h)
    intro _ _
    exact StaysInRange.pure h

theorem stays_vectorComponent (vector : Descriptor α) (element : String) :
    StaysInRange (Database.Within N) (vectorComponent vector element)
      (Database.vectorComponent vector element) fun r => r.2.Within N := by
  apply StaysInRange.bind (stays_outcome (stays_entry _))
  intro r hr
  cases r with
  | error e => exact StaysInRange.throw _
  | ok e =>
    dsimp only
    cases hs : e.field.single? with
    | some s => exact StaysInRange.pure (Field.Within.single? hr hs)
    | none => exact StaysInRange.throw _

omit [Number α] in
theorem stays_remember (projection : Projection α) :
    StaysInRange (Database.Within N)
      (modify fun db => { db with lastProjection := some projection } : Query α PUnit)
      (modify fun db => { db with lastProjection := some projection }) fun _ => True :=
  ⟨fun _ _ => rfl, Ensures.modify fun _ hdb => ⟨hdb.stored, hdb.cached⟩⟩

theorem stays_assemble (d : Descriptor α) (xElement yElement : String) :
    StaysInRange (Database.Within N) (assemble d xElement yElement)
      (Database.assemble d xElement yElement) (·.Within N) := by
  apply StaysInRange.bind (stays_vectorComponent d xElement)
  rintro ⟨xProjection, x⟩ hx
  apply StaysInRange.bind (stays_vectorComponent d yElement)
  rintro ⟨yProjection, y⟩ hy
  have hfield : (Field.surface [x, y]).Within N := by
    intro s hs
    simp only [List.mem_cons, List.not_mem_nil, or_false] at hs
    rcases hs with rfl | rfl
    · exact hx
    · exact hy
  dsimp only
  split
  · apply StaysInRange.bind (stays_replace d xProjection hfield)
    intro _ _
    apply StaysInRange.bind (stays_remember xProjection)
    intro _ _
    exact StaysInRange.pure hfield
  · exact StaysInRange.throw _

theorem stays_vectorField (d : Descriptor α) (xElement yElement : String) :
    StaysInRange (Database.Within N) (vectorField d xElement yElement)
      (Database.vectorField d xElement yElement) (·.Within N) := by
  rw [vectorField, Database.vectorField]
  split
  · exact StaysInRange.throw _
  apply StaysInRange.bind (stays_outcome (stays_entry d))
  intro r hr
  cases r with
  | ok e =>
    dsimp only
    split
    · apply StaysInRange.bind (stays_remember e.projection)
      intro _ _
      exact StaysInRange.pure hr
    · exact stays_assemble d xElement yElement
  | error e =>
    cases e with
    | fetch e => exact stays_assemble d xElement yElement
    | _ => exact StaysInRange.throw _

theorem stays_partnerEntry (d : Descriptor α) (partner : String) :
    StaysInRange (Database.Within N) (partnerEntry d partner) (Database.partnerEntry d partner)
      (·.field.Within N) := by
  apply StaysInRange.bind (stays_outcome (stays_entry _))
  intro r hr
  cases r with
  | ok e => exact StaysInRange.pure hr
  | error e => exact StaysInRange.throw _

omit [Number α] in
theorem stays_singleSurface (d : Descriptor α) (element : String) {field : Field α}
    (h : field.Within N) :
    StaysInRange (Database.Within N) (runInRange (Database.singleSurface d element field))
      (Database.singleSurface d element field) (·.Within N) := by
  apply StaysInRange.free (Q := fun _ => True)
  rw [Database.singleSurface]
  cases hs : field.single? with
  | some s => exact Ensures.pure (h.single? hs)
  | none => exact Ensures.throw trivial

section Component

variable (hN : Number.Counts α N) {target : Projection α} (ht : target.Within N)

include hN ht

theorem stays_componentField (d : Descriptor α) (axis : Axis) (partner : String) :
    StaysInRange (Database.Within N) (componentField d axis partner target)
      (Database.componentField d axis partner target) (·.Within N) := by
  apply StaysInRange.bind (stays_entry d)
  intro requested hrequested
  split
  · apply StaysInRange.bind (stays_partnerEntry d partner)
    intro other hother
    split
    · apply StaysInRange.bind (stays_singleSurface d d.element hrequested)
      intro mine hmine
      apply StaysInRange.bind (stays_singleSurface d partner hother)
      intro theirs htheirs
      generalize hpair : axis.arrange mine theirs = pair
      obtain ⟨x, y⟩ := pair
      have hxy : x.Within N ∧ y.Within N := by
        cases axis with
        | x => cases hpair; exact ⟨hmine, htheirs⟩
        | y => cases hpair; exact ⟨htheirs, hmine⟩
      have h := Reprojection.components_within (y := y) hxy.1 ht
      dsimp only
      rw [components_eq hN hxy.1 hxy.2 target]
      cases hr : Reprojection.components x y target with
      | error e => exact StaysInRange.throw _
      | ok turned =>
        rw [hr] at h
        apply StaysInRange.pure
        intro s hs
        cases List.mem_singleton.mp hs
        cases axis with
        | x => exact h.1
        | y => exact h.2
    · exact StaysInRange.throw _
  · exact StaysInRange.pure hrequested

theorem stays_fieldFor (d : Descriptor α) :
    StaysInRange (Database.Within N) (fieldFor d target) (Database.fieldFor d target)
      (·.Within N) := by
  have hget : StaysInRange (Database.Within N) (get : Query α (Database α))
      (get : Synoptic.Query α (Database α)) fun _ => True :=
    ⟨fun _ _ => rfl, fun _ hdb => ⟨hdb, trivial⟩⟩
  apply StaysInRange.bind hget
  intro db _
  dsimp only
  cases Database.declaredVector? db.components d with
  | some v => exact stays_vectorField d v.x v.y
  | none =>
    cases db.components.partner? d.element with
    | some p => exact stays_componentField hN ht d p.2 p.1
    | none =>
      apply StaysInRange.bind (stays_entry d)
      intro e he
      exact StaysInRange.pure he

end Component

end Checked

end Synoptic
