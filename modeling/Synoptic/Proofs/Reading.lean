import Synoptic.Database

namespace Synoptic

variable {α : Type}

namespace Archive

def SameFiles (a b : Archive α) : Prop := a.files = b.files ∧ a.broken = b.broken

theorem SameFiles.file?_eq {a b : Archive α} (h : a.SameFiles b) (path : Path) :
    a.file? path = b.file? path := by
  simp only [file?, h.1]

theorem SameFiles.locate?_eq {a b : Archive α} (h : a.SameFiles b) (d : Descriptor α) :
    a.locate? d = b.locate? d := by
  simp only [locate?, h.2, h.file?_eq]

theorem SameFiles.read?_eq {a b : Archive α} (h : a.SameFiles b) (path : Path) :
    (a.read? path).map (·.1) = (b.read? path).map (·.1) := by
  simp only [read?, h.2, h.file?_eq]
  split
  · rfl
  · simp [Option.map_map, Function.comp_def]

theorem read?_sameFiles {a b : Archive α} {path : Path} {file : Metafile α}
    (h : a.read? path = some (file, b)) : b.SameFiles a := by
  rw [read?] at h
  split at h
  · cases h
  · obtain ⟨m, _, hm⟩ := Option.map_eq_some_iff.mp h
    cases hm
    exact ⟨rfl, rfl⟩

variable [Number α]

/-- The field of a descriptor on its projection, with the grid of the field. A wish for plots counts
for scattered fields only. -/
def readingAs (a : Archive α) (wish : Bool) (d : Descriptor α) :
    Except (DatabaseError α) (Projection α × Field α) :=
  match a.locate? d with
  | none => .error (.fetch (.noFile d))
  | some path =>
    match (a.read? path).map (·.1) with
    | none => .error (.fetch (.unreadable path d))
    | some file =>
      match file.take? (Database.categoryFor wish d.kind) d.kind d.element d.level with
      | some field => .ok (field.stamp file.projection, field)
      | none => .error (.fetch (.notPresent path d))

def reading (a : Archive α) (d : Descriptor α) :
    Except (DatabaseError α) (Projection α × Field α) := a.readingAs false d

theorem readingAs_ok_of_sameField {a : Archive α} {d d' : Descriptor α} (wish : Bool)
    (h : d.SameField d') {r : Projection α × Field α} (hr : a.readingAs wish d = .ok r) :
    a.readingAs wish d' = .ok r := by
  obtain ⟨hsource, hsubsource, hrun, hvalid, helement, hlevel, hkind⟩ := h
  have hpath : pathFor d' = pathFor d := by
    simp only [pathFor, hsource, hsubsource, hrun, hvalid]
  simp only [readingAs, locate?, hpath] at hr ⊢
  rw [← helement, ← hlevel, ← hkind]
  split at hr
  · cases hr
  split at hr
  · cases hr
  split at hr
  · exact hr
  · cases hr

theorem reading_ok_of_sameField {a : Archive α} {d d' : Descriptor α} (h : d.SameField d')
    {r : Projection α × Field α} (hr : a.reading d = .ok r) : a.reading d' = .ok r :=
  readingAs_ok_of_sameField false h hr

theorem SameFiles.readingAs_eq {a b : Archive α} (h : a.SameFiles b) (wish : Bool)
    (d : Descriptor α) : a.readingAs wish d = b.readingAs wish d := by
  simp only [readingAs, h.locate?_eq, h.read?_eq]

theorem readingAs_category {a : Archive α} {wish : Bool} {d : Descriptor α} {p : Projection α}
    {f : Field α} (h : a.readingAs wish d = .ok (p, f)) :
    f.category = Database.categoryFor wish d.kind := by
  simp only [readingAs] at h
  split at h
  · cases h
  split at h
  · cases h
  split at h
  · rename_i htake
    cases h
    rw [Metafile.take?] at htake
    split at htake
    · split at htake
      · rename_i hkind
        cases htake
        exact hkind.2
      · cases htake
    · cases htake
  · cases h

theorem readingAs_surface {a : Archive α} {wish : Bool} {d : Descriptor α} {p : Projection α}
    {f : Field α} {s : Spline α} (h : a.readingAs wish d = .ok (p, f)) (hs : f.single? = some s)
    (wish' : Bool) : a.readingAs wish' d = .ok (p, f) := by
  -- A surface is read whatever is wished: only scattered fields are read in two ways, and not as
  -- surfaces.
  have hsurface : f.category = .surface := by
    cases f with
    | surface components => rfl
    | features set items => cases hs
  have hcategory := (readingAs_category h).symm.trans hsurface
  have hsame : Database.categoryFor wish' d.kind = Database.categoryFor wish d.kind := by
    cases hkind : d.kind with
    | scattered =>
      rw [hkind] at hcategory
      cases hcategory
    | _ => rfl
  rw [← h, readingAs, readingAs, hsame]

theorem reading_error {a : Archive α} {d : Descriptor α} {e : DatabaseError α}
    (h : a.reading d = .error e) : ∃ f, e = .fetch f := by
  rw [reading, readingAs] at h
  split at h
  · exact ⟨_, (Except.error.inj h).symm⟩
  split at h
  · exact ⟨_, (Except.error.inj h).symm⟩
  split at h
  · cases h
  · exact ⟨_, (Except.error.inj h).symm⟩

def surfaceOf (d : Descriptor α) (element : String) (f : Field α) :
    Except (DatabaseError α) (Spline α) :=
  match f.single? with
  | some s => .ok s
  | none => .error (.missingComponent d element)

def componentReading (a : Archive α) (vector : Descriptor α) (element : String) :
    Except (DatabaseError α) (Projection α × Spline α) := do
  let (p, f) ← (a.reading (vector.component element .continuous)).mapError
    fun _ => .missingComponent vector element
  let s ← surfaceOf vector element f
  .ok (p, s)

def assembly (a : Archive α) (d : Descriptor α) (v : VectorElement) :
    Except (DatabaseError α) (Field α) := do
  let (xProjection, x) ← a.componentReading d v.x
  let (yProjection, y) ← a.componentReading d v.y
  if xProjection.sameMap yProjection then .ok (.surface [x, y])
  else .error (.mismatchedProjection d)

def StoredWhole (a : Archive α) (d : Descriptor α) : Prop :=
  ∃ p f, a.reading d = .ok (p, f) ∧ f.isVector = true

def vectorReading (a : Archive α) (d : Descriptor α) (v : VectorElement) :
    Except (DatabaseError α) (Field α) :=
  match a.reading d with
  | .ok (_, f) => if f.isVector then .ok f else a.assembly d v
  | .error _ => a.assembly d v

theorem vectorReading_of_not_storedWhole {a : Archive α} {d : Descriptor α} {v : VectorElement}
    (h : ¬ a.StoredWhole d) : a.vectorReading d v = a.assembly d v := by
  rw [vectorReading]
  split
  · rename_i p f hr
    exact if_neg fun hf => h ⟨p, f, hr, hf⟩
  · rfl

def partnerReading (a : Archive α) (d : Descriptor α) (partner : String) :
    Except (DatabaseError α) (Projection α × Field α) :=
  (a.reading (d.component partner d.kind)).mapError fun _ => .missingComponent d partner

def turn (d : Descriptor α) (axis : Axis) (partner : String) (target : Projection α)
    (f g : Field α) : Except (DatabaseError α) (Field α) := do
  let mine ← surfaceOf d d.element f
  let theirs ← surfaceOf d partner g
  let (x, y) := axis.arrange mine theirs
  match Reprojection.components x y target with
  | .ok turned => .ok (.surface [axis.select turned])
  | .error e => .error (.value e)

def turnedReading (a : Archive α) (d : Descriptor α) (axis : Axis) (partner : String)
    (target : Projection α) : Except (DatabaseError α) (Field α) := do
  let mine ← a.reading d
  if Reprojection.isNeeded mine.1 target then
    let theirs ← a.partnerReading d partner
    if mine.1.sameMap theirs.1 then turn d axis partner target mine.2 theirs.2
    else .error (.mismatchedProjection d)
  else .ok mine.2

def fieldReading (a : Archive α) (table : ComponentTable) (d : Descriptor α)
    (target : Projection α) : Except (DatabaseError α) (Field α) :=
  match Database.declaredVector? table d with
  | some v => a.vectorReading d v
  | none =>
    match table.partner? d.element with
    | some (partner, axis) => a.turnedReading d axis partner target
    | none => (a.reading d).map (·.2)

end Archive

end Synoptic
