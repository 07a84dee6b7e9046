import Synoptic.Archive
import Synoptic.Cache
import Synoptic.Components
import Synoptic.Database.Error
import Synoptic.Reprojection

namespace Synoptic

structure Database (α : Type) where
  archive : Archive α
  components : ComponentTable
  cache : Cache α
  /-- Whether the next scattered field is read as plots and not as spots. -/
  preferPlot : Bool
  /-- Projection of the vector field read last. -/
  lastProjection : Option (Projection α)

abbrev Query (α : Type) := EStateM (DatabaseError α) (Database α)

/-- What a query comes to; a failure does not end the computation. -/
def Query.outcome {α β : Type} (q : Query α β) : Query α (Except (DatabaseError α) β) := fun db =>
  match q db with
  | .ok b db => .ok (.ok b) db
  | .error e db => .ok (.error e) db

namespace Database

variable {α : Type} [Number α]

def new (archive : Archive α) (components : ComponentTable) : Database α where
  archive
  components
  cache := .empty
  preferPlot := false
  lastProjection := none

def categoryFor (preferPlot : Bool) : FieldKind → Category
  | .continuous | .vector => .surface
  | .discrete | .wind => .features .areas
  | .line => .features .curves
  | .scattered => .features (if preferPlot then .plots else .spots)
  | .lchain => .features .lchains

/-- The category to read a kind as. Asking it of scattered fields uses up the wish for plots. -/
def takeCategory (kind : FieldKind) : Query α Category := do
  let db ← get
  if kind = .scattered then set { db with preferPlot := false }
  return categoryFor db.preferPlot kind

def readFile (path : Path) (d : Descriptor α) : Query α (Metafile α) := do
  let db ← get
  match db.archive.read? path with
  | some (file, archive) =>
    set { db with archive }
    return file
  | none => throw (.fetch (.unreadable path d))

def fetch (d : Descriptor α) : Query α (Projection α × Field α) := do
  let category ← takeCategory d.kind
  match (← get).archive.locate? d with
  | none => throw (.fetch (.noFile d))
  | some path =>
    let file ← readFile path d
    match file.take? category d.kind d.element d.level with
    | some field => return (file.projection, field)
    | none => throw (.fetch (.notPresent path d))

def onCache {β : Type} (f : Cache α → β × Cache α) : Query α β := do
  let db ← get
  let (b, cache) := f db.cache
  set { db with cache }
  return b

def cached? (d : Descriptor α) : Query α (Option (CacheEntry α)) :=
  onCache fun c =>
    let (slot, c) := c.lookup d
    (slot.bind c.get?, c)

def entry (d : Descriptor α) : Query α (CacheEntry α) := do
  match ← cached? d with
  | some e => return e
  | none =>
    let (projection, field) ← fetch d
    let _ ← onCache (·.add d projection field)
    return .stamped d projection field

def field (d : Descriptor α) : Query α (Field α) := return (← entry d).field

def fieldWithProjection (d : Descriptor α) : Query α (Projection α × Field α) := do
  let e ← entry d
  return (e.projection, e.field)

/-- The surface of a component of a vector. Whatever goes wrong, the component is missing. -/
def vectorComponent (vector : Descriptor α) (element : String) :
    Query α (Projection α × Spline α) := do
  match ← (entry (vector.component element .continuous)).outcome with
  | .ok e =>
    match e.field.single? with
    | some s => return (e.projection, s)
    | none => throw (.missingComponent vector element)
  | .error _ => throw (.missingComponent vector element)

def assemble (d : Descriptor α) (xElement yElement : String) : Query α (Field α) := do
  let (xProjection, x) ← vectorComponent d xElement
  let (yProjection, y) ← vectorComponent d yElement
  if xProjection.sameMap yProjection then
    let field := .surface [x, y]
    let _ ← onCache (·.replace d xProjection field)
    modify fun db => { db with lastProjection := some xProjection }
    return field
  else throw (.mismatchedProjection d)

def vectorField (d : Descriptor α) (xElement yElement : String) : Query α (Field α) := do
  if d.kind ≠ .vector then throw (.notVector d)
  match ← (entry d).outcome with
  | .ok e =>
    if e.field.isVector then
      modify fun db => { db with lastProjection := some e.projection }
      return e.field
    else assemble d xElement yElement
  | .error (.fetch _) => assemble d xElement yElement
  | .error e => throw e

def singleSurface (d : Descriptor α) (element : String) (field : Field α) :
    Query α (Spline α) :=
  match field.single? with
  | some s => return s
  | none => throw (.missingComponent d element)

def partnerEntry (d : Descriptor α) (partner : String) : Query α (CacheEntry α) := do
  match ← (entry (d.component partner d.kind)).outcome with
  | .ok e => return e
  | .error _ => throw (.missingComponent d partner)

def componentField (d : Descriptor α) (axis : Axis) (partner : String) (target : Projection α) :
    Query α (Field α) := do
  let requested ← entry d
  if Reprojection.isNeeded requested.projection target then
    let other ← partnerEntry d partner
    if requested.projection.sameMap other.projection then
      let mine ← singleSurface d d.element requested.field
      let theirs ← singleSurface d partner other.field
      let (x, y) := axis.arrange mine theirs
      match Reprojection.components x y target with
      | .ok turned => return .surface [axis.select turned]
      | .error e => throw (.value e)
    else throw (.mismatchedProjection d)
  else return requested.field

def declaredVector? (table : ComponentTable) (d : Descriptor α) : Option VectorElement :=
  if d.kind = .vector then table.vector? d.element else none

/-- The field of a descriptor for use on a target: as a vector or as a component if its element is
declared so, else as it is stored. -/
def fieldFor (d : Descriptor α) (target : Projection α) : Query α (Field α) := do
  let table := (← get).components
  match declaredVector? table d with
  | some v => vectorField d v.x v.y
  | none =>
    match table.partner? d.element with
    | some (partner, axis) => componentField d axis partner target
    | none => field d

def add (d : Descriptor α) (projection : Projection α) (field : Field α) : Query α Nat :=
  onCache (·.add d projection field)

def replace (d : Descriptor α) (projection : Projection α) (field : Field α) : Query α Nat :=
  onCache (·.replace d projection field)

def delete (d : Descriptor α) : Query α Bool := onCache (·.delete d)

def clear : Query α Unit := onCache fun c => ((), c.clear)

def wishPlots : Query α Unit := modify fun db => { db with preferPlot := true }

def declare (components : ComponentTable) : Query α Unit := modify fun db => { db with components }

def mapArchive (f : Archive α → Archive α) (db : Database α) : Database α :=
  { db with archive := f db.archive }

end Database

end Synoptic
