import Synoptic.Descriptor
import Synoptic.Path

namespace Synoptic

variable {α : Type}

/-- Fields by folded element and level, on a projection without a grid. -/
structure Metafile (α : Type) where
  projection : Projection α
  fields : List ((String × String) × FieldKind × Field α)

namespace Metafile

def new (projection : Projection α) : Metafile α := ⟨{ projection with grid := none }, []⟩

def key (element level : String) : String × String := (Text.fold element, Text.fold level)

def insert (m : Metafile α) (element level : String) (kind : FieldKind) (field : Field α) :
    Metafile α :=
  let k := key element level
  if m.fields.any (·.1 == k) then
    { m with fields := m.fields.map fun e => if e.1 == k then (k, kind, field) else e }
  else { m with fields := m.fields ++ [(k, kind, field)] }

def size (m : Metafile α) : Nat := m.fields.length

def take? (m : Metafile α) (category : Category) (kind : FieldKind) (element level : String) :
    Option (Field α) :=
  match m.fields.find? (·.1 == key element level) with
  | some (_, k, f) => if k = kind ∧ f.category = category then some f else none
  | none => none

end Metafile

/-- Metafiles by path. A broken path is found but cannot be read. Every metafile handed out is
counted. -/
structure Archive (α : Type) where
  files : List (Path × Metafile α)
  broken : List Path
  reads : Nat

namespace Archive

def empty : Archive α := ⟨[], [], 0⟩

def stamp : Option Timestamp → String
  | some t => t.compact
  | none => "-"

/-- Where the field of a descriptor is kept: folded source, subsource, run time and valid time, with
a hyphen for what is missing. -/
def pathFor (d : Descriptor α) : Path :=
  let subsource := if d.subsource.isEmpty then "-" else d.subsource
  (((Path.ofString (Text.fold d.source)).join (.ofString (Text.fold subsource))).join
    (.ofString (stamp d.runTime))).join (.ofString (stamp d.validTime))

def file? (a : Archive α) (path : Path) : Option (Metafile α) :=
  (a.files.find? (·.1 == path)).map (·.2)

def setFile (a : Archive α) (path : Path) (m : Metafile α) : Archive α :=
  if a.files.any (·.1 == path) then
    { a with files := a.files.map fun e => if e.1 == path then (e.1, m) else e }
  else { a with files := a.files ++ [(path, m)] }

def insert (a : Archive α) (like : Descriptor α) (m : Metafile α) : Archive α :=
  a.setFile (pathFor like) m

def fileFor (a : Archive α) (like : Descriptor α) (projection : Projection α) : Metafile α :=
  (a.file? (pathFor like)).getD (.new projection)

def put (a : Archive α) (like : Descriptor α) (projection : Projection α)
    (element level : String) (kind : FieldKind) (field : Field α) : Archive α :=
  a.insert like ((a.fileFor like projection).insert element level kind field)

def breakFile (a : Archive α) (like : Descriptor α) : Archive α :=
  { a with broken := pathFor like :: a.broken }

def mendFiles (a : Archive α) : Archive α := { a with broken := [] }

def locate? (a : Archive α) (d : Descriptor α) : Option Path :=
  let path := pathFor d
  if a.broken.any (· == path) || (a.file? path).isSome then some path else none

def read? (a : Archive α) (path : Path) : Option (Metafile α × Archive α) :=
  if a.broken.any (· == path) then none
  else (a.file? path).map fun m => (m, { a with reads := a.reads + 1 })

end Archive

end Synoptic
