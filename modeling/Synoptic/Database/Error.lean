import Synoptic.Descriptor
import Synoptic.Error
import Synoptic.Path

namespace Synoptic

inductive FetchError (α : Type)
  | noFile (d : Descriptor α)
  | unreadable (path : Path) (d : Descriptor α)
  | notPresent (path : Path) (d : Descriptor α)

inductive DatabaseError (α : Type)
  | fetch (e : FetchError α)
  | mismatchedProjection (d : Descriptor α)
  | missingComponent (d : Descriptor α) (element : String)
  | notVector (d : Descriptor α)
  | value (e : ValueError α)

variable {α : Type}

def FetchError.message : FetchError α → String
  | .noFile d => s!"no backing file for {d.display}"
  | .unreadable path d => s!"metafile {path.text} for {d.display} is unreadable"
  | .notPresent path d => s!"{d.display} is not present in {path.text}"

def DatabaseError.message [Number α] : DatabaseError α → String
  | .fetch e => s!"fetch failed: {e.message}"
  | .mismatchedProjection d => s!"components of {d.display} were read on different projections"
  | .missingComponent d element => s!"component {element} of {d.display} is missing"
  | .notVector d => s!"{d.display} is not a vector field"
  | .value e => e.message

end Synoptic
