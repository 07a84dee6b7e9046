import Synoptic.Descriptor
import Synoptic.Projection.Serial

namespace Synoptic

variable {α : Type}

/-- The kind that a document names: by name, by its place among the kinds, or as a record of one
field with nothing in it. -/
def FieldKind.ofDocument? : Document α → Option FieldKind
  | .text s => ofName? s
  | .record [(.text s, .null)] => ofName? s
  | .record [(.natural n, .null)] => all[n]?
  | _ => none

namespace Timestamp

def ofDocument? (d : Document α) : Option Timestamp := d.text?.bind ofString?

def document (t : Timestamp) : Document α := .text t.serial

end Timestamp

namespace Descriptor

def names : List String :=
  ["source", "subsource", "runTime", "validTime", "element", "level", "kind", "projection"]

variable [Number α]

def ofDocument? (d : Document α) : Option (Descriptor α) := do
  match ← d.fields? names with
  | [some source, subsource, runTime, validTime, some element, some level, some kind, projection] =>
    some
      { source := ← source.text?
        subsource := ← (subsource.getD (.text "")).text?
        runTime := ← (runTime.getD .null).optional? Timestamp.ofDocument?
        validTime := ← (validTime.getD .null).optional? Timestamp.ofDocument?
        element := ← element.text?
        level := ← level.text?
        kind := ← FieldKind.ofDocument? kind
        projection := ← (projection.getD .null).optional? Projection.ofDocument? }
  | _ => none

def document (d : Descriptor α) : Document α :=
  .ofFields
    [("source", .text d.source), ("subsource", .text d.subsource),
      ("runTime", .ofOption Timestamp.document d.runTime),
      ("validTime", .ofOption Timestamp.document d.validTime),
      ("element", .text d.element), ("level", .text d.level), ("kind", .text d.kind.name),
      ("projection", .ofOption Projection.document d.projection)]

end Descriptor

end Synoptic
