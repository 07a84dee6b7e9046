import Synoptic.Document
import Synoptic.Projection

namespace Synoptic

variable {α : Type} [Number α]

namespace ProjectionKind

/-- The tags of the kinds. In a document a number stands for the tag at its place. -/
def tags : List String := ["lat_lon", "polar_stereographic", "mercator"]

def tagField : String := "type"

def ofContent? (tag : String) (content : Document α) : Option (ProjectionKind α) :=
  if tag = "lat_lon" then
    match content with
    | .record _ | .list [] => some .latLon
    | _ => none
  else if tag = "polar_stereographic" then do
    match ← content.fields? ["north", "true_lat"] with
    | [some north, some trueLat] =>
      some (.polarStereographic (← north.bool?) (← trueLat.real?))
    | _ => none
  else if tag = "mercator" then do
    match ← content.fields? ["true_lat"] with
    | [some trueLat] => some (.mercator (← trueLat.real?))
    | _ => none
  else none

def tagOf? : Document α → Option String
  | .text s => some s
  | .natural n => tags[n]?
  | _ => none

def ofDocument? : Document α → Option (ProjectionKind α)
  | .record entries => do
    match entries.filter (·.1.text? == some tagField) with
    | [(_, tag)] =>
      ofContent? (← tagOf? tag) (.record (entries.filter (·.1.text? != some tagField)))
    | _ => none
  | .list (tag :: content) => do ofContent? (← tagOf? tag) (.list content)
  | _ => none

def document : ProjectionKind α → Document α
  | .latLon => .ofFields [(tagField, .text "lat_lon")]
  | .polarStereographic north trueLat =>
    .ofFields
      [(tagField, .text "polar_stereographic"), ("north", .bool north), ("true_lat", .real trueLat)]
  | .mercator trueLat => .ofFields [(tagField, .text "mercator"), ("true_lat", .real trueLat)]

end ProjectionKind

namespace MapFrame

def names : List String := ["olat", "olon", "lref", "xorg", "yorg", "xlen", "ylen", "units"]

def read? {ν : Type} (r : Reader ν α) (v : ν) : Option (MapFrame α) := do
  let fields ← r.fields? names v
  match ← fields.mapM fun field => field.bind r.real? with
  | [originLat, originLon, referenceLon, xOffset, yOffset, xExtent, yExtent, units] =>
    some ⟨originLat, originLon, referenceLon, xOffset, yOffset, xExtent, yExtent, units⟩
  | _ => none

def document (f : MapFrame α) : Document α :=
  .ofFields
    [("olat", .real f.originLat), ("olon", .real f.originLon), ("lref", .real f.referenceLon),
      ("xorg", .real f.xOffset), ("yorg", .real f.yOffset), ("xlen", .real f.xExtent),
      ("ylen", .real f.yExtent), ("units", .real f.units)]

end MapFrame

namespace GridSpec

def read? {ν : Type} (r : Reader ν α) (v : ν) : Option (GridSpec α) := do
  match ← r.fields? ["nx", "ny", "cell_size"] v with
  | [some nx, some ny, some cell] =>
    some ⟨← r.count? nx, ← r.count? ny, ← r.real? cell⟩
  | _ => none

def document (g : GridSpec α) : Document α :=
  .ofFields [("nx", .natural g.nx), ("ny", .natural g.ny), ("cell_size", .real g.cell)]

end GridSpec

namespace Projection

def ofDocument? (d : Document α) : Option (Projection α) := do
  match ← d.fields? ["kind", "map", "grid"] with
  | [some kind, some frame, grid] =>
    let grid ← (grid.getD .null).optional? (GridSpec.read? Document.reader)
    some ⟨← ProjectionKind.ofDocument? kind, ← MapFrame.read? Document.reader frame, grid⟩
  | _ => none

def document (p : Projection α) : Document α :=
  .ofFields
    [("kind", p.kind.document), ("map", p.frame.document),
      ("grid", .ofOption GridSpec.document p.grid)]

end Projection

end Synoptic
