import Synoptic.Context
import Synoptic.Projection.Serial
import Synoptic.Yaml.Resolution

namespace Synoptic

inductive PointList (α : Type)
  | map (points : List (α × α))
  | latLon (points : List (α × α))

structure Configuration (α : Type) where
  apiVersion : String
  kind : String
  projection : ProjectionKind α
  frame : MapFrame α
  grid : GridSpec α
  points : Option (PointList α)
  validTime : Timestamp
  level : Option String
  upperLevel : Option String
  lowerLevel : Option String
  localTime : Bool
  displayDistance : α
  seriesMin : Nat
  seriesMax : Nat
  seriesOffsets : List α

inductive ConfigurationError (α : Type)
  | unreadable
  | apiVersion (got : String)
  | kind (got : String)
  | grid (grid : GridSpec α)
  | units (units : α)
  | seriesLimits (least most : Nat)

variable {α : Type} [Number α]

namespace PointList

def pair? (d : Document α) : Option (α × α) :=
  match d with
  | .list [a, b] => do some (← a.real?, ← b.real?)
  | _ => none

def pairs? (name : String) (d : Document α) : Option (List (α × α)) :=
  match d with
  | .record entries =>
    match Document.recordFields? [name] entries with
    | some [some (.list items)] => items.mapM pair?
    | _ => none
  | _ => none

def ofDocument? (d : Document α) : Option (PointList α) :=
  (pairs? "map" d).map .map <|> (pairs? "latLon" d).map .latLon

def positions (p : Projection α) : PointList α → Array (Point α)
  | .map points => (points.map fun (x, y) => ⟨x, y⟩).toArray
  | .latLon points => (points.map fun (lat, lon) => p.position lat lon).toArray

end PointList

def fieldDepth : Nat := Yaml.Node.depthLimit - 1

/-- Reads a kind of projection. Here the tag is a text, whatever it looks like. -/
def ProjectionKind.ofNode? (n : Yaml.Node) : Option (ProjectionKind α) := do
  let tag ←
    match n with
    | .map entries => (entries.find? (·.1.text? == some tagField)).map (·.2)
    | .list items => items.head?
    | _ => none
  match ← n.document? fieldDepth with
  | .record entries =>
    if (entries.filter (·.1.text? == some tagField)).length = 1 then
      ofContent? (← tag.text?) (.record (entries.filter (·.1.text? != some tagField)))
    else none
  | .list (_ :: content) => ofContent? (← tag.text?) (.list content)
  | _ => none

namespace Configuration

def standardVersion : String := "metcalc/v1"

def standardKind : String := "EvalConfig"

def orElse {β : Type} (default : β) (read : Yaml.Node → Option β) :
    Option Yaml.Node → Option β
  | some n => read n
  | none => some default

def required {β : Type} (read : Yaml.Node → Option β) (field : Option Yaml.Node) : Option β :=
  field.bind read

def names : List String :=
  ["apiVersion", "kind", "projection", "map", "grid", "points", "validTime", "level", "upperLevel",
    "lowerLevel", "localTime", "displayDistance", "seriesMin", "seriesMax", "seriesOffsets"]

def ofNode? (n : Yaml.Node) : Option (Configuration α) := do
  match ← n.fields? names with
  | [apiVersion, kind, projection, frame, grid, points, validTime, level, upperLevel, lowerLevel,
      localTime, displayDistance, seriesMin, seriesMax, seriesOffsets] =>
    some
      { apiVersion := ← orElse standardVersion (·.text?) apiVersion
        kind := ← orElse standardKind (·.text?) kind
        projection := ← required ProjectionKind.ofNode? projection
        frame := ← orElse .standard (MapFrame.read? Yaml.Node.reader) frame
        grid := ← required (GridSpec.read? Yaml.Node.reader) grid
        points := ←
          orElse none
            (Yaml.Node.optional? fun n => (n.document? fieldDepth).bind PointList.ofDocument?)
            points
        validTime := ← required (fun n => n.text?.bind Timestamp.ofString?) validTime
        level := ← orElse none (Yaml.Node.optional? (·.text?)) level
        upperLevel := ← orElse none (Yaml.Node.optional? (·.text?)) upperLevel
        lowerLevel := ← orElse none (Yaml.Node.optional? (·.text?)) lowerLevel
        localTime := ← orElse false (·.bool?) localTime
        displayDistance := ← orElse 1 (·.real?) displayDistance
        seriesMin := ← orElse 2 (·.count?) seriesMin
        seriesMax := ← orElse 5 (·.count?) seriesMax
        seriesOffsets := ← orElse [-60, 0] (fun n => n.items?.bind (·.mapM (·.real?))) seriesOffsets }
  | _ => none

def validate (c : Configuration α) : Except (ConfigurationError α) Unit :=
  if c.apiVersion ≠ standardVersion then .error (.apiVersion c.apiVersion)
  else if c.kind ≠ standardKind then .error (.kind c.kind)
  else if ¬c.grid.Valid then .error (.grid c.grid)
  else if c.frame.units ≤ 0 then .error (.units c.frame.units)
  else if c.seriesMin < 2 ∨ c.seriesMax < c.seriesMin then
    .error (.seriesLimits c.seriesMin c.seriesMax)
  else .ok ()

/-- The configuration that a reader finds in a text, if it can be accepted. -/
def ofText (read : String → Option (Configuration α)) (text : String) :
    Except (ConfigurationError α) (Configuration α) :=
  match read text with
  | some c => do
    c.validate
    .ok c
  | none => .error .unreadable

/-- A reader for the part of YAML that has trees here. -/
def readYaml? (text : String) : Option (Configuration α) :=
  (Yaml.Node.ofString? text).bind ofNode?

def ofYaml (text : String) : Except (ConfigurationError α) (Configuration α) :=
  ofText readYaml? text

def mapProjection (c : Configuration α) : Projection α := ⟨c.projection, c.frame, some c.grid⟩

/-- The context that a configuration describes. Levels above and below that are given count more
than the bounds of a layer. -/
def context (c : Configuration α) : Context α :=
  let ctx : Context α :=
    { Context.standard c.mapProjection c.validTime with
      points := c.points.map (·.positions c.mapProjection)
      localTime := c.localTime
      displayDistance := c.displayDistance
      seriesMin := c.seriesMin
      seriesMax := c.seriesMax
      offsets := c.seriesOffsets }
  let ctx :=
    match c.level with
    | some name => ctx.withLevel (.read name)
    | none => ctx
  { ctx with
    upper := (c.upperLevel.map Level.read) <|> ctx.upper
    lower := (c.lowerLevel.map Level.read) <|> ctx.lower }

end Configuration

def ConfigurationError.message : ConfigurationError α → String
  | .unreadable => "the configuration cannot be read"
  | .apiVersion got => s!"invalid apiVersion: expected 'metcalc/v1', got '{got}'"
  | .kind got => s!"invalid kind: expected 'EvalConfig', got '{got}'"
  | .grid g => s!"invalid grid: nx={g.nx}, ny={g.ny}, cell_size={Number.text g.cell}"
  | .units got => s!"map units must be positive, got {Number.text got}"
  | .seriesLimits least most => s!"series limits {least}..={most} are not usable"

end Synoptic
