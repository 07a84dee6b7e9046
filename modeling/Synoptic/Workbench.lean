import Synoptic.Configuration
import Synoptic.Evaluation

namespace Synoptic

structure Workbench (α : Type) where
  context : Context α
  database : Database α

namespace Workbench

variable {α : Type} [Number α]

def source : String := "test"

def ofContext (context : Context α) : Workbench α := ⟨context, .new .empty .empty⟩

def ofYaml (text : String) : Except (ConfigurationError α) (Workbench α) := do
  let c ← Configuration.ofYaml text
  .ok (ofContext c.context)

def descriptor (w : Workbench α) (element level : String) (minutes : Int) : Descriptor α :=
  { source, element, level, kind := .continuous
    validTime := some (w.context.time.shift (60 * minutes)) }

def put (w : Workbench α) (like : Descriptor α) (projection : Projection α)
    (element level : String) (kind : FieldKind) (field : Field α) : Workbench α :=
  { w with database := w.database.mapArchive (·.put like projection element level kind field) }

def addField (w : Workbench α) (element level : String) (kind : FieldKind) (minutes : Int)
    (field : Field α) : Workbench α :=
  w.put (w.descriptor element level minutes) w.context.projection element level kind field

def addFieldOn (w : Workbench α) (subsource : String) (projection : Projection α)
    (element level : String) (field : Field α) : Workbench α :=
  w.put { w.descriptor element level 0 with subsource } projection element level .continuous field

def surface (w : Workbench α) (f : Point α → α) : Except (ValueError α) (Spline α) := do
  let grid ← w.context.defaultGrid
  Spline.fit (Grid.ofFn grid fun ix iy => f (grid.node ix iy)) .origin w.context.projection

def addSurface (w : Workbench α) (element level : String) (minutes : Int) (f : Point α → α) :
    Except (ValueError α) (Workbench α) := do
  let s ← w.surface f
  .ok (w.addField element level .continuous minutes (.surface [s]))

def evaluate (w : Workbench α) (e : Expr α) (context : Context α) :
    Except (EvalError α) (Value α) × Workbench α :=
  match e.evaluate context w.database with
  | .ok v database => (.ok v, { w with database })
  | .error err database => (.error err, { w with database })

def value (w : Workbench α) (e : Expr α) : Except (EvalError α) (Value α) × Workbench α :=
  w.evaluate e w.context

def valueAt (w : Workbench α) (e : Expr α) (points : Array (Point α)) :
    Except (EvalError α) (Value α) × Workbench α :=
  w.evaluate e (w.context.withPoints points)

end Workbench

end Synoptic
