import Synoptic.Spline

namespace Synoptic

variable {α : Type}

structure Samples (α : Type) where
  points : Array (Point α)
  values : Array α
  deriving BEq, DecidableEq

namespace Samples

def ofData (points : Array (Point α)) (values : Array α) :
    Except (ValueError α) (Samples α) :=
  if points.size = values.size then .ok ⟨points, values⟩
  else .error (.shape "vlist" (.sampleCount points.size values.size))

def filled (points : Array (Point α)) (value : α) : Samples α :=
  ⟨points, Array.replicate points.size value⟩

def ofFn (points : Array (Point α)) (f : Point α → α) : Samples α := ⟨points, points.map f⟩

def samePoints [BEq α] (s t : Samples α) : Bool := s.points == t.points

def map (f : α → α) (s : Samples α) : Samples α := { s with values := s.values.map f }

end Samples

inductive Value (α : Type)
  | scalar (x : α)
  | grid (g : Grid α)
  | spline (s : Spline α)
  | samples (s : Samples α)
  deriving BEq, DecidableEq

namespace Value

def kind : Value α → Kind
  | .scalar _ => .scalar
  | .grid _ => .grid
  | .spline _ => .spline
  | .samples _ => .samples

def asScalar? : Value α → Option α
  | .scalar x => some x
  | _ => none

def blank [Number α] : Kind → Value α
  | .scalar => .scalar 0
  | .grid => .grid .empty
  | .spline => .spline .empty
  | .samples => .samples ⟨#[], #[]⟩

end Value

end Synoptic
