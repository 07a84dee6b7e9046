namespace Synoptic

inductive Kind
  | scalar | grid | spline | samples
  deriving DecidableEq

namespace Kind

def all : List Kind := [.scalar, .grid, .spline, .samples]

def name : Kind → String
  | .scalar => "scalar"
  | .grid => "grid"
  | .spline => "spline"
  | .samples => "vlist"

end Kind

end Synoptic
