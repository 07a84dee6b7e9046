import Synoptic.Conversion

/-!
Alignment: the operands of an element-wise operator brought onto one layout. Surfaces are sampled on
the default grid, grids of differing shape are brought onto it, numbers spread, and samples must
share their points.
-/

namespace Synoptic

variable {α : Type}

inductive Operand (α : Type)
  | const (x : α)
  | data (xs : Array α)
  deriving BEq, DecidableEq

inductive Layout (α : Type)
  | scalar
  | grid (spec : GridSpec α)
  | points (ps : Array (Point α))
  deriving BEq, DecidableEq

structure Aligned (α : Type) where
  layout : Layout α
  operands : List (Operand α)
  deriving BEq, DecidableEq

namespace Operand

variable [Number α]

def elem (i : Nat) : Operand α → α
  | .const x => x
  | .data xs => Number.read xs i

def hasZero : Operand α → Bool
  | .const x => x == 0
  | .data xs => xs.any (· == 0)

def find? (p : α → Bool) : Operand α → Option α
  | .const x => if p x then some x else none
  | .data xs => xs.find? p

end Operand

def Layout.size : Layout α → Nat
  | .scalar => 1
  | .grid spec => spec.nx * spec.ny
  | .points ps => ps.size

def Aligned.row [Number α] (a : Aligned α) (i : Nat) : List α := a.operands.map (·.elem i)

def Aligned.apply [Number α] (a : Aligned α) (f : List α → α) : Value α :=
  let data := (Array.range a.layout.size).map fun i => f (a.row i)
  match a.layout with
  | .scalar => .scalar (Number.read data 0)
  | .grid spec => .grid ⟨spec.nx, spec.ny, spec.cell, data⟩
  | .points ps => .samples ⟨ps, data⟩

namespace Value

def isField : Value α → Bool
  | .grid _ | .spline _ => true
  | _ => false

def isSamples : Value α → Bool
  | .samples _ => true
  | _ => false

end Value

variable [Number α]

def pointOperand (op : String) (first : Samples α) : Value α → Except (ValueError α) (Operand α)
  | .scalar x => .ok (.const x)
  | .samples s => if s.samePoints first then .ok (.data s.values) else .error (.points op)
  | _ => .error (.points op)

def gridOf (op : String) (ctx : Context α) : Value α → Except (ValueError α) (Option (Grid α))
  | .scalar _ => .ok none
  | .grid g => .ok (some g)
  | .spline s => some <$> splineToGrid s ctx
  | .samples _ => .error (.points op)

def uniform (grids : List (Grid α)) : Bool :=
  match grids with
  | [] => true
  | first :: rest => rest.all (·.spec == first.spec)

def gridOperand : Value α → Option (Grid α) → Operand α
  | _, some g => .data g.data
  | .scalar x, none => .const x
  | _, none => .const 0

def normalizeGrid? (ctx : Context α) : Option (Grid α) → Except (ValueError α) (Option (Grid α))
  | none => .ok none
  | some g => some <$> normalizeGrid g ctx

/-- Brings grids onto one shape: theirs if they agree on one, else that of the default grid. -/
def commonShape (ctx : Context α) (grids : List (Option (Grid α))) :
    Except (ValueError α) (List (Option (Grid α))) :=
  if uniform (grids.filterMap id) then .ok grids else grids.mapM (normalizeGrid? ctx)

/-- Aligns on a grid: that of the operands if they agree on one, else the default grid. -/
def alignGrids (op : String) (values : List (Value α)) (ctx : Context α) :
    Except (ValueError α) (Aligned α) := do
  let grids ← values.mapM (gridOf op ctx)
  let grids ← commonShape ctx grids
  match grids.filterMap id with
  | [] => .error (.conversion .scalar .grid)
  | first :: _ =>
    .ok { layout := .grid first.spec, operands := List.zipWith gridOperand values grids }

def align (op : String) (values : List (Value α)) (ctx : Context α) :
    Except (ValueError α) (Aligned α) :=
  match values.find? (·.isField), values.find? (·.isSamples) with
  | some field, some samples => .error (.incompatible op field.kind samples.kind)
  | none, some (.samples first) => do
    let operands ← values.mapM (pointOperand op first)
    .ok { layout := .points first.points, operands }
  | some _, none => alignGrids op values ctx
  | none, _ =>
    .ok { layout := .scalar, operands := (values.filterMap (·.asScalar?)).map .const }

end Synoptic
