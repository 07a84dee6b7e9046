import Synoptic.Operator.Arithmetic

namespace Synoptic

variable {α : Type} [Number α]

inductive Differentiand (α : Type)
  | zero (value : Value α)
  | surface (s : Spline α)

def differentiand (op : String) (value : Value α) (ctx : Context α) :
    Except (ValueError α) (Differentiand α) :=
  match value with
  | .scalar _ => .ok (.zero (.scalar 0))
  | .samples s => .ok (.zero (.samples (s.map fun _ => 0)))
  | .grid g => .surface <$> gridToSpline g ctx
  | .spline s =>
    if s.Usable then .ok (.surface s) else .error (.shape op (.surface s.columns s.rows))

def differentiate (op : String) (value : Value α) (ctx : Context α) (f : Derivatives α → α) :
    Except (ValueError α) (Value α) := do
  match ← differentiand op value ctx with
  | .zero zero => .ok zero
  | .surface s =>
    sample ctx fun p => f (s.derivativesAt (ctx.projection.transfer p s.projection))

def ddx (value : Value α) (ctx : Context α) : Except (ValueError α) (Value α) :=
  let k := ctx.unitFactor
  differentiate "ddx" value ctx fun d => d.fx * k

def ddy (value : Value α) (ctx : Context α) : Except (ValueError α) (Value α) :=
  let k := ctx.unitFactor
  differentiate "ddy" value ctx fun d => d.fy * k

def curvature (value : Value α) (ctx : Context α) : Except (ValueError α) (Value α) :=
  let k := ctx.unitFactor
  differentiate "curv" value ctx fun d => Spline.isolineCurvature d * k

def laplacian (value : Value α) (ctx : Context α) : Except (ValueError α) (Value α) :=
  let k := ctx.unitFactor
  differentiate "laplc" value ctx fun d => (d.fxx + d.fyy) * k * k

def divergence (u v : Value α) (ctx : Context α) : Except (ValueError α) (Value α) := do
  let du ← ddx u ctx
  let dv ← ddy v ctx
  BinaryOp.plus.combine du dv ctx

/-- What the wind brings along: the gradient along the wind, with its sign changed. -/
def advection (f u v : Value α) (ctx : Context α) : Except (ValueError α) (Value α) := do
  let dx ← ddx f ctx
  let alongX ← BinaryOp.multiply.combine u dx ctx
  let dy ← ddy f ctx
  let alongY ← BinaryOp.multiply.combine v dy ctx
  let total ← BinaryOp.plus.combine alongX alongY ctx
  BinaryOp.multiply.combine total (.scalar (-1)) ctx

def runUnary (name : String)
    (f : Value α → Context α → Except (ValueError α) (Value α)) (args : List (Value α))
    (ctx : Context α) : Except (ValueError α) (Value α) :=
  match args with
  | [x] => f x ctx
  | _ => .error (.arity name 1 args.length)

def runDivergence (args : List (Value α)) (ctx : Context α) : Except (ValueError α) (Value α) :=
  match args with
  | [u, v] => divergence u v ctx
  | _ => .error (.arity "divrg" 2 args.length)

def runAdvection (args : List (Value α)) (ctx : Context α) : Except (ValueError α) (Value α) :=
  match args with
  | [f, u, v] => advection f u v ctx
  | _ => .error (.arity "advct" 3 args.length)

def derivativeOperators : List (Operator α) :=
  [⟨"ddx", "ddx(f) -> Value", "Partial derivative along the map x axis", [false],
      .field (runUnary "ddx" ddx)⟩,
    ⟨"ddy", "ddy(f) -> Value", "Partial derivative along the map y axis", [false],
      .field (runUnary "ddy" ddy)⟩,
    ⟨"curv", "curv(f) -> Value", "Isoline curvature", [false],
      .field (runUnary "curv" curvature)⟩,
    ⟨"laplc", "laplc(f) -> Value", "Laplacian", [false], .field (runUnary "laplc" laplacian)⟩,
    ⟨"divrg", "divrg(u, v) -> Value", "Divergence of the vector (u, v)", [false, false],
      .field runDivergence⟩,
    ⟨"advct", "advct(f, u, v) -> Value", "Advection of f by the wind (u, v)",
      [false, true, true], .field runAdvection⟩]

end Synoptic
