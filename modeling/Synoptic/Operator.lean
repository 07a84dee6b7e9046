import Synoptic.Alignment

namespace Synoptic

variable {α : Type}

inductive Action (α : Type)
  | elementwise (f : List α → α)
  | field (run : List (Value α) → Context α → Except (ValueError α) (Value α))
  | series (run : List α → List (Value α) → Context α → Except (ValueError α) (Value α))

inductive ActionClass
  | elementwise | field | series
  deriving DecidableEq

def Action.class : Action α → ActionClass
  | .elementwise _ => .elementwise
  | .field _ => .field
  | .series _ => .series

structure Operator (α : Type) where
  name : String
  signature : String
  doc : String
  /-- For each argument, whether it may be given at the evaluation points only. -/
  pointwise : List Bool
  action : Action α

namespace Operator

def arity (o : Operator α) : Nat := o.pointwise.length

def acceptsPointwise (o : Operator α) (i : Nat) : Bool := o.pointwise.getD i true

def checkArity (o : Operator α) (got : Nat) : Except (ValueError α) Unit :=
  if got = o.arity then .ok () else .error (.arity o.name o.arity got)

variable [Number α]

/-- Calls an operator. One of a series takes its times from the context. -/
def call (o : Operator α) (args : List (Value α)) (ctx : Context α) :
    Except (ValueError α) (Value α) :=
  match o.action with
  | .elementwise f => do
    o.checkArity args.length
    let aligned ← align o.name args ctx
    .ok (aligned.apply f)
  | .field run => do
    o.checkArity args.length
    run args ctx
  | .series run => run ctx.offsets args ctx

def callSeries (o : Operator α) (times : List α) (members : List (Value α)) (ctx : Context α) :
    Except (ValueError α) (Value α) :=
  match o.action with
  | .series run => run times members ctx
  | _ => o.call members ctx

end Operator

def sample [Number α] (ctx : Context α) (f : Point α → α) : Except (ValueError α) (Value α) :=
  match ctx.points with
  | some points => .ok (.samples (.ofFn points f))
  | none => do
    let grid ← ctx.defaultGrid
    .ok (.grid (.ofFn grid fun ix iy => f (grid.node ix iy)))

end Synoptic
