import Synoptic.Catalogue
import Synoptic.Database
import Synoptic.Expr

/-!
Evaluation of expressions over a field database.

An expression is checked before any field is read. With evaluation points set, a field is sampled at
the points, but an argument that its operator cannot take at points alone is evaluated as a whole
field, with everything below it. An offset of a series that leads out of the calendar is taken as no
offset at all, wherever a result says every context.
-/

namespace Synoptic

inductive EvalError (α : Type)
  | value (e : ValueError α)
  | database (e : DatabaseError α)
  | unknownFunction (name : String)
  | notASurface (d : Descriptor α)

def EvalError.message {α : Type} [Number α] : EvalError α → String
  | .value e => e.message
  | .database e => e.message
  | .unknownFunction name => s!"unknown function: {name}"
  | .notASurface d => s!"{d.display} is not a single-component surface"

abbrev Evaluation (α : Type) := EStateM (EvalError α) (Database α)

namespace Evaluation

variable {α β : Type}

def ofQuery (q : Query α β) : Evaluation α β := fun db =>
  match q db with
  | .ok b db => .ok b db
  | .error e db => .error (.database e) db

def ofExcept (r : Except (EvalError α) β) : Evaluation α β := fun db =>
  match r with
  | .ok b => .ok b db
  | .error e => .error e db

end Evaluation

namespace Expr

variable {α : Type} [Number α]

def ofValue {β : Type} (r : Except (ValueError α) β) : Except (EvalError α) β :=
  r.mapError .value

def resolve (name : String) : Except (EvalError α) (Operator α) :=
  match Catalogue.find? name with
  | some op => .ok op
  | none => .error (.unknownFunction name)

def callee (name : String) (count : Nat) : Except (EvalError α) (Operator α) := do
  let op ← resolve name
  ofValue (op.checkArity count)
  .ok op

mutual

/-- Finds every operator called and compares numbers of arguments, outer calls first. -/
def check : Expr α → Except (EvalError α) Unit
  | .constant _ => .ok ()
  | .field _ => .ok ()
  | .call name args => do
    let _ ← callee name args.length
    checkAll args

def checkAll : List (Expr α) → Except (EvalError α) Unit
  | [] => .ok ()
  | e :: es => do
    e.check
    checkAll es

end

/-- A descriptor with a missing valid time and a blank level taken from the context. -/
def situated (d : Descriptor α) (ctx : Context α) : Descriptor α :=
  { d with
    validTime := some (d.validTime.getD ctx.time)
    level :=
      match ctx.level with
      | some level => if d.level.toList.all Text.isBlank then level.name else d.level
      | none => d.level }

def sampled (s : Spline α) (ctx : Context α) (whole : Bool) : Except (ValueError α) (Value α) :=
  match ctx.points with
  | some points =>
    if whole then .ok (.spline s)
    else do
      s.ensureUsable "field sample"
      .ok (.samples (.ofFn points fun p => s.valueAt (ctx.projection.transfer p s.projection)))
  | none => .ok (.spline s)

def leaf (d : Descriptor α) (ctx : Context α) (whole : Bool) : Evaluation α (Value α) := do
  let d := situated d ctx
  match (← .ofQuery (Database.fieldFor d ctx.projection)).single? with
  | some s => .ofExcept (ofValue (sampled s ctx whole))
  | none => throw (.notASurface d)

def callContext (ctx : Context α) (whole : Bool) : Context α :=
  if whole then ctx.withoutPoints else ctx

mutual

/-- The value of an expression, `whole` telling whether a whole field is wanted. -/
def eval : Expr α → Context α → Bool → Evaluation α (Value α)
  | .constant x, _, _ => return .scalar x
  | .field d, ctx, whole => leaf d ctx whole
  | .call name args, ctx, whole => do
    let op ← .ofExcept (callee name args.length)
    let ctx := callContext ctx whole
    match op.action.class with
    | .series =>
      let members ← evalSeries args ctx (whole || !op.acceptsPointwise 0)
      .ofExcept (ofValue (op.callSeries ctx.offsets members ctx))
    | _ =>
      let values ← evalArgs args ctx fun i => whole || !op.acceptsPointwise i
      .ofExcept (ofValue (op.call values ctx))

def evalSeries : List (Expr α) → Context α → Bool → Evaluation α (List (Value α))
  | [], _, _ => return []
  | e :: _, ctx, whole => ctx.offsets.mapM fun minutes => e.eval (ctx.shifted minutes) whole

def evalArgs : List (Expr α) → Context α → (Nat → Bool) → Evaluation α (List (Value α))
  | [], _, _ => return []
  | e :: es, ctx, whole => do
    let v ← e.eval ctx (whole 0)
    let vs ← evalArgs es ctx fun i => whole (i + 1)
    return v :: vs

end

def evaluate (e : Expr α) (ctx : Context α) : Evaluation α (Value α) := do
  .ofExcept e.check
  e.eval ctx false

end Expr

end Synoptic
