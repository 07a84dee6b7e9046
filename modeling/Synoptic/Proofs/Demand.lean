import Synoptic.Evaluation

/-!
Whole fields on demand. The demand is carried by a mode at the leaves and by a context without points
within calls; both come to evaluation in a context that has no points. What points there were does
not matter below an argument that must be a whole field, at any depth and at every time of a series.
-/

namespace Synoptic.Expr

variable {α : Type} [Number α]

def elsewhere (points : Option (Array (Point α))) (ctx : Context α) (whole : Bool) : Context α :=
  if whole then { ctx with points } else ctx

mutual

/-- Evaluation that hands other points to every argument that must be a whole field. -/
def evalElsewhere (points : Option (Array (Point α))) :
    Expr α → Context α → Bool → Evaluation α (Value α)
  | .constant x, _, _ => return .scalar x
  | .field d, ctx, whole => leaf d ctx whole
  | .call name args, ctx, whole => do
    let op ← .ofExcept (callee name args.length)
    let ctx := callContext ctx whole
    match op.action.class with
    | .series =>
      let members ← seriesElsewhere points args ctx (whole || !op.acceptsPointwise 0)
      .ofExcept (ofValue (op.callSeries ctx.offsets members ctx))
    | _ =>
      let values ← argsElsewhere points args ctx fun i => whole || !op.acceptsPointwise i
      .ofExcept (ofValue (op.call values ctx))

def seriesElsewhere (points : Option (Array (Point α))) :
    List (Expr α) → Context α → Bool → Evaluation α (List (Value α))
  | [], _, _ => return []
  | e :: _, ctx, whole => ctx.offsets.mapM fun minutes =>
    e.evalElsewhere points (elsewhere points (ctx.shifted minutes) whole) whole

def argsElsewhere (points : Option (Array (Point α))) :
    List (Expr α) → Context α → (Nat → Bool) → Evaluation α (List (Value α))
  | [], _, _ => return []
  | e :: es, ctx, whole => do
    let v ← e.evalElsewhere points (elsewhere points ctx (whole 0)) (whole 0)
    let vs ← argsElsewhere points es ctx fun i => whole (i + 1)
    return v :: vs

end

theorem sampled_whole (s : Spline α) (ctx : Context α) (whole : Bool) :
    sampled s ctx true = sampled s ctx.withoutPoints whole := by
  simp only [sampled, Context.withoutPoints]
  split <;> rfl

theorem leaf_whole (d : Descriptor α) (ctx : Context α) (whole : Bool) :
    leaf d ctx true = leaf d ctx.withoutPoints whole := by
  simp only [leaf, sampled_whole _ ctx whole]
  rfl

omit [Number α] in
theorem callContext_withoutPoints (ctx : Context α) (whole : Bool) :
    callContext ctx.withoutPoints whole = ctx.withoutPoints := by
  cases whole <;> rfl

mutual

theorem eval_whole :
    ∀ (e : Expr α) (ctx : Context α) (whole : Bool),
      e.eval ctx true = e.eval ctx.withoutPoints whole
  -- A call forgets the points before it evaluates its arguments, so below it only contexts without
  -- points are left, in which the mode does not matter.
  | .constant x, ctx, whole => rfl
  | .field d, ctx, whole => leaf_whole d ctx whole
  | .call name args, ctx, whole => by
    have hforget : callContext ctx true = ctx.withoutPoints := rfl
    rw [eval, eval, hforget, callContext_withoutPoints]
    congr 1
    funext op
    simp only [Bool.true_or]
    rw [evalSeries_whole args ctx.withoutPoints (whole || !op.acceptsPointwise 0),
      evalArgs_whole args ctx.withoutPoints fun i => whole || !op.acceptsPointwise i]
    rfl

theorem evalSeries_whole :
    ∀ (es : List (Expr α)) (ctx : Context α) (whole : Bool),
      evalSeries es ctx true = evalSeries es ctx.withoutPoints whole
  | [], ctx, whole => rfl
  | e :: _, ctx, whole => by
    have hmember : ∀ minutes, e.eval (ctx.shifted minutes) true =
        e.eval (ctx.withoutPoints.shifted minutes) whole :=
      fun minutes => eval_whole e (ctx.shifted minutes) whole
    simp only [evalSeries, hmember]
    rfl

theorem evalArgs_whole :
    ∀ (es : List (Expr α)) (ctx : Context α) (whole : Nat → Bool),
      evalArgs es ctx (fun _ => true) = evalArgs es ctx.withoutPoints whole
  | [], ctx, whole => rfl
  | e :: es, ctx, whole => by
    rw [evalArgs, evalArgs, eval_whole e ctx (whole 0),
      evalArgs_whole es ctx fun i => whole (i + 1)]

end

theorem eval_elsewhere (points : Option (Array (Point α))) (e : Expr α) (ctx : Context α)
    (whole : Bool) : e.eval (elsewhere points ctx whole) whole = e.eval ctx whole := by
  cases whole with
  | false => rfl
  | true =>
    calc
      e.eval { ctx with points } true = e.eval ctx.withoutPoints false := eval_whole e _ false
      _ = e.eval ctx true := (eval_whole e ctx false).symm

mutual

theorem evalElsewhere_eq (points : Option (Array (Point α))) :
    ∀ (e : Expr α) (ctx : Context α) (whole : Bool),
      e.evalElsewhere points ctx whole = e.eval ctx whole
  | .constant x, ctx, whole => rfl
  | .field d, ctx, whole => rfl
  | .call name args, ctx, whole => by
    rw [evalElsewhere, eval]
    congr 1
    funext op
    cases op.action.class with
    | series => simp only [seriesElsewhere_eq points args]
    | _ => simp only [argsElsewhere_eq points args]

theorem seriesElsewhere_eq (points : Option (Array (Point α))) :
    ∀ (es : List (Expr α)) (ctx : Context α) (whole : Bool),
      seriesElsewhere points es ctx whole = evalSeries es ctx whole
  | [], ctx, whole => rfl
  | e :: _, ctx, whole => by
    have hmember : ∀ minutes,
        e.evalElsewhere points (elsewhere points (ctx.shifted minutes) whole) whole =
          e.eval (ctx.shifted minutes) whole := fun minutes =>
      (evalElsewhere_eq points e _ whole).trans (eval_elsewhere points e (ctx.shifted minutes) whole)
    simp only [seriesElsewhere, evalSeries, hmember]

theorem argsElsewhere_eq (points : Option (Array (Point α))) :
    ∀ (es : List (Expr α)) (ctx : Context α) (whole : Nat → Bool),
      argsElsewhere points es ctx whole = evalArgs es ctx whole
  | [], ctx, whole => rfl
  | e :: es, ctx, whole => by
    rw [argsElsewhere, evalArgs, evalElsewhere_eq points e, eval_elsewhere points e ctx (whole 0),
      argsElsewhere_eq points es]

end

/-- Wanting a whole field is forgetting the points: the value or the error and the database left
behind are the same. So no points that are handed to arguments that must be whole fields change
anything, however deep such an argument stands. Offsets out of the calendar count as none. -/
theorem eval_demand (e : Expr α) (ctx : Context α) :
    (∀ whole, e.eval ctx true = e.eval ctx.withoutPoints whole) ∧
      ∀ points whole, e.evalElsewhere points ctx whole = e.eval ctx whole :=
  ⟨eval_whole e ctx, fun points => evalElsewhere_eq points e ctx⟩

end Synoptic.Expr
