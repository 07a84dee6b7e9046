import Synoptic.Proofs.Coherence

namespace Synoptic

variable {α : Type} [Number α]

/-- Where fields come from: the field of a descriptor for use on a projection. -/
abbrev Provider (α : Type) := Descriptor α → Projection α → Except (DatabaseError α) (Field α)

namespace Expr

def leafMeaning (read : Provider α) (d : Descriptor α) (ctx : Context α) (whole : Bool) :
    Except (EvalError α) (Value α) := do
  let d := situated d ctx
  match (← (read d ctx.projection).mapError .database).single? with
  | some s => ofValue (sampled s ctx whole)
  | none => .error (.notASurface d)

mutual

def meaning (read : Provider α) : Expr α → Context α → Bool → Except (EvalError α) (Value α)
  | .constant x, _, _ => .ok (.scalar x)
  | .field d, ctx, whole => leafMeaning read d ctx whole
  | .call name args, ctx, whole => do
    let op ← callee name args.length
    let ctx := callContext ctx whole
    match op.action.class with
    | .series =>
      let members ← seriesMeaning read args ctx (whole || !op.acceptsPointwise 0)
      ofValue (op.callSeries ctx.offsets members ctx)
    | _ =>
      let values ← argsMeaning read args ctx fun i => whole || !op.acceptsPointwise i
      ofValue (op.call values ctx)

def seriesMeaning (read : Provider α) :
    List (Expr α) → Context α → Bool → Except (EvalError α) (List (Value α))
  | [], _, _ => .ok []
  | e :: _, ctx, whole => ctx.offsets.mapM fun minutes => e.meaning read (ctx.shifted minutes) whole

def argsMeaning (read : Provider α) :
    List (Expr α) → Context α → (Nat → Bool) → Except (EvalError α) (List (Value α))
  | [], _, _ => .ok []
  | e :: es, ctx, whole => do
    let v ← e.meaning read ctx (whole 0)
    let vs ← argsMeaning read es ctx fun i => whole (i + 1)
    .ok (v :: vs)

end

omit [Number α] in
theorem ofValue_eq_ok {β : Type} {r : Except (ValueError α) β} {b : β} :
    ofValue r = .ok b ↔ r = .ok b := by
  cases r with
  | ok c => simp [ofValue, Except.mapError]
  | error e => simp [ofValue, Except.mapError]

def checkedMeaning (read : Provider α) (e : Expr α) (ctx : Context α) :
    Except (EvalError α) (Value α) := do
  e.check
  e.meaning read ctx false

end Expr

namespace Evaluation

variable {β : Type} {I : Database α → Prop} {c : Prop}

omit [Number α] in
theorem realizes_ofExcept (r : Except (EvalError α) β) : Realizes I c (ofExcept r) r := by
  cases r with
  | ok b => exact Realizes.ok
  | error e => exact Realizes.error

omit [Number α] in
theorem realizes_ofQuery {q : Query α β} {r : Except (DatabaseError α) β} (h : Realizes I c q r) :
    Realizes I c (ofQuery q) (r.mapError .database) := by
  apply ensures_ofQuery (Ensures.mono h _ _)
  · rintro b rfl
    rfl
  · intro e he hc
    rw [he hc]
    rfl

end Evaluation

namespace Expr

variable {a : Archive α} {t : ComponentTable}

omit [Number α] in
theorem plainPartner_situated {d : Descriptor α} {ctx : Context α} (h : d.PlainPartner t) :
    (situated d ctx).PlainPartner t := h

theorem leaf_realizes (d : Descriptor α) (ctx : Context α) (whole : Bool) :
    Realizes (Database.Coherent a t) (d.PlainPartner t) (leaf d ctx whole)
      (leafMeaning (a.fieldReading t) d ctx whole) := by
  apply Realizes.bind
  · exact Evaluation.realizes_ofQuery
      ((Database.fieldFor_realizes (situated d ctx) ctx.projection).mono plainPartner_situated)
  · intro field _
    cases field.single? with
    | some s => exact Evaluation.realizes_ofExcept _
    | none => exact Realizes.error

def PlainPartners (t : ComponentTable) (ds : List (Descriptor α)) : Prop :=
  ∀ d ∈ ds, d.PlainPartner t

mutual

theorem eval_realizes :
    ∀ (e : Expr α) (ctx : Context α) (whole : Bool),
      Realizes (Database.Coherent a t) (PlainPartners t e.fields) (e.eval ctx whole)
        (e.meaning (a.fieldReading t) ctx whole)
  | .constant x, ctx, whole => Realizes.ok
  | .field d, ctx, whole =>
    (leaf_realizes d ctx whole).mono fun h => h d (List.mem_singleton.mpr rfl)
  | .call name args, ctx, whole => by
    rw [eval, meaning]
    apply Realizes.bind (Evaluation.realizes_ofExcept _)
    intro op _
    cases op.action.class with
    | series =>
      apply Realizes.bind (evalSeries_realizes args _ _)
      intro members _
      exact Evaluation.realizes_ofExcept _
    | _ =>
      apply Realizes.bind (evalArgs_realizes args _ _)
      intro values _
      exact Evaluation.realizes_ofExcept _

theorem evalSeries_realizes :
    ∀ (es : List (Expr α)) (ctx : Context α) (whole : Bool),
      Realizes (Database.Coherent a t) (PlainPartners t (fieldsAll es)) (evalSeries es ctx whole)
        (seriesMeaning (a.fieldReading t) es ctx whole)
  | [], ctx, whole => Realizes.ok
  | e :: es, ctx, whole => by
    rw [evalSeries, seriesMeaning]
    apply Realizes.mapM
    intro minutes _
    exact (eval_realizes e (ctx.shifted minutes) whole).mono
      fun h d hd => h d (List.mem_append_left _ hd)

theorem evalArgs_realizes :
    ∀ (es : List (Expr α)) (ctx : Context α) (whole : Nat → Bool),
      Realizes (Database.Coherent a t) (PlainPartners t (fieldsAll es)) (evalArgs es ctx whole)
        (argsMeaning (a.fieldReading t) es ctx whole)
  | [], ctx, whole => Realizes.ok
  | e :: es, ctx, whole => by
    rw [evalArgs, argsMeaning]
    apply Realizes.bind
    · exact (eval_realizes e ctx (whole 0)).mono fun h d hd => h d (List.mem_append_left _ hd)
    intro v _
    apply Realizes.bind
    · exact (evalArgs_realizes es ctx fun i => whole (i + 1)).mono
        fun h d hd => h d (List.mem_append_right _ hd)
    intro vs _
    exact Realizes.ok

end

/-- Over a coherent database evaluation comes to the meaning over the readings of its archive: every
value is that of the meaning, and every error too if partners are plain. -/
theorem evaluate_realizes (e : Expr α) (ctx : Context α) :
    Realizes (Database.Coherent a t) (PlainPartners t e.fields) (e.evaluate ctx)
      (e.checkedMeaning (a.fieldReading t) ctx) := by
  apply Realizes.bind (Evaluation.realizes_ofExcept _)
  intro _ _
  exact eval_realizes e ctx false

end Expr

end Synoptic
