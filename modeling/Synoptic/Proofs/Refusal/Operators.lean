import Synoptic.Proofs.Typing.Operators

namespace Synoptic

variable {α β γ : Type}

def ValueError.IsArity : ValueError α → Prop
  | .arity .. => True
  | _ => False

/-- Whatever goes wrong, it is not the number of arguments. -/
def Accepting (r : Except (ValueError α) β) : Prop :=
  Yields r (fun _ => True) fun e => ¬ e.IsArity

namespace Accepting

theorem ok {b : β} : Accepting (.ok b : Except (ValueError α) β) := Yields.ok trivial

theorem error {e : ValueError α} (h : ¬ e.IsArity) : Accepting (.error e : Except _ β) :=
  Yields.error h

theorem bind {r : Except (ValueError α) β} {f : β → Except (ValueError α) γ} (h : Accepting r)
    (hf : ∀ b, Accepting (f b)) : Accepting (r >>= f) :=
  Yields.bind h fun b _ => hf b

theorem map {r : Except (ValueError α) β} {f : β → γ} (h : Accepting r) : Accepting (f <$> r) :=
  Yields.map h

theorem mapM {f : γ → Except (ValueError α) β} (h : ∀ c, Accepting (f c)) (l : List γ) :
    Accepting (l.mapM f) :=
  (Yields.mapM (P := fun _ _ => True) fun c _ => h c).forget

end Accepting

variable [Number α]

theorem Context.defaultGrid_accepting (ctx : Context α) : Accepting ctx.defaultGrid := by
  rw [defaultGrid]
  split
  · split
    · exact .ok
    · exact .error id
  · exact .error id

theorem Spline.ensureUsable_accepting (op : String) (s : Spline α) :
    Accepting (s.ensureUsable op) := by
  rw [ensureUsable]
  split
  · exact .ok
  · exact .error id

theorem Spline.fit_accepting (g : Grid α) (origin : Point α) (projection : Projection α) :
    Accepting (Spline.fit g origin projection) := by
  rw [Spline.fit]
  split
  · exact .ok
  · exact .error id

theorem splineToGrid_accepting (s : Spline α) (ctx : Context α) : Accepting (splineToGrid s ctx) :=
  ctx.defaultGrid_accepting.bind fun _ => (s.ensureUsable_accepting _).bind fun _ => .ok

theorem gridToSpline_accepting (g : Grid α) (ctx : Context α) : Accepting (gridToSpline g ctx) :=
  ctx.defaultGrid_accepting.bind fun _ => Spline.fit_accepting ..

theorem normalizeGrid_accepting (g : Grid α) (ctx : Context α) :
    Accepting (normalizeGrid g ctx) := by
  have hon : Accepting (onDefaultGrid g ctx) := ctx.defaultGrid_accepting.bind fun _ => .ok
  apply hon.bind
  intro b
  split
  · exact .ok
  · exact (gridToSpline_accepting g ctx).bind fun s => splineToGrid_accepting s ctx

theorem gridOf_accepting (op : String) (ctx : Context α) (v : Value α) :
    Accepting (gridOf op ctx v) := by
  cases v with
  | scalar x => exact .ok
  | grid g => exact .ok
  | spline s => exact (splineToGrid_accepting s ctx).map
  | samples s => exact .error id

theorem normalizeGrid?_accepting (ctx : Context α) (g : Option (Grid α)) :
    Accepting (normalizeGrid? ctx g) := by
  cases g with
  | none => exact .ok
  | some g => exact (normalizeGrid_accepting g ctx).map

theorem alignGrids_accepting (op : String) (values : List (Value α)) (ctx : Context α) :
    Accepting (alignGrids op values ctx) := by
  have hcommon : ∀ grids, Accepting (commonShape ctx grids) := by
    intro grids
    rw [commonShape]
    split
    · exact .ok
    · exact .mapM (normalizeGrid?_accepting ctx) grids
  apply (Accepting.mapM (gridOf_accepting op ctx) values).bind
  intro grids
  apply (hcommon grids).bind
  intro grids
  split
  · exact .error id
  · exact .ok

theorem pointOperand_accepting (op : String) (first : Samples α) (v : Value α) :
    Accepting (pointOperand op first v) := by
  cases v with
  | scalar x => exact .ok
  | samples s =>
    simp only [pointOperand]
    split
    · exact .ok
    · exact .error id
  | grid g => exact .error id
  | spline s => exact .error id

theorem align_accepting (op : String) (values : List (Value α)) (ctx : Context α) :
    Accepting (align op values ctx) := by
  rw [align]
  split
  · exact .error id
  · exact (Accepting.mapM (pointOperand_accepting op _) values).bind fun _ => .ok
  · exact alignGrids_accepting op values ctx
  · exact .ok

namespace BinaryOp

theorem checkDivisor_accepting (op : BinaryOp) (divisor : Operand α) :
    Accepting (op.checkDivisor divisor) := by
  rw [checkDivisor]
  split
  · exact .error id
  · exact .ok

theorem combine_accepting (op : BinaryOp) (left right : Value α) (ctx : Context α) :
    Accepting (op.combine left right ctx) := by
  have haligned : Accepting (combine.combineAligned op ctx left right) :=
    (align_accepting op.name [left, right] ctx).bind fun _ =>
      (op.checkDivisor_accepting _).bind fun _ => .ok
  simp only [combine]
  split
  · exact (op.checkDivisor_accepting _).bind fun _ => .ok
  · exact (op.checkDivisor_accepting _).bind fun _ => .ok
  · split
    · exact (op.checkDivisor_accepting _).bind fun _ => .ok
    · exact haligned
  · exact haligned

end BinaryOp

theorem sample_accepting (ctx : Context α) (f : Point α → α) : Accepting (sample ctx f) := by
  rw [sample]
  split
  · exact .ok
  · exact ctx.defaultGrid_accepting.bind fun _ => .ok

theorem differentiate_accepting (op : String) (value : Value α) (ctx : Context α)
    (f : Derivatives α → α) : Accepting (differentiate op value ctx f) := by
  have hdifferentiand : Accepting (differentiand op value ctx) := by
    cases value with
    | scalar x => exact .ok
    | samples s => exact .ok
    | grid g => exact (gridToSpline_accepting g ctx).map
    | spline s =>
      simp only [differentiand]
      split
      · exact .ok
      · exact .error id
  apply hdifferentiand.bind
  intro d
  cases d with
  | zero value => exact .ok
  | surface s => exact sample_accepting ctx _

theorem ddx_accepting (value : Value α) (ctx : Context α) : Accepting (ddx value ctx) := by
  rw [ddx_eq]
  exact differentiate_accepting "ddx" value ctx _

theorem ddy_accepting (value : Value α) (ctx : Context α) : Accepting (ddy value ctx) := by
  rw [ddy_eq]
  exact differentiate_accepting "ddy" value ctx _

theorem divergence_accepting (u v : Value α) (ctx : Context α) :
    Accepting (divergence u v ctx) :=
  (ddx_accepting u ctx).bind fun _ => (ddy_accepting v ctx).bind fun _ =>
    BinaryOp.plus.combine_accepting ..

theorem advection_accepting (f u v : Value α) (ctx : Context α) :
    Accepting (advection f u v ctx) := by
  apply (ddx_accepting f ctx).bind
  intro dx
  apply (BinaryOp.multiply.combine_accepting u dx ctx).bind
  intro alongX
  apply (ddy_accepting f ctx).bind
  intro dy
  apply (BinaryOp.multiply.combine_accepting v dy ctx).bind
  intro alongY
  apply (BinaryOp.plus.combine_accepting alongX alongY ctx).bind
  intro total
  exact BinaryOp.multiply.combine_accepting ..

theorem onGrid_accepting (ctx : Context α) (v : Value α) : Accepting (onGrid ctx v) := by
  cases v with
  | scalar x => exact .ok
  | grid g => exact (normalizeGrid_accepting g ctx).map
  | spline s => exact (splineToGrid_accepting s ctx).map
  | samples s => exact .ok

theorem tendency_accepting (times : List α) (members : List (Value α)) (ctx : Context α) :
    Accepting (tendency times members ctx) := by
  rw [tendency]
  dsimp only
  split
  · exact .error id
  split
  · exact .error id
  split
  · exact .error id
  split
  · exact .error id
  · apply Accepting.bind (Accepting.mapM (fun sample : α × Value α => onGrid_accepting ctx sample.2) _)
    intro values
    exact (align_accepting "ddt" values ctx).bind fun _ => .ok

omit [Number α] in
theorem pressureOf_accepting (role : LevelRole) (level : Option (Level α)) :
    Accepting (pressureOf role level) := by
  simp only [pressureOf]
  split
  · exact .ok
  · exact .error id

namespace Operator

omit [Number α] in
theorem checkArity_of_length {op : Operator α} {count : Nat} (h : count = op.arity) :
    op.checkArity count = .ok () := if_pos h

theorem call_field {op : Operator α} {args : List (Value α)} {ctx : Context α}
    {run : List (Value α) → Context α → Except (ValueError α) (Value α)}
    (hrun : op.action = .field run) (h : args.length = op.arity) :
    op.call args ctx = run args ctx := by
  rw [call, hrun, checkArity_of_length h]
  rfl

namespace Form

theorem call_accepting {op : Operator α} (h : op.Form) {args : List (Value α)} (ctx : Context α)
    (hlength : args.length = op.arity) : Accepting (op.call args ctx) := by
  cases h with
  | arithmetic op signature doc =>
    rw [call_field rfl hlength]
    match args, hlength with
    | [left, right], _ => exact op.combine_accepting left right ctx
  | range name signature doc f =>
    rw [call_field rfl hlength]
    match args, hlength with
    | [x, lo, hi], _ => exact (align_accepting name [x, lo, hi] ctx).bind fun _ => .ok
  | derivative name signature doc f =>
    rw [call_field rfl hlength]
    match args, hlength with
    | [x], _ => exact differentiate_accepting name x ctx _
  | divergence signature doc =>
    rw [call_field rfl hlength]
    match args, hlength with
    | [u, v], _ => exact divergence_accepting u v ctx
  | advection signature doc =>
    rw [call_field rfl hlength]
    match args, hlength with
    | [f, u, v], _ => exact advection_accepting f u v ctx
  | tendency signature doc => exact tendency_accepting ctx.offsets args ctx
  | place name signature doc f h =>
    rw [call_field rfl hlength]
    match args, hlength with
    | [], _ => exact sample_accepting ctx _
  | pressure name signature doc role =>
    rw [call_field rfl hlength]
    match args, hlength with
    | [], _ => exact pressureOf_accepting role _
  | elementary name f =>
    have hcheck := checkArity_of_length hlength
    simp only [call, Synoptic.elementary] at hcheck ⊢
    rw [hcheck]
    exact (align_accepting name args ctx).bind fun _ => .ok
  | vapour signature doc =>
    rw [call_field rfl hlength]
    match args, hlength with
    | [x], _ =>
      apply (align_accepting "svprs" [x] ctx).bind
      intro aligned
      split
      · exact .error id
      · exact .ok

theorem callSeries_accepting {op : Operator α} (h : op.Form) (hs : op.action.class = .series)
    (times : List α) (members : List (Value α)) (ctx : Context α) :
    Accepting (op.callSeries times members ctx) := by
  cases h with
  | tendency signature doc => exact tendency_accepting times members ctx
  | _ => cases hs

end Form

end Operator

end Synoptic
