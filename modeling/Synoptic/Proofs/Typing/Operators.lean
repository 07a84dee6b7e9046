import Synoptic.Proofs.Catalogue
import Synoptic.Proofs.Typing.Alignment

namespace Synoptic

variable {α : Type} [Number α]

theorem Aligned.yields_apply {op : String} {ctx : Context α} {values : List (Value α)}
    (hv : ∀ v ∈ values, v.Fits ctx) (f : List α → α) :
    Yields (do let aligned ← align op values ctx; .ok (aligned.apply f))
      (·.Fits ctx) (·.Allowed ctx) := by
  apply Yields.bind (align_yields hv)
  intro aligned h
  exact apply_fits h f

namespace BinaryOp

theorem checkDivisor_yields (op : BinaryOp) (divisor : Operand α) (ctx : Context α) :
    Yields (op.checkDivisor divisor) (fun _ => True) (·.Allowed ctx) := by
  rw [checkDivisor]
  split
  · exact fun _ => id
  · trivial

theorem combineAligned_yields (op : BinaryOp) {ctx : Context α} {left right : Value α}
    (hl : left.Fits ctx) (hr : right.Fits ctx) :
    Yields (combine.combineAligned op ctx left right) (·.Fits ctx) (·.Allowed ctx) := by
  have hv : ∀ v ∈ [left, right], v.Fits ctx := by simp [hl, hr]
  apply Yields.bind (align_yields hv)
  intro aligned h
  apply Yields.bind (op.checkDivisor_yields _ ctx)
  intro _ _
  exact Aligned.apply_fits h _

theorem combine_yields (op : BinaryOp) {ctx : Context α} {left right : Value α}
    (hl : left.Fits ctx) (hr : right.Fits ctx) :
    Yields (op.combine left right ctx) (·.Fits ctx) (·.Allowed ctx) := by
  simp only [combine]
  split
  · apply Yields.bind (op.checkDivisor_yields _ ctx)
    intro _ _
    exact hr
  · apply Yields.bind (op.checkDivisor_yields _ ctx)
    intro _ _
    exact hl
  · split
    · apply Yields.bind (op.checkDivisor_yields _ ctx)
      intro _ _
      exact hl
    · exact op.combineAligned_yields hl hr
  · exact op.combineAligned_yields hl hr

end BinaryOp

theorem sample_yields (ctx : Context α) (f : Point α → α) :
    Yields (sample ctx f) (·.Fits ctx) (·.Allowed ctx) := by
  rw [sample]
  split
  · rename_i points hp
    exact ⟨hp, by simp [Samples.ofFn]⟩
  · rename_i hp
    apply Yields.bind ((defaultGrid_yields ctx).mono (fun _ => id) fun _ h _ => h)
    intro grid hg
    exact ⟨hp, hg, size_tabulate ..⟩

def Differentiand.Fits (ctx : Context α) : Differentiand α → Prop
  | .zero value => value.Fits ctx
  | .surface _ => True

theorem differentiand_yields (op : String) {value : Value α} {ctx : Context α}
    (h : value.Fits ctx.withoutPoints) :
    Yields (differentiand op value ctx) (·.Fits ctx) (·.Allowed ctx) := by
  -- A derivative needs whole fields only, whether or not its context has points: samples are no
  -- whole field, and a surface is differentiated where the context asks.
  cases value with
  | scalar x => trivial
  | samples s => cases h.1
  | grid g =>
    apply Yields.map
    exact (gridToSpline_yields g ctx).mono (fun _ h => h) fun _ h _ => h
  | spline s =>
    simp only [differentiand]
    split
    · trivial
    · exact fun _ => id

theorem differentiate_yields (op : String) {value : Value α} {ctx : Context α}
    (h : value.Fits ctx.withoutPoints) (f : Derivatives α → α) :
    Yields (differentiate op value ctx f) (·.Fits ctx) (·.Allowed ctx) := by
  apply Yields.bind (differentiand_yields op h)
  intro d hd
  cases d with
  | zero value => exact hd
  | surface s => exact sample_yields ctx _

theorem ddx_eq (value : Value α) (ctx : Context α) :
    ddx value ctx = differentiate "ddx" value ctx fun d => d.fx * ctx.unitFactor := rfl

theorem ddy_eq (value : Value α) (ctx : Context α) :
    ddy value ctx = differentiate "ddy" value ctx fun d => d.fy * ctx.unitFactor := rfl

theorem ddx_yields {ctx : Context α} {value : Value α} (h : value.Fits ctx.withoutPoints) :
    Yields (ddx value ctx) (·.Fits ctx) (·.Allowed ctx) := by
  rw [ddx_eq]
  exact differentiate_yields "ddx" h _

theorem ddy_yields {ctx : Context α} {value : Value α} (h : value.Fits ctx.withoutPoints) :
    Yields (ddy value ctx) (·.Fits ctx) (·.Allowed ctx) := by
  rw [ddy_eq]
  exact differentiate_yields "ddy" h _

theorem divergence_yields {ctx : Context α} {u v : Value α} (hu : u.Fits ctx.withoutPoints)
    (hv : v.Fits ctx.withoutPoints) :
    Yields (divergence u v ctx) (·.Fits ctx) (·.Allowed ctx) := by
  apply Yields.bind (ddx_yields hu)
  intro du hdu
  apply Yields.bind (ddy_yields hv)
  intro dv hdv
  exact BinaryOp.plus.combine_yields hdu hdv

theorem advection_yields {ctx : Context α} {f u v : Value α} (hf : f.Fits ctx.withoutPoints)
    (hu : u.Fits ctx) (hv : v.Fits ctx) :
    Yields (advection f u v ctx) (·.Fits ctx) (·.Allowed ctx) := by
  apply Yields.bind (ddx_yields hf)
  intro dx hdx
  apply Yields.bind (BinaryOp.multiply.combine_yields hu hdx)
  intro alongX hx
  apply Yields.bind (ddy_yields hf)
  intro dy hdy
  apply Yields.bind (BinaryOp.multiply.combine_yields hv hdy)
  intro alongY hy
  apply Yields.bind (BinaryOp.plus.combine_yields hx hy)
  intro total ht
  exact BinaryOp.multiply.combine_yields ht (by trivial)

theorem onGrid_yields {ctx : Context α} {v : Value α} (h : v.Fits ctx) :
    Yields (onGrid ctx v) (·.Fits ctx) (·.Allowed ctx) := by
  cases v with
  | scalar x => trivial
  | samples s => exact h
  | grid g =>
    apply Yields.map
    exact (normalizeGrid_yields h.2).mono (fun _ hg => ⟨h.1, hg⟩) fun _ he _ => he
  | spline s =>
    apply Yields.map
    exact (splineToGrid_yields s ctx).mono (fun _ hg => ⟨h, hg⟩) fun _ he _ => he

theorem tendency_yields (times : List α) {ctx : Context α} {members : List (Value α)}
    (h : ∀ v ∈ members, v.Fits ctx) :
    Yields (tendency times members ctx) (·.Fits ctx) (·.Allowed ctx) := by
  rw [tendency]
  dsimp only
  split
  · exact fun _ => id
  split
  · exact fun _ => id
  split
  · exact fun _ => id
  split
  · exact fun _ => id
  apply Yields.bind (P := fun values => ∀ v ∈ values, v.Fits ctx)
  · apply Yields.mono (Yields.mapM (P := fun _ v => v.Fits ctx) _) _ fun _ => id
    · rintro ⟨t, v⟩ hm
      exact onGrid_yields (h v (List.of_mem_zip (List.mem_mergeSort.mp hm)).2)
    · intro values hvalues v hm
      exact (exists_left_of_forall₂ hvalues hm).choose_spec.2
  · intro values hvalues
    exact Aligned.yields_apply hvalues _

theorem pressureOf_yields (role : LevelRole) (level : Option (Level α)) (ctx : Context α) :
    Yields (pressureOf role level) (·.Fits ctx) (·.Allowed ctx) := by
  simp only [pressureOf]
  split
  · trivial
  · exact fun _ => id

/-- Each argument has the forms of a context, or those of whole fields where they are wanted. -/
def ArgumentsFit (ctx : Context α) : (Nat → Bool) → List (Value α) → Prop
  | _, [] => True
  | whole, v :: vs =>
    v.Fits (Expr.callContext ctx (whole 0)) ∧ ArgumentsFit ctx (fun i => whole (i + 1)) vs

theorem ArgumentsFit.pointwise {ctx : Context α} :
    ∀ {values : List (Value α)} {whole : Nat → Bool}, ArgumentsFit ctx whole values →
      (∀ i < values.length, whole i = false) → ∀ v ∈ values, v.Fits ctx
  | [], _, _, _ => by simp
  | u :: us, whole, h, hw => by
    intro v hv
    cases hv with
    | head =>
      have h' := h.1
      rw [hw 0 (Nat.succ_pos _)] at h'
      exact h'
    | tail _ hv =>
      exact ArgumentsFit.pointwise h.2 (fun i hi => hw (i + 1) (Nat.succ_lt_succ hi)) v hv

namespace Operator

/-- An operator keeps the forms of a context, given arguments at the points or as whole fields, as
it takes them. -/
def Sound (op : Operator α) : Prop :=
  ∀ (ctx : Context α) (args : List (Value α)),
    ArgumentsFit ctx (fun i => !op.acceptsPointwise i) args →
      Yields (op.call args ctx) (·.Fits ctx) (·.Allowed ctx)

def SeriesSound (op : Operator α) : Prop :=
  ∀ (ctx : Context α) (times : List α) (members : List (Value α)),
    (∀ v ∈ members, v.Fits (Expr.callContext ctx (!op.acceptsPointwise 0))) →
      Yields (op.callSeries times members ctx) (·.Fits ctx) (·.Allowed ctx)

theorem checkArity_yields (op : Operator α) (got : Nat) (ctx : Context α) :
    Yields (op.checkArity got) (fun _ => got = op.arity) (·.Allowed ctx) := by
  rw [checkArity]
  split
  · assumption
  · exact fun _ => id

theorem sound_of_field {name signature doc : String} {pointwise : List Bool}
    {run : List (Value α) → Context α → Except (ValueError α) (Value α)}
    (h : ∀ ctx args, ArgumentsFit ctx (fun i => !pointwise.getD i true) args →
      args.length = pointwise.length → Yields (run args ctx) (·.Fits ctx) (·.Allowed ctx)) :
    Sound (α := α) ⟨name, signature, doc, pointwise, .field run⟩ := by
  intro ctx args hargs
  apply Yields.bind (checkArity_yields _ args.length ctx)
  intro _ hlength
  exact h ctx args hargs hlength

namespace Form

theorem sound {op : Operator α} (h : op.Form) (hs : op.action.class ≠ .series) : op.Sound := by
  cases h with
  | arithmetic op signature doc =>
    apply sound_of_field
    intro ctx args hargs hlength
    match args, hlength with
    | [left, right], _ => exact op.combine_yields hargs.1 hargs.2.1
  | range name signature doc f =>
    apply sound_of_field
    intro ctx args hargs hlength
    match args, hlength with
    | [x, lo, hi], _ =>
      have hv : ∀ v ∈ [x, lo, hi], v.Fits ctx :=
        hargs.pointwise (show ∀ i < 3, (!([true, true, true].getD i true)) = false by decide)
      exact Aligned.yields_apply hv _
  | derivative name signature doc f =>
    apply sound_of_field
    intro ctx args hargs hlength
    match args, hlength with
    | [x], _ => exact differentiate_yields name hargs.1 _
  | divergence signature doc =>
    apply sound_of_field
    intro ctx args hargs hlength
    match args, hlength with
    | [u, v], _ => exact divergence_yields hargs.1 hargs.2.1
  | advection signature doc =>
    apply sound_of_field
    intro ctx args hargs hlength
    match args, hlength with
    | [f, u, v], _ => exact advection_yields hargs.1 hargs.2.1 hargs.2.2.1
  | tendency signature doc => cases hs rfl
  | place name signature doc f h =>
    apply sound_of_field
    intro ctx args hargs hlength
    match args, hlength with
    | [], _ => exact sample_yields ctx _
  | pressure name signature doc role =>
    apply sound_of_field
    intro ctx args hargs hlength
    match args, hlength with
    | [], _ => exact pressureOf_yields role _ ctx
  | elementary name f =>
    intro ctx args hargs
    apply Yields.bind (checkArity_yields _ args.length ctx)
    intro _ hlength
    match args, hlength with
    | [x], _ => exact Aligned.yields_apply (List.forall_mem_singleton.mpr hargs.1) _
  | vapour signature doc =>
    apply sound_of_field
    intro ctx args hargs hlength
    match args, hlength with
    | [x], _ =>
      apply Yields.bind (align_yields (List.forall_mem_singleton.mpr hargs.1))
      intro aligned ha
      split
      · exact fun _ => id
      · exact Aligned.apply_fits ha _

theorem seriesSound {op : Operator α} (h : op.Form) (hs : op.action.class = .series) :
    op.SeriesSound := by
  cases h with
  | tendency signature doc =>
    intro ctx times members hm
    exact tendency_yields times hm
  | _ => cases hs

end Form

end Operator

end Synoptic
