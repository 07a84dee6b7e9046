import Synoptic.Evaluation
import Synoptic.Proofs.Commutation
import Synoptic.Proofs.Sampling.Arithmetic

namespace Synoptic

def Value.sampledIn {α : Type} [Number α] (ctx : Context α) :
    Value α → Except (ValueError α) (Value α)
  | .spline s => Expr.sampled s ctx false
  | v => .ok v

inductive OnPoints (points : Array (Point ℝ)) : Value ℝ → (Point ℝ → ℝ) → Prop
  | number (k : ℝ) : OnPoints points (.scalar k) fun _ => k
  | samples (f : Point ℝ → ℝ) : OnPoints points (.samples (.ofFn points f)) f

namespace OnPoints

variable {points : Array (Point ℝ)} {v w : Value ℝ} {f g : Point ℝ → ℝ}

theorem not_isField (h : OnPoints points v f) : v.isField = false := by
  cases h <;> rfl

theorem pointOperand_eq (h : OnPoints points v f) (op : String) (g : Point ℝ → ℝ) :
    pointOperand op (.ofFn points g) v = .ok (pointwiseOperand v) := by
  cases h with
  | number k => rfl
  | samples f => exact if_pos (Samples.samePoints_of_eq rfl fun p _ => ⟨by simp, by simp⟩)

theorem elem_eq (h : OnPoints points v f) {i : Nat} (hi : i < points.size) :
    (pointwiseOperand v).elem i = f points[i] := by
  cases h with
  | number k => rfl
  | samples f => simp [pointwiseOperand, Operand.elem, Samples.ofFn, Number.read, hi]

theorem align_eq (hv : OnPoints points v f) (hw : OnPoints points w g)
    (hsamples : (v.isSamples || w.isSamples) = true) (op : String) (ctx : Context ℝ) :
    align op [v, w] ctx = .ok ⟨.points points, [pointwiseOperand v, pointwiseOperand w]⟩ := by
  have hfield : [v, w].find? (·.isField) = none := by
    simp [List.find?, hv.not_isField, hw.not_isField]
  have hfirst : ∃ f, [v, w].find? (·.isSamples) = some (.samples (.ofFn points f)) := by
    cases hv with
    | samples f => exact ⟨f, rfl⟩
    | number k =>
      cases hw with
      | samples g => exact ⟨g, rfl⟩
      | number l => cases hsamples
  obtain ⟨first, hfirst⟩ := hfirst
  simp only [align, hfield, hfirst, List.mapM_cons, List.mapM_nil, hv.pointOperand_eq op first,
    hw.pointOperand_eq op first, ok_bind]
  rfl

theorem combine_eq {op : BinaryOp} (hv : OnPoints points v f) (hw : OnPoints points w g)
    (hsamples : (v.isSamples || w.isSamples) = true)
    (hdivisor : op.checkDivisor (pointwiseOperand w) = .ok ()) (ctx : Context ℝ) :
    op.combine v w ctx = .ok (.samples (.ofFn points fun p => op.eval (f p) (g p))) := by
  have hcombine : op.combine v w ctx = BinaryOp.combine.combineAligned op ctx v w := by
    cases hv <;> cases hw <;> rfl
  have hvalues : (Array.range points.size).map (fun i =>
      op.eval ((pointwiseOperand v).elem i) ((pointwiseOperand w).elem i)) =
        points.map fun p => op.eval (f p) (g p) := by
    apply Array.ext
    · simp
    · intro i hi hi'
      have hi : i < points.size := by simpa using hi
      simp [hv.elem_eq hi, hw.elem_eq hi]
  simp only [hcombine, BinaryOp.combine.combineAligned, hv.align_eq hw hsamples op.name ctx, ok_bind,
    List.getD_cons_succ, List.getD_cons_zero, hdivisor]
  simp only [Samples.ofFn, ← hvalues]
  rfl

end OnPoints

/-- A value that has, all over this map, the values of a function. -/
inductive OnMap (projection : Projection ℝ) : Value ℝ → (Point ℝ → ℝ) → Prop
  | number (k : ℝ) : OnMap projection (.scalar k) fun _ => k
  | surface (s : Spline ℝ) (hs : s.Usable) (h : s.projection = projection) :
    OnMap projection (.spline s) s.valueAt

section Sampling

variable {ctx : Context ℝ}

theorem Spline.sampledIn_points {s : Spline ℝ} (hs : s.Usable) {points : Array (Point ℝ)}
    (hctx : ctx.points = some points) :
    Value.sampledIn ctx (.spline s) = .ok (.samples (.ofFn points fun p =>
      s.valueAt (ctx.projection.transfer p s.projection))) := by
  simp only [Value.sampledIn, Expr.sampled, hctx, ensureUsable, if_pos hs]
  rfl

theorem Value.sampledIn_whole (hctx : ctx.points = none) (v : Value ℝ) : v.sampledIn ctx = .ok v := by
  cases v with
  | spline s => simp only [sampledIn, Expr.sampled, hctx]
  | _ => rfl

theorem OnMap.sampledIn_points {projection : Projection ℝ} {v : Value ℝ} {f : Point ℝ → ℝ}
    (h : OnMap projection v f) {points : Array (Point ℝ)} (hctx : ctx.points = some points) :
    ∃ w, v.sampledIn ctx = .ok w ∧
      OnPoints points w (fun p => f (ctx.projection.transfer p projection)) ∧
        w.isSamples = v.isField := by
  cases h with
  | number k => exact ⟨_, rfl, .number k, rfl⟩
  | surface s hs h =>
    subst h
    exact ⟨_, Spline.sampledIn_points hs hctx, .samples _, rfl⟩

end Sampling

namespace BinaryOp

/-- The operands combine in every context to a surface with the values of this function, which is
sampled to what the sampled operands combine to. -/
def ComesTo (op : BinaryOp) (left right : Value ℝ) (f : Point ℝ → ℝ) : Prop :=
  ∃ r : Spline ℝ, (∀ ctx, op.combine left right ctx = .ok (.spline r)) ∧ (∀ p, r.valueAt p = f p) ∧
    ∀ ctx, Value.sampledIn ctx (.spline r) = do
      op.combine (← left.sampledIn ctx) (← right.sampledIn ctx) ctx

def Divides (op : BinaryOp) (w : Value ℝ) : Prop :=
  op.rejectsZero = true → ∃ k ≠ 0, w = .scalar k

variable {op : BinaryOp}

theorem Divides.checkDivisor_eq {w w' : Value ℝ} (h : op.Divides w) {ctx : Context ℝ}
    (hw : w.sampledIn ctx = .ok w') : op.checkDivisor (pointwiseOperand w') = .ok () := by
  cases hop : op.rejectsZero with
  | false => exact checkDivisor_ok hop _
  | true =>
    obtain ⟨k, hk, rfl⟩ := h hop
    cases hw
    simp [checkDivisor, pointwiseOperand, Operand.hasZero, hk]

section ComesTo

variable {v w : Value ℝ} {f g : Point ℝ → ℝ} {r : Spline ℝ}

theorem comesTo (hv : OnMap r.projection v f) (hw : OnMap r.projection w g)
    (hfield : (v.isField || w.isField) = true) (hdivides : op.Divides w) (hr : r.Usable)
    (hcombine : ∀ ctx, op.combine v w ctx = .ok (.spline r))
    (hvalue : ∀ p, r.valueAt p = op.eval (f p) (g p)) :
    op.ComesTo v w fun p => op.eval (f p) (g p) := by
  refine ⟨r, hcombine, hvalue, fun ctx => ?_⟩
  cases hctx : ctx.points with
  | none =>
    rw [Value.sampledIn_whole hctx v, Value.sampledIn_whole hctx w, Value.sampledIn_whole hctx]
    exact (hcombine ctx).symm
  | some points =>
    obtain ⟨v', hv', hvs, hvfield⟩ := hv.sampledIn_points hctx
    obtain ⟨w', hw', hws, hwfield⟩ := hw.sampledIn_points hctx
    have hsamples : (v'.isSamples || w'.isSamples) = true := by rw [hvfield, hwfield, hfield]
    simp only [hv', hw', ok_bind, hvs.combine_eq hws hsamples (hdivides.checkDivisor_eq hw') ctx,
      Spline.sampledIn_points hr hctx, hvalue]

end ComesTo

variable {p q : Spline ℝ} (hp : p.Usable)

include hp

theorem comesTo_surfaces (h : op = .plus ∨ op = .minus) (hq : q.Usable)
    (hpq : q = { p with coeffs := q.coeffs }) :
    op.ComesTo (.spline p) (.spline q) fun x => op.eval (p.valueAt x) (q.valueAt x) := by
  have hshape : p.columns = q.columns ∧ p.rows = q.rows := by rw [hpq]; exact ⟨rfl, rfl⟩
  have hprojection : q.projection = p.projection := by rw [hpq]
  have hplace : p.SamePlace q := by
    rw [hpq]
    exact ⟨rfl, rfl, rfl, (Projection.sameMap_iff _ _).mpr ⟨rfl, rfl⟩⟩
  have hzero : op.rejectsZero = false := by obtain rfl | rfl := h <;> rfl
  apply comesTo (r := Spline.zipCoeffs op.eval p q) (.surface p hp rfl) (.surface q hq hprojection) rfl
    (fun hop => nomatch hop.symm.trans hzero) (Spline.usable_zipCoeffs hp hq hshape _)
  · intro ctx
    simp only [combine, Spline.sameShape_iff.mpr hshape, if_true, checkDivisor_ok hzero, ok_bind]
  · exact valueAt_surfaces h hp hq hshape hplace

theorem comesTo_surface_number (h : op = .plus ∨ op = .minus ∨ op = .multiply ∨ op = .divide)
    {k : ℝ} (hk : op.rejectsZero = true → k ≠ 0) :
    op.ComesTo (.spline p) (.scalar k) fun x => op.eval (p.valueAt x) k := by
  have hdivides : op.Divides (.scalar k) := fun hop => ⟨k, hk hop, rfl⟩
  apply comesTo (r := p.mapCoeffs fun c => op.eval c k) (.surface p hp rfl) (.number k) rfl hdivides
    (Spline.usable_mapCoeffs hp _)
  · intro ctx
    have hwhole : Value.sampledIn ctx (.scalar k) = .ok (.scalar k) := rfl
    have hdivisor : op.checkDivisor (.const k) = .ok () := hdivides.checkDivisor_eq hwhole
    simp only [combine, hdivisor, ok_bind]
  · exact valueAt_surface_number h hp k

theorem comesTo_number_surface (h : op = .plus ∨ op = .minus ∨ op = .multiply) (k : ℝ) :
    op.ComesTo (.scalar k) (.spline p) fun x => op.eval k (p.valueAt x) := by
  have hzero : op.rejectsZero = false := by obtain rfl | rfl | rfl := h <;> rfl
  apply comesTo (r := p.mapCoeffs fun c => op.eval k c) (.number k) (.surface p hp rfl) rfl
    (fun hop => nomatch hop.symm.trans hzero) (Spline.usable_mapCoeffs hp _)
  · intro ctx
    simp only [combine, checkDivisor_ok hzero, ok_bind]
  · exact valueAt_number_surface h hp k

/-- Linear arithmetic of surfaces that differ in their coefficients only, and of a surface and a
number, is arithmetic of the values at every position of the map. -/
theorem combine_linear (hq : q.Usable) (hpq : q = { p with coeffs := q.coeffs }) (k : ℝ) :
    (plus.ComesTo (.spline p) (.spline q) fun x => p.valueAt x + q.valueAt x) ∧
      (minus.ComesTo (.spline p) (.spline q) fun x => p.valueAt x - q.valueAt x) ∧
      (plus.ComesTo (.spline p) (.scalar k) fun x => p.valueAt x + k) ∧
      (plus.ComesTo (.scalar k) (.spline p) fun x => k + p.valueAt x) ∧
      (minus.ComesTo (.spline p) (.scalar k) fun x => p.valueAt x - k) ∧
      (minus.ComesTo (.scalar k) (.spline p) fun x => k - p.valueAt x) ∧
      (multiply.ComesTo (.spline p) (.scalar k) fun x => k * p.valueAt x) ∧
      (multiply.ComesTo (.scalar k) (.spline p) fun x => k * p.valueAt x) ∧
      (k ≠ 0 → divide.ComesTo (.spline p) (.scalar k) fun x => p.valueAt x / k) := by
  have hswap : (fun x => k * p.valueAt x) = fun x => multiply.eval (p.valueAt x) k :=
    funext fun x => mul_comm k (p.valueAt x)
  refine ⟨comesTo_surfaces hp (.inl rfl) hq hpq, comesTo_surfaces hp (.inr rfl) hq hpq,
    comesTo_surface_number hp (.inl rfl) nofun, comesTo_number_surface hp (.inl rfl) k,
    comesTo_surface_number hp (.inr (.inl rfl)) nofun,
    comesTo_number_surface hp (.inr (.inl rfl)) k, ?_,
    comesTo_number_surface hp (.inr (.inr rfl)) k, fun hk =>
    comesTo_surface_number hp (.inr (.inr (.inr rfl))) fun _ => hk⟩
  rw [hswap]
  exact comesTo_surface_number hp (.inr (.inr (.inl rfl))) nofun

end BinaryOp

namespace Spline

noncomputable def rising (slope value : ℝ) : Spline ℝ :=
  (ramp .standard).mapCoeffs fun c => slope * c + value

theorem rising_usable (slope value : ℝ) : (rising slope value).Usable :=
  usable_mapCoeffs (ramp_usable _) _

theorem valueAt_rising_origin (slope value : ℝ) : (rising slope value).valueAt .origin = value := by
  rw [rising, valueAt_mapCoeffs (ramp_usable _), valueAt_ramp_origin, mul_zero, zero_add]

end Spline

theorem BinaryOp.combine_linear_rising :
    (Spline.rising 1 3).Usable ∧ (Spline.rising 2 1).Usable ∧
      Spline.rising 2 1 = { Spline.rising 1 3 with coeffs := (Spline.rising 2 1).coeffs } ∧
      (2 : ℝ) ≠ 0 ∧
      (∃ r, (∀ ctx, plus.combine (.spline (.rising 1 3)) (.spline (.rising 2 1)) ctx =
        .ok (.spline r)) ∧ r.valueAt .origin = 4) ∧
      ∃ r, (∀ ctx, divide.combine (.spline (.rising 1 3)) (.scalar 2) ctx = .ok (.spline r)) ∧
        r.valueAt .origin = 3 / 2 := by
  obtain ⟨⟨sum, hsum, hsumAt, _⟩, _, _, _, _, _, _, _, hdivide⟩ :=
    combine_linear (Spline.rising_usable 1 3) (Spline.rising_usable 2 1) rfl 2
  obtain ⟨half, hhalf, hhalfAt, _⟩ := hdivide two_ne_zero
  refine ⟨Spline.rising_usable 1 3, Spline.rising_usable 2 1, rfl, two_ne_zero, ⟨sum, hsum, ?_⟩,
    half, hhalf, ?_⟩
  · simp only [hsumAt, Spline.valueAt_rising_origin]
    norm_num
  · simp only [hhalfAt, Spline.valueAt_rising_origin]

end Synoptic
