import Synoptic.Proofs.Addition
import Synoptic.Proofs.Alignment.Family
import Synoptic.Proofs.Gradient

/-!
Curvature of isolines and the units of a field, in exact arithmetic. A field that is multiplied by a
positive number has the same isolines, and their curvature is the same as long as the gradient is flat
in both units or in none: what counts as flat is a bound on the gradient in the units of the field.
-/

namespace Synoptic

namespace Derivatives

variable {α : Type} [Number α]

def times (k : α) (d : Derivatives α) : Derivatives α where
  value := k * d.value
  fx := k * d.fx
  fy := k * d.fy
  fxx := k * d.fxx
  fxy := k * d.fxy
  fyy := k * d.fyy

def steepness (d : Derivatives α) : α := d.fx * d.fx + d.fy * d.fy

def turning (d : Derivatives α) : α :=
  d.fxx * d.fy * d.fy - 2 * d.fxy * d.fx * d.fy + d.fyy * d.fx * d.fx

/-- The gradient is so small that no curvature is computed. -/
def Flat (d : Derivatives α) : Prop := d.steepness ≤ 1 / 4503599627370496

theorem steepness_times (k : ℝ) (d : Derivatives ℝ) :
    (d.times k).steepness = k ^ 2 * d.steepness := by
  simp only [steepness, times]
  ring

theorem turning_times (k : ℝ) (d : Derivatives ℝ) : (d.times k).turning = k ^ 3 * d.turning := by
  simp only [turning, times]
  ring

/-- In other units the gradient is flat as well or is not either, or isolines are straight. -/
def KeepsCurvature (k : α) (d : Derivatives α) : Prop :=
  ((d.times k).Flat ↔ d.Flat) ∨ d.turning = 0

variable {k : ℝ} {d : Derivatives ℝ}

theorem flat_iff : d.Flat ↔ d.steepness ≤ 2⁻¹ ^ 52 := by
  rw [Flat, Number.real_one]
  norm_num

theorem steepness_pos (h : ¬ d.Flat) : 0 < d.steepness := by
  rw [flat_iff, not_le] at h
  exact lt_trans (by positivity) h

theorem turning_div_times (hk : 0 < k) (hd : 0 < d.steepness) :
    (d.times k).turning / (d.times k).steepness ^ (3 / 2 : ℝ) =
      d.turning / d.steepness ^ (3 / 2 : ℝ) := by
  have hpow : (k ^ 2) ^ (3 / 2 : ℝ) = k ^ 3 := by
    rw [← Real.rpow_natCast, ← Real.rpow_natCast, ← Real.rpow_mul hk.le]
    norm_num
  rw [turning_times, steepness_times, Real.mul_rpow (sq_nonneg k) hd.le, hpow,
    mul_div_mul_left _ _ (pow_pos hk 3).ne']

end Derivatives

namespace Spline

open Derivatives

variable {k : ℝ} {d : Derivatives ℝ}

theorem isolineCurvature_flat (h : d.Flat) : isolineCurvature d = 0 := by
  rw [isolineCurvature]
  exact (if_pos h).trans Number.real_zero

theorem isolineCurvature_steep (h : ¬ d.Flat) :
    isolineCurvature d = d.turning / d.steepness ^ (3 / 2 : ℝ) := by
  rw [isolineCurvature]
  refine (if_neg h).trans (congrArg (d.turning / d.steepness ^ ·) ?_)
  exact (by norm_num : (1.5 : ℝ) = 3 / 2)

theorem isolineCurvature_eq_zero_iff : isolineCurvature d = 0 ↔ d.Flat ∨ d.turning = 0 := by
  by_cases h : d.Flat
  · exact iff_of_true (isolineCurvature_flat h) (.inl h)
  · rw [isolineCurvature_steep h, div_eq_zero_iff, or_iff_left
      (Real.rpow_pos_of_pos (steepness_pos h) _).ne', or_iff_right h]

theorem isolineCurvature_times_iff (hk : 0 < k) :
    isolineCurvature (d.times k) = isolineCurvature d ↔ d.KeepsCurvature k := by
  rw [KeepsCurvature, Number.real_zero]
  have hturning : (d.times k).turning = 0 ↔ d.turning = 0 := by
    rw [turning_times, mul_eq_zero, or_iff_right (pow_pos hk 3).ne']
  by_cases h : d.Flat
  · rw [isolineCurvature_flat h, isolineCurvature_eq_zero_iff, hturning, iff_true_right h]
  · by_cases h' : (d.times k).Flat
    · rw [isolineCurvature_flat h', eq_comm, isolineCurvature_eq_zero_iff, or_iff_right h,
        or_iff_right (mt (fun heq => heq.mp h') h)]
    · rw [isolineCurvature_steep h, isolineCurvature_steep h',
        turning_div_times hk (steepness_pos h)]
      exact iff_of_true rfl (.inl (iff_of_false h' h))

/-! ### Surfaces -/

theorem weighted_times {s : Spline ℝ} (hs : s.Usable) (k : ℝ) {i j : Nat} (hi : i + 3 < s.columns)
    (hj : j + 3 < s.rows) (wu wv : Weights ℝ) :
    (s.mapCoeffs (k * ·)).weighted i j wu wv = k * s.weighted i j wu wv := by
  have hrow : ∀ l ≤ 3, (s.mapCoeffs (k * ·)).rowSum i (j + l) wu = k * s.rowSum i (j + l) wu := by
    intro l hl
    have hline := rowSum_mapCoeffs hs k 0 hi (show j + l < s.rows by omega) wu
    simpa only [add_zero, zero_mul] using hline
  have h0 := hrow 0 (by omega)
  simp only [weighted, Nat.add_zero, Number.real_zero] at h0 ⊢
  rw [h0, hrow 1 (by omega), hrow 2 (by omega), hrow 3 (by omega)]
  ring

theorem derivativesAt_times {s : Spline ℝ} (hs : s.Usable) (k : ℝ) (p : Point ℝ) :
    (s.mapCoeffs (k * ·)).derivativesAt p = (s.derivativesAt p).times k := by
  have hweighted := weighted_times hs k (locate_add_lt (s.toNodes p).1 hs.1)
    (locate_add_lt (s.toNodes p).2 hs.2.1)
  have hnodes : (s.mapCoeffs (k * ·)).toNodes p = s.toNodes p := rfl
  simp only [derivativesAt, times, hnodes, show (s.mapCoeffs (k * ·)).columns = s.columns from rfl,
    show (s.mapCoeffs (k * ·)).rows = s.rows from rfl, hweighted,
    show (s.mapCoeffs (k * ·)).orientation = s.orientation from rfl,
    show (s.mapCoeffs (k * ·)).cell = s.cell from rfl, Derivatives.mk.injEq]
  refine ⟨trivial, ?_, ?_, ?_, ?_, ?_⟩ <;> ring

theorem fitCoeffs_times {g : Grid ℝ} (h : Fittable g) (k : ℝ) :
    fitCoeffs (g.map (k * ·)) = (fitCoeffs g).map (k * ·) := by
  obtain ⟨hx, hy, _, hdata⟩ := fittable_iff.mp h
  have hfit := surfaceFit_fitted hx hy .origin 0 .standard
  have hlinear := hfit.linear hfit k 0
  simp only [zero_mul, add_zero] at hlinear
  have hget : ∀ ix < g.nx, ∀ iy < g.ny, k * g.get ix iy = (g.map (k * ·)).get ix iy :=
    fun ix hix iy hiy => (read_map (hdata ▸ Grid.index_lt hix hiy) (k * ·)).symm
  rw [fitCoeffs_eq (g := g.map (k * ·)) hx hy (hlinear.congr hget), fitCoeffs_eq hx hy hfit,
    map_tabulate]
  rfl

theorem fit_times (g : Grid ℝ) (k : ℝ) (origin : Point ℝ) (projection : Projection ℝ) :
    fit (g.map (k * ·)) origin projection =
      (fit g origin projection).map (mapCoeffs (k * ·)) := by
  have hfittable : Fittable (g.map (k * ·)) ↔ Fittable g := by
    simp only [Fittable, Grid.map, Array.size_map]
  by_cases h : Fittable g
  · rw [fit_of_fittable h, fit_of_fittable (hfittable.mpr h)]
    simp only [fitted, fitCoeffs_times h]
    rfl
  · rw [fit, fit, if_neg h, if_neg (mt hfittable.mp h)]
    rfl

end Spline

/-! ### Values -/

noncomputable def Value.times (k : ℝ) : Value ℝ → Value ℝ
  | .scalar x => .scalar (k * x)
  | .grid g => .grid (g.map (k * ·))
  | .spline s => .spline (s.mapCoeffs (k * ·))
  | .samples s => .samples (s.map (k * ·))

section Product

variable {k : ℝ} {operands : List (Operand ℝ)} {f : List ℝ → ℝ}

theorem apply_grid_times {g : Grid ℝ} (hg : g.WellFormed)
    (hf : ∀ i, f (operands.map (·.elem i)) = k * Number.read g.data i) :
    Aligned.apply ⟨.grid g.spec, operands⟩ f = Value.times k (.grid g) := by
  rw [Aligned.apply_grid]
  refine congrArg Value.grid (Grid.eq_ofFn (g := g.map (k * ·)) ?_ rfl fun ix hix iy hiy => ?_).symm
  · exact (Array.size_map ..).trans hg
  · exact (Spline.read_map (hg ▸ Grid.index_lt hix hiy) _).trans (hf _).symm

theorem apply_points_times {s : Samples ℝ} (hs : s.values.size = s.points.size)
    (hf : ∀ i, f (operands.map (·.elem i)) = k * Number.read s.values i) :
    Aligned.apply ⟨.points s.points, operands⟩ f = Value.times k (.samples s) := by
  refine congrArg (fun xs => Value.samples ⟨s.points, xs⟩) ?_
  apply Array.ext
  · simp [Layout.size, hs]
  · intro i _ hi
    have hi : i < s.values.size := by simpa using hi
    rw [Array.getElem_map, Array.getElem_map, Array.getElem_range]
    exact (hf i).trans (by simp [Number.read, hi])

theorem pointOperand_self (op : String) (s : Samples ℝ) :
    pointOperand op s (.samples s) = .ok (.data s.values) :=
  if_pos (Samples.samePoints_of_eq rfl fun p _ => ⟨by simp, by simp⟩)

theorem align_samples_number (op : String) (s : Samples ℝ) (k : ℝ) (ctx : Context ℝ) :
    align op [.samples s, .scalar k] ctx = .ok ⟨.points s.points, [.data s.values, .const k]⟩ ∧
      align op [.scalar k, .samples s] ctx = .ok ⟨.points s.points, [.const k, .data s.values]⟩ := by
  constructor <;>
  · simp only [align, List.find?, Value.isField, Value.isSamples, List.mapM_cons, List.mapM_nil,
      pointOperand_self]
    rfl

theorem combine_times {v : Value ℝ} (hv : v.Whole) (k : ℝ) (ctx : Context ℝ) :
    BinaryOp.multiply.combine v (.scalar k) ctx = .ok (v.times k) ∧
      BinaryOp.multiply.combine (.scalar k) v ctx = .ok (v.times k) := by
  cases v with
  | scalar x =>
    exact ⟨congrArg (Except.ok ∘ Value.scalar)
        ((read_map_range Nat.one_pos _).trans (mul_comm x k)),
      congrArg (Except.ok ∘ Value.scalar) (read_map_range Nat.one_pos _)⟩
  | grid g =>
    exact ⟨congrArg Except.ok (apply_grid_times hv fun i => mul_comm _ k),
      congrArg Except.ok (apply_grid_times hv fun i => rfl)⟩
  | spline s =>
    have hswap : (BinaryOp.multiply.eval · k) = (k * · : ℝ → ℝ) := funext fun c => mul_comm c k
    exact ⟨congrArg (fun f => Except.ok (Value.spline (s.mapCoeffs f))) hswap, rfl⟩
  | samples s =>
    obtain ⟨hright, hleft⟩ := align_samples_number BinaryOp.multiply.name s k ctx
    constructor
    · change BinaryOp.combine.combineAligned _ _ _ _ = _
      rw [BinaryOp.combine.combineAligned, hright]
      exact congrArg Except.ok (apply_points_times hv fun i => mul_comm _ k)
    · change BinaryOp.combine.combineAligned _ _ _ _ = _
      rw [BinaryOp.combine.combineAligned, hleft]
      exact congrArg Except.ok (apply_points_times hv fun i => rfl)

end Product

/-! ### Curvature of a field -/

def Differentiand.times (k : ℝ) : Differentiand ℝ → Differentiand ℝ
  | .zero value => .zero value
  | .surface s => .surface (s.mapCoeffs (k * ·))

theorem differentiand_times (op : String) (v : Value ℝ) (k : ℝ) (ctx : Context ℝ) :
    differentiand op (v.times k) ctx = (differentiand op v ctx).map (Differentiand.times k) := by
  cases v with
  | scalar x => rfl
  | grid g =>
    rw [Value.times, differentiand, differentiand, gridToSpline, gridToSpline]
    cases ctx.defaultGrid with
    | error e => rfl
    | ok grid =>
      rw [ok_bind, ok_bind, Spline.fit_times]
      cases Spline.fit g .origin ctx.projection <;> rfl
  | spline s =>
    have husable : (s.mapCoeffs (k * ·)).Usable ↔ s.Usable := by
      simp only [Spline.Usable, Spline.mapCoeffs, Array.size_map]
    rw [Value.times, differentiand, differentiand]
    by_cases hs : s.Usable
    · rw [if_pos hs, if_pos (husable.mpr hs)]
      rfl
    · rw [if_neg hs, if_neg (mt husable.mp hs)]
      rfl
  | samples s =>
    simp only [Value.times, differentiand, Samples.map, Array.map_map, Function.comp_def]
    rfl

theorem usable_of_differentiand {op : String} {v : Value ℝ} {ctx : Context ℝ} {s : Spline ℝ}
    (h : differentiand op v ctx = .ok (.surface s)) : s.Usable := by
  cases v with
  | scalar x => cases h
  | samples t => cases h
  | grid g =>
    rw [differentiand, gridToSpline] at h
    cases hgrid : ctx.defaultGrid with
    | error e =>
      rw [hgrid] at h
      cases h
    | ok grid =>
      rw [hgrid, ok_bind, Spline.fit] at h
      split at h
      · rename_i hfittable
        cases h
        exact Spline.through_usable hfittable ctx.projection
      · cases h
  | spline t =>
    rw [differentiand] at h
    split at h
    · cases h
      assumption
    · cases h

theorem sample_eq_iff {α : Type} [Number α] {ctx : Context α} {f g : Point α → α} :
    sample ctx f = sample ctx g ↔ ∀ ps, ctx.positions = .ok ps → ∀ p ∈ ps, f p = g p := by
  rw [sample, sample, Context.positions]
  cases ctx.points with
  | some points =>
    simp only [Except.ok.injEq, forall_eq', Value.samples.injEq, Samples.ofFn, Samples.mk.injEq,
      true_and, Array.map_inj_left]
  | none =>
    cases ctx.defaultGrid with
    | error e =>
      refine iff_of_true rfl ?_
      rintro ps ⟨⟩
    | ok grid =>
      simp only [ok_bind, Except.ok.injEq, forall_eq', Value.grid.injEq, Grid.ofFn, Grid.mk.injEq,
        true_and]
      rw [← map_tabulate, ← map_tabulate, Array.map_inj_left]
      rfl

theorem curvature_times_iff {k : ℝ} (hk : 0 < k) (v : Value ℝ) (ctx : Context ℝ) :
    curvature (v.times k) ctx = curvature v ctx ↔
      ∀ s ps, differentiand "curv" v ctx = .ok (.surface s) → ctx.positions = .ok ps →
        ∀ p ∈ ps, ctx.unitFactor = 0 ∨
          (s.derivativesAt (ctx.projection.transfer p s.projection)).KeepsCurvature k := by
  rw [curvature, curvature, differentiate, differentiate, differentiand_times]
  cases h : differentiand "curv" v ctx with
  | error e =>
    refine iff_of_true rfl ?_
    rintro s ps ⟨⟩
  | ok d =>
    cases d with
    | zero value =>
      refine iff_of_true rfl ?_
      rintro s ps ⟨⟩
    | surface s =>
      have hs := usable_of_differentiand h
      have hpoint : ∀ p, Spline.isolineCurvature ((s.mapCoeffs (k * ·)).derivativesAt p) *
            ctx.unitFactor = Spline.isolineCurvature (s.derivativesAt p) * ctx.unitFactor ↔
          ctx.unitFactor = 0 ∨ (s.derivativesAt p).KeepsCurvature k := by
        intro p
        rw [mul_eq_mul_right_iff, Spline.derivativesAt_times hs,
          Spline.isolineCurvature_times_iff hk, or_comm]
      refine sample_eq_iff.trans ⟨?_, ?_⟩
      · rintro hsame t ps ⟨⟩ hps p hp
        exact (hpoint _).mp (hsame ps hps p hp)
      · intro hkeeps ps hps p hp
        exact (hpoint _).mpr (hkeeps s ps rfl hps p hp)

/-- Curvature and units. In other units the derivatives at a point have the same curvature exactly if
the gradient is flat in both units or in none, or isolines are straight, and the curvature is zero
exactly if the gradient is flat or they are straight. A field brought to other units by a product has
the same curvature exactly if this is so wherever it is asked for. -/
theorem curvature_of_units {k : ℝ} (hk : 0 < k) (d : Derivatives ℝ) {v : Value ℝ}
    (hv : v.Whole) (ctx : Context ℝ) :
    (Spline.isolineCurvature (d.times k) = Spline.isolineCurvature d ↔ d.KeepsCurvature k) ∧
      (Spline.isolineCurvature d = 0 ↔ d.fx * d.fx + d.fy * d.fy ≤ 2⁻¹ ^ 52 ∨ d.turning = 0) ∧
      BinaryOp.multiply.combine v (.scalar k) ctx = .ok (v.times k) ∧
      BinaryOp.multiply.combine (.scalar k) v ctx = .ok (v.times k) ∧
      (curvature (v.times k) ctx = curvature v ctx ↔
        ∀ s ps, differentiand "curv" v ctx = .ok (.surface s) → ctx.positions = .ok ps →
          ∀ p ∈ ps, ctx.unitFactor = 0 ∨
            (s.derivativesAt (ctx.projection.transfer p s.projection)).KeepsCurvature k) := by
  obtain ⟨hright, hleft⟩ := combine_times hv k ctx
  refine ⟨Spline.isolineCurvature_times_iff hk, ?_, hright, hleft, curvature_times_iff hk v ctx⟩
  rw [Spline.isolineCurvature_eq_zero_iff, Derivatives.flat_iff]
  rfl

theorem curvature_of_units_ramp :
    (Value.spline Halved.surface).Whole ∧ (0 : ℝ) < 2 ∧
      ((Halved.surface.derivativesAt ⟨0, 0⟩).KeepsCurvature 2) ∧
      ∃ v, BinaryOp.multiply.combine (.spline Halved.surface) (.scalar 2) Halved.context = .ok v ∧
        curvature v Halved.context = curvature (.spline Halved.surface) Halved.context := by
  have hrise : (Halved.surface.derivativesAt ⟨0, 0⟩).fx = 1 := by
    rw [← Spline.alongX_valueAt Halved.usable, Halved.alongX_valueAt]
  have hsteep : ∀ d : Derivatives ℝ, 1 ≤ d.fx → ¬ d.Flat := by
    intro d hd
    rw [Derivatives.flat_iff, not_le]
    have hsquare := mul_le_mul hd hd zero_le_one (zero_le_one.trans hd)
    calc
      (2⁻¹ : ℝ) ^ 52 < 1 * 1 := by norm_num
      _ ≤ d.fx * d.fx + d.fy * d.fy := le_add_of_le_of_nonneg hsquare (mul_self_nonneg _)
  have hkeeps : (Halved.surface.derivativesAt ⟨0, 0⟩).KeepsCurvature 2 := by
    refine .inl (iff_of_false (hsteep _ ?_) (hsteep _ hrise.ge))
    change 1 ≤ 2 * (Halved.surface.derivativesAt ⟨0, 0⟩).fx
    rw [hrise]
    norm_num
  have hwhole : (Value.spline Halved.surface).Whole := trivial
  obtain ⟨_, _, hproduct, _, hcurvature⟩ :=
    curvature_of_units two_pos (Halved.surface.derivativesAt ⟨0, 0⟩) hwhole Halved.context
  refine ⟨hwhole, two_pos, hkeeps, _, hproduct, hcurvature.mpr ?_⟩
  intro s ps hs hps p hp
  rw [differentiand, if_pos Halved.usable] at hs
  cases hs
  cases Halved.positions.symm.trans hps
  obtain rfl : p = ⟨0, 0⟩ := by simpa using hp
  have htransfer := Halved.transfer_eventually.self_of_nhds
  rw [zero_div] at htransfer
  rw [htransfer]
  exact .inr hkeeps

namespace Faint

def derivatives (rise : ℝ) : Derivatives ℝ := ⟨0, rise, 0, 0, 0, rise⟩

theorem times_derivatives (k rise : ℝ) :
    (derivatives rise).times k = derivatives (k * rise) := by
  simp [derivatives, Derivatives.times]

theorem steepness_derivatives (rise : ℝ) : (derivatives rise).steepness = rise ^ 2 := by
  simp [derivatives, Derivatives.steepness, pow_two]

end Faint

/-- Where the field rises by little the isolines have no curvature, and in smaller units of the field
they have that of the circle. -/
theorem curvature_of_units_ne :
    (Faint.derivatives (2⁻¹ ^ 30)).fx ≠ 0 ∧
      Spline.isolineCurvature (Faint.derivatives (2⁻¹ ^ 30)) = 0 ∧
      Spline.isolineCurvature ((Faint.derivatives (2⁻¹ ^ 30)).times (2 ^ 30)) = 1 := by
  refine ⟨pow_ne_zero 30 (inv_ne_zero two_ne_zero), Spline.isolineCurvature_flat ?_, ?_⟩
  · rw [Derivatives.flat_iff, Faint.steepness_derivatives]
    norm_num
  · have hunits : (2 : ℝ) ^ 30 * 2⁻¹ ^ 30 = 1 := by norm_num
    have hsteep : ¬ (Faint.derivatives 1).Flat := by
      rw [Derivatives.flat_iff, Faint.steepness_derivatives]
      norm_num
    rw [Faint.times_derivatives, hunits, Spline.isolineCurvature_steep hsteep,
      Faint.steepness_derivatives]
    norm_num [Faint.derivatives, Derivatives.turning]

end Synoptic
