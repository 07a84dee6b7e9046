import Mathlib.Analysis.Calculus.ContDiff.Deriv
import Mathlib.Analysis.Calculus.ContDiff.Operations
import Mathlib.Analysis.InnerProductSpace.Basic
import Synoptic.Proofs.Gradient

namespace Synoptic

noncomputable def partials (f : Point ℝ → ℝ) (p : Point ℝ) : Derivatives ℝ where
  value := f p
  fx := alongX f p
  fy := alongY f p
  fxx := alongX (alongX f) p
  fxy := alongX (alongY f) p
  fyy := alongY (alongY f) p

namespace Spline

section Weights

theorem basis₂_eq (t : ℝ) : basis₂ t =
    ⟨-1 * t + 1, 3 * t + -2, -3 * t + 1, 1 * t + 0⟩ := by
  simp only [basis₂, Number.real_one, Weights.mk.injEq]
  refine ⟨?_, ?_, ?_, ?_⟩ <;> ring

theorem hasDerivAt_square (a b c t : ℝ) :
    HasDerivAt (fun t => a * t ^ 2 + b * t + c) (2 * a * t + b) t := by
  have hsquare := (hasDerivAt_pow 2 t).const_mul a
  have hline := (hasDerivAt_id' t).const_mul b
  apply ((hsquare.add hline).add_const c).congr_deriv
  norm_num
  ring

theorem basis₁_smooth : Weights.Smooth basis₁ basis₂ where
  hasDerivAt t cell k := by
    apply Weights.hasDerivAt_spread
    all_goals
      simp only [basis₁_eq, basis₂_eq]
      exact (hasDerivAt_square ..).congr_deriv (by ring)
  continues cell k := by
    simp only [basis₁_eq, Weights.spread]
    norm_num
  slope_continues cell k := by
    simp only [basis₂_eq, Weights.spread]
    norm_num

theorem continuous_spread_basis₂ (cell k : Nat) :
    Continuous fun t => (basis₂ t).spread cell k := by
  simp only [Weights.spread, basis₂_eq]
  exact (((Continuous.if_const _ (by fun_prop) (by fun_prop)).add
    (Continuous.if_const _ (by fun_prop) (by fun_prop))).add
    (Continuous.if_const _ (by fun_prop) (by fun_prop))).add
    (Continuous.if_const _ (by fun_prop) (by fun_prop))

theorem Weights.Smooth.continuous_slope {w w' : ℝ → Weights ℝ} (h : Smooth w w')
    (hw' : ∀ cell k, Continuous fun t => (w' t).spread cell k) (n k : Nat) :
    Continuous (weightAt w' n k) := by
  have hcell : ∀ u, weightAt w' n k u = (w' (u - (locate u n).1)).spread (locate u n).1 k := by
    intro u
    rw [weightAt, locate_snd]
  rw [funext hcell]
  apply continuous_pieces (F := fun m u => (w' (u - m)).spread m k)
  · exact fun m => (hw' m k).comp (continuous_id.sub continuous_const)
  · intro m
    simp [h.slope_continues]

theorem contDiff_weightAt_basis (n k : Nat) : ContDiff ℝ 2 (weightAt basis n k) := by
  have hslope : deriv (weightAt basis n k) = weightAt basis₁ n k :=
    funext fun u => (basis_smooth.hasDerivAt_weightAt n k u).deriv
  have hbend : deriv (weightAt basis₁ n k) = weightAt basis₂ n k :=
    funext fun u => (basis₁_smooth.hasDerivAt_weightAt n k u).deriv
  rw [show (2 : WithTop ℕ∞) = 1 + 1 by norm_num, contDiff_succ_iff_deriv, hslope]
  refine ⟨fun u => (basis_smooth.hasDerivAt_weightAt n k u).differentiableAt, by simp, ?_⟩
  rw [contDiff_one_iff_deriv, hbend]
  exact ⟨fun u => (basis₁_smooth.hasDerivAt_weightAt n k u).differentiableAt,
    basis₁_smooth.continuous_slope continuous_spread_basis₂ n k⟩

end Weights

theorem contDiff_toNodes (s : Spline ℝ) :
    ContDiff ℝ 2 (fun z : ℝ × ℝ => (s.toNodes ⟨z.1, z.2⟩).1) ∧
      ContDiff ℝ 2 fun z : ℝ × ℝ => (s.toNodes ⟨z.1, z.2⟩).2 := by
  have hdx : ContDiff ℝ 2 fun z : ℝ × ℝ => z.1 - s.origin.x := contDiff_fst.sub contDiff_const
  have hdy : ContDiff ℝ 2 fun z : ℝ × ℝ => z.2 - s.origin.y := contDiff_snd.sub contDiff_const
  exact ⟨((hdx.mul contDiff_const).add (hdy.mul contDiff_const)).div_const _,
    ((hdx.neg.mul contDiff_const).add (hdy.mul contDiff_const)).div_const _⟩

section Surface

variable {s : Spline ℝ} (hs : s.Usable)

include hs

theorem contDiff_valueAt : ContDiff ℝ 2 fun z : ℝ × ℝ => s.valueAt ⟨z.1, z.2⟩ := by
  obtain ⟨hu, hv⟩ := contDiff_toNodes s
  have hvalue : ∀ z : ℝ × ℝ, s.valueAt ⟨z.1, z.2⟩ =
      s.weightedAt basis basis (s.toNodes ⟨z.1, z.2⟩).1 (s.toNodes ⟨z.1, z.2⟩).2 := fun _ => rfl
  simp only [hvalue, weightedAt_eq_sum hs]
  refine ContDiff.sum fun l _ => ContDiff.sum fun k _ => ?_
  exact ((contDiff_weightAt_basis _ l).comp hv).mul
    (((contDiff_weightAt_basis _ k).comp hu).mul contDiff_const)

section Curve

variable {x y : ℝ → ℝ} {x' y' t : ℝ} (hx : HasDerivAt x x' t) (hy : HasDerivAt y y' t)

include hx hy

theorem hasDerivAt_fx : HasDerivAt (fun t => (s.derivativesAt ⟨x t, y t⟩).fx)
    ((s.derivativesAt ⟨x t, y t⟩).fxx * x' + (s.derivativesAt ⟨x t, y t⟩).fxy * y') t := by
  obtain ⟨hu, hv⟩ := hasDerivAt_toNodes (s := s) hx hy
  have hfu := hasDerivAt_weightedAt hs basis₁_smooth basis_smooth hu hv
  have hfv := hasDerivAt_weightedAt hs basis_smooth basis₁_smooth hu hv
  apply (((hfu.const_mul (Number.cos (Number.toRadians s.orientation))).sub
    (hfv.const_mul (Number.sin (Number.toRadians s.orientation)))).div_const s.cell).congr_deriv
  simp only [derivativesAt, weightedAt]
  ring

theorem hasDerivAt_fy : HasDerivAt (fun t => (s.derivativesAt ⟨x t, y t⟩).fy)
    ((s.derivativesAt ⟨x t, y t⟩).fxy * x' + (s.derivativesAt ⟨x t, y t⟩).fyy * y') t := by
  obtain ⟨hu, hv⟩ := hasDerivAt_toNodes (s := s) hx hy
  have hfu := hasDerivAt_weightedAt hs basis₁_smooth basis_smooth hu hv
  have hfv := hasDerivAt_weightedAt hs basis_smooth basis₁_smooth hu hv
  apply (((hfu.const_mul (Number.sin (Number.toRadians s.orientation))).add
    (hfv.const_mul (Number.cos (Number.toRadians s.orientation)))).div_const s.cell).congr_deriv
  simp only [derivativesAt, weightedAt]
  ring

end Curve

section Point

variable (p : Point ℝ)

theorem alongX_alongX_valueAt : alongX (alongX s.valueAt) p = (s.derivativesAt p).fxx := by
  have h := hasDerivAt_fx hs (hasDerivAt_id' p.x) (hasDerivAt_const p.x p.y)
  rw [mul_one, mul_zero, add_zero] at h
  rw [funext (alongX_valueAt hs)]
  exact h.deriv

theorem alongX_alongY_valueAt : alongX (alongY s.valueAt) p = (s.derivativesAt p).fxy := by
  have h := hasDerivAt_fy hs (hasDerivAt_id' p.x) (hasDerivAt_const p.x p.y)
  rw [mul_one, mul_zero, add_zero] at h
  rw [funext (alongY_valueAt hs)]
  exact h.deriv

theorem alongY_alongX_valueAt : alongY (alongX s.valueAt) p = (s.derivativesAt p).fxy := by
  have h := hasDerivAt_fx hs (hasDerivAt_const p.y p.x) (hasDerivAt_id' p.y)
  rw [mul_one, mul_zero, zero_add] at h
  rw [funext (alongX_valueAt hs)]
  exact h.deriv

theorem alongY_alongY_valueAt : alongY (alongY s.valueAt) p = (s.derivativesAt p).fyy := by
  have h := hasDerivAt_fy hs (hasDerivAt_const p.y p.x) (hasDerivAt_id' p.y)
  rw [mul_one, mul_zero, zero_add] at h
  rw [funext (alongY_valueAt hs)]
  exact h.deriv

theorem derivativesAt_eq_partials : s.derivativesAt p = partials s.valueAt p := by
  rw [partials, alongX_valueAt hs, alongY_valueAt hs, alongX_alongX_valueAt hs,
    alongX_alongY_valueAt hs, alongY_alongY_valueAt hs]
  rfl

end Point

/-- A surface is twice continuously differentiable over the whole of its map, however it is placed,
turned and scaled, and what is computed at a position is its value and its partial derivatives along
the axes of the map. The mixed one is the same in either order. -/
theorem contDiff_valueAt_derivativesAt :
    (ContDiff ℝ 2 fun z : ℝ × ℝ => s.valueAt ⟨z.1, z.2⟩) ∧
      ∀ p, s.derivativesAt p = partials s.valueAt p ∧
        (s.derivativesAt p).fxy = alongY (alongX s.valueAt) p :=
  ⟨contDiff_valueAt hs,
    fun p => ⟨derivativesAt_eq_partials hs p, (alongY_alongX_valueAt hs p).symm⟩⟩

end Surface

namespace Saddle

noncomputable def surface (orientation : ℝ) : Spline ℝ :=
  ⟨5, 4, tabulate 5 4 fun i j => ((i : ℝ) - 1) * ((j : ℝ) - 1), .origin, orientation, 1, .standard⟩

theorem usable (orientation : ℝ) : (surface orientation).Usable :=
  ⟨Nat.le_succ 4, le_rfl, by simp [surface], size_tabulate ..⟩

theorem coeff_surface (orientation : ℝ) {i j : Nat} (hi : i < 5) (hj : j < 4) :
    (surface orientation).coeff i j = ((i : ℝ) - 1) * ((j : ℝ) - 1) := by
  have hread := read_tabulate (fun i j : Nat => ((i : ℝ) - 1) * ((j : ℝ) - 1))
    (Grid.index_lt hi hj)
  rwa [Grid.index_mod hi, Grid.index_div hi] at hread

theorem angle : Number.toRadians (surface 90).orientation = Real.pi / 2 := by
  simp only [surface, Number.toRadians, Number.real_pi]
  ring

theorem toNodes : (surface 90).toNodes ⟨0, 1⟩ = (1, 0) := by
  simp only [Spline.toNodes, angle, Number.real_sin, Number.real_cos, Real.sin_pi_div_two,
    Real.cos_pi_div_two]
  simp [surface, Point.origin]

theorem locate_one : locate (1 : ℝ) 3 = (1, 0) := by
  have hcell : (locate (1 : ℝ) 3).1 = 1 := locate_eq_iff.mpr (by norm_num)
  exact Prod.ext hcell (by rw [locate_snd, hcell]; simp)

end Saddle

theorem contDiff_valueAt_derivativesAt_saddle :
    (Saddle.surface 90).Usable ∧
      (ContDiff ℝ 2 fun z : ℝ × ℝ => (Saddle.surface 90).valueAt ⟨z.1, z.2⟩) ∧
      alongX (alongY (Saddle.surface 90).valueAt) ⟨0, 1⟩ = -1 ∧
      alongY (alongX (Saddle.surface 90).valueAt) ⟨0, 1⟩ = -1 := by
  obtain ⟨hsmooth, h⟩ := contDiff_valueAt_derivativesAt (Saddle.usable 90)
  obtain ⟨hpartials, hmixed⟩ := h ⟨0, 1⟩
  have hfxy : ((Saddle.surface 90).derivativesAt ⟨0, 1⟩).fxy = -1 := by
    have hcolumns : (Saddle.surface 90).columns - 2 = 3 := rfl
    simp only [derivativesAt, Saddle.toNodes, Saddle.angle, hcolumns, Saddle.locate_one, locate_zero,
      Number.real_sin, Number.real_cos, Real.sin_pi_div_two, Real.cos_pi_div_two]
    simp only [weighted, rowSum, Nat.reduceAdd, Saddle.coeff_surface, basis₁_eq, Nat.reduceLT,
      Number.real_zero]
    norm_num [Saddle.surface]
  refine ⟨Saddle.usable 90, hsmooth, ?_, hmixed.symm.trans hfxy⟩
  exact (congrArg Derivatives.fxy hpartials).symm.trans hfxy

end Spline

end Synoptic
