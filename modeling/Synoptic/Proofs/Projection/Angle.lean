import Synoptic.Proofs.Transfer

namespace Synoptic

namespace Number

theorem toDegrees_toRadians (x : ℝ) : toDegrees (toRadians x) = x := by
  have hpi := Real.pi_ne_zero
  simp only [toRadians, toDegrees, real_pi]
  field_simp

theorem toRadians_strictMono : StrictMono (toRadians : ℝ → ℝ) := by
  intro a b h
  have hpi := Real.pi_pos
  simp only [toRadians, real_pi]
  gcongr

theorem toRadians_mem_Ioc {a : ℝ} (h : a ∈ Set.Ioc (-180) 180) :
    toRadians a ∈ Set.Ioc (-Real.pi) Real.pi := by
  have hhalf : toRadians (180 : ℝ) = Real.pi := by
    simp only [toRadians, real_pi]
    ring
  have hback : toRadians (-180 : ℝ) = -Real.pi := by
    simp only [toRadians, real_pi]
    ring
  constructor
  · rw [← hback]
    exact toRadians_strictMono h.1
  · rw [← hhalf]
    exact toRadians_strictMono.monotone h.2

theorem toRadians_mem_Ioo {a : ℝ} (h : |a| < 90) :
    toRadians a ∈ Set.Ioo (-(Real.pi / 2)) (Real.pi / 2) := by
  have hquarter : toRadians (90 : ℝ) = Real.pi / 2 := by
    simp only [toRadians, real_pi]
    ring
  have hback : toRadians (-90 : ℝ) = -(Real.pi / 2) := by
    simp only [toRadians, real_pi]
    ring
  obtain ⟨hlower, hupper⟩ := abs_lt.mp h
  constructor
  · rw [← hback]
    exact toRadians_strictMono hlower
  · rw [← hquarter]
    exact toRadians_strictMono hupper

theorem atan2_mul_sin_cos {r θ : ℝ} (hr : 0 < r) (hθ : θ ∈ Set.Ioc (-Real.pi) Real.pi) :
    atan2 (r * Real.sin θ) (r * Real.cos θ) = θ := by
  have hpoint : (⟨r * Real.cos θ, r * Real.sin θ⟩ : ℂ) =
      r * (Complex.cos θ + Complex.sin θ * Complex.I) := by
    apply Complex.ext
    · simp [Complex.cos_ofReal_re, Complex.sin_ofReal_im]
    · simp [Complex.sin_ofReal_re, Complex.cos_ofReal_im]
  change Complex.arg ⟨r * Real.cos θ, r * Real.sin θ⟩ = θ
  rw [hpoint]
  exact Complex.arg_mul_cos_add_sin_mul_I hr hθ

theorem hypot_mul_sin_cos {r : ℝ} (hr : 0 ≤ r) (θ : ℝ) :
    hypot (r * Real.sin θ) (r * Real.cos θ) = r := by
  have hsquare : (r * Real.sin θ) ^ 2 + (r * Real.cos θ) ^ 2 = r ^ 2 := by
    linear_combination r ^ 2 * Real.sin_sq_add_cos_sq θ
  change Real.sqrt ((r * Real.sin θ) ^ 2 + (r * Real.cos θ) ^ 2) = r
  rw [hsquare, Real.sqrt_sq hr]

theorem hypot_neg_right (x y : ℝ) : hypot x (-y) = hypot x y := by
  change Real.sqrt (x ^ 2 + (-y) ^ 2) = Real.sqrt (x ^ 2 + y ^ 2)
  rw [neg_sq]

end Number

theorem two_mul_arctan_half {ψ : ℝ} (h : ψ ∈ Set.Ioo (-Real.pi) Real.pi) :
    2 * Real.arctan (Real.sin ψ / (1 + Real.cos ψ)) = ψ := by
  obtain ⟨θ, rfl⟩ : ∃ θ, ψ = 2 * θ := ⟨ψ / 2, by ring⟩
  have hlower : -(Real.pi / 2) < θ := by linarith [h.1]
  have hupper : θ < Real.pi / 2 := by linarith [h.2]
  have hcos := Real.cos_pos_of_mem_Ioo ⟨hlower, hupper⟩
  have htan : Real.sin (2 * θ) / (1 + Real.cos (2 * θ)) = Real.tan θ := by
    rw [Real.sin_two_mul, Real.cos_two_mul, Real.tan_eq_sin_div_cos]
    field_simp
    ring
  rw [htan, Real.arctan_tan hlower hupper]

end Synoptic
