import Synoptic.Proofs.Conversion
import Synoptic.Proofs.Spline.Partials

namespace Synoptic

noncomputable def bilinear (a b c d : ℝ) (p : Point ℝ) : ℝ := a + b * p.x + c * p.y + d * p.x * p.y

section Partials

variable (a b c d : ℝ)

theorem alongX_bilinear : alongX (bilinear a b c d) = bilinear b 0 d 0 := by
  funext p
  have hline := ((hasDerivAt_id' p.x).const_mul b).const_add a
  have htwist := ((hasDerivAt_id' p.x).const_mul d).mul_const p.y
  have h : HasDerivAt (fun x => bilinear a b c d ⟨x, p.y⟩) (b * 1 + d * 1 * p.y) p.x :=
    (hline.add_const (c * p.y)).add htwist
  rw [alongX, h.deriv, bilinear]
  ring

theorem alongY_bilinear : alongY (bilinear a b c d) = bilinear c d 0 0 := by
  funext p
  have hline := ((hasDerivAt_id' p.y).const_mul c).const_add (a + b * p.x)
  have h : HasDerivAt (fun y => bilinear a b c d ⟨p.x, y⟩) (c * 1 + d * p.x * 1) p.y :=
    hline.add ((hasDerivAt_id' p.y).const_mul (d * p.x))
  rw [alongY, h.deriv, bilinear]
  ring

theorem partials_bilinear (p : Point ℝ) : partials (bilinear a b c d) p =
    ⟨bilinear a b c d p, b + d * p.y, c + d * p.x, 0, d, 0⟩ := by
  simp [partials, alongX_bilinear, alongY_bilinear, bilinear]

end Partials

noncomputable def bilinearGrid (a b c d : ℝ) (spec : GridSpec ℝ) : Grid ℝ :=
  .ofFn spec fun ix iy => bilinear a b c d (spec.node ix iy)

namespace Spline

theorem surfaceFit_bilinear {nx ny : Nat} (hx : 1 ≤ nx) (hy : 1 ≤ ny) (a b c d h : ℝ) :
    SurfaceFit nx ny (fun i j => bilinear a b c d ⟨i * h, j * h⟩)
      fun j k => bilinear a b c d ⟨((j : ℝ) - 1) * h, ((k : ℝ) - 1) * h⟩ := by
  refine ⟨fun iy j => bilinear a b c d ⟨((j : ℝ) - 1) * h, iy * h⟩, fun iy _ => ?_, fun j _ => ?_⟩
  · have hrow := LineFit.line hx (a + c * (iy * h)) ((b + d * (iy * h)) * h)
    apply (hrow.congr fun i _ => ?_).congr_coeff hx fun i _ => ?_
    · simp only [bilinear]
      ring
    · simp only [bilinear]
      ring
  · have hcolumn := LineFit.line hy (a + b * (((j : ℝ) - 1) * h)) ((c + d * (((j : ℝ) - 1) * h)) * h)
    apply (hcolumn.congr fun i _ => ?_).congr_coeff hy fun i _ => ?_
    · simp only [bilinear]
      ring
    · simp only [bilinear]
      ring

section Weights

variable {s : Spline ℝ} {i j : Nat} {a b : ℝ} (t : ℝ)

theorem rowSum_line (h : ∀ k ≤ 3, s.coeff (i + k) j = a + b * ((i : ℝ) + k - 1)) :
    s.rowSum i j (basis t) = a + b * (i + t) := by
  have h0 := h 0 (by omega)
  simp only [rowSum, basis_eq, Nat.add_zero] at h0 ⊢
  rw [h0, h 1 (by omega), h 2 (by omega), h 3 (by omega)]
  push_cast
  ring

theorem weighted_line {wu : Weights ℝ}
    (h : ∀ l ≤ 3, s.rowSum i (j + l) wu = a + b * ((j : ℝ) + l - 1)) :
    s.weighted i j wu (basis t) = a + b * (j + t) := by
  have h0 := h 0 (by omega)
  simp only [weighted, basis_eq, Nat.add_zero, Number.real_zero] at h0 ⊢
  rw [h0, h 1 (by omega), h 2 (by omega), h 3 (by omega)]
  push_cast
  ring

end Weights

theorem weightedAt_bilinear {s : Spline ℝ} (hs : s.Usable) {a b c d h : ℝ}
    (hcoeff : ∀ i < s.columns, ∀ j < s.rows,
      s.coeff i j = bilinear a b c d ⟨((i : ℝ) - 1) * h, ((j : ℝ) - 1) * h⟩) (u v : ℝ) :
    s.weightedAt basis basis u v = bilinear a b c d ⟨u * h, v * h⟩ := by
  have hcolumns := locate_add_lt u hs.1
  have hrows := locate_add_lt v hs.2.1
  rw [weightedAt, locate_snd, locate_snd]
  generalize (locate u (s.columns - 2)).1 = i at hcolumns ⊢
  generalize (locate v (s.rows - 2)).1 = j at hrows ⊢
  have hrow : ∀ l ≤ 3, s.rowSum i (j + l) (basis (u - i)) =
      a + b * (u * h) + (c + d * (u * h)) * h * ((j : ℝ) + l - 1) := by
    intro l hl
    have hline : ∀ k ≤ 3, s.coeff (i + k) (j + l) = a + c * (((j : ℝ) + l - 1) * h) +
        (b + d * (((j : ℝ) + l - 1) * h)) * h * ((i : ℝ) + k - 1) := by
      intro k hk
      rw [hcoeff _ (by omega) _ (by omega), bilinear]
      push_cast
      ring
    rw [rowSum_line _ hline]
    ring
  rw [weighted_line _ hrow, bilinear]
  ring

variable {spec : GridSpec ℝ}

theorem valueAt_through_bilinear (hx : 2 ≤ spec.nx) (hy : 2 ≤ spec.ny) (hcell : 0 < spec.cell)
    (a b c d : ℝ) (projection : Projection ℝ) (p : Point ℝ) :
    (through (bilinearGrid a b c d spec) projection).valueAt p = bilinear a b c d p := by
  have hsurface := surfaceFit_fitted (g := bilinearGrid a b c d spec) hx hy .origin
    (@OfNat.ofNat ℝ 0 (Number.instOfNat 0)) projection
  have hget : ∀ ix < spec.nx, ∀ iy < spec.ny,
      bilinear a b c d (spec.node ix iy) = (bilinearGrid a b c d spec).get ix iy :=
    fun ix hix iy hiy =>
      (Grid.get_ofFn spec (fun ix iy => bilinear a b c d (spec.node ix iy)) hix hiy).symm
  have hbilinear := (surfaceFit_bilinear (Nat.le_of_succ_le hx) (Nat.le_of_succ_le hy) a b c d
    spec.cell).congr hget
  have hcoeff := hsurface.unique hx hy hbilinear
  have hvalue := weightedAt_bilinear (s := through (bilinearGrid a b c d spec) projection)
    (fitted_usable hx hy hcell ..) hcoeff (p.x / spec.cell) (p.y / spec.cell)
  have hnodes : (through (bilinearGrid a b c d spec) projection).toNodes p =
      (p.x / spec.cell, p.y / spec.cell) := by
    simp [toNodes, through, fitted, bilinearGrid, Grid.ofFn, Point.origin, Number.toRadians]
  rw [div_mul_cancel₀ _ hcell.ne', div_mul_cancel₀ _ hcell.ne'] at hvalue
  rw [← hvalue]
  simp only [valueAt, weightedAt, hnodes]

/-- A grid of the values of a bilinear function is fitted by a surface that is the function and has
its derivatives, everywhere on the map. So brought onto any default grid it has the values of the
function there. -/
theorem fit_bilinear (hx : 2 ≤ spec.nx) (hy : 2 ≤ spec.ny) (hcell : 0 < spec.cell)
    (a b c d : ℝ) (projection : Projection ℝ) :
    (∃ s, fit (bilinearGrid a b c d spec) .origin projection = .ok s ∧
      ∀ p, s.valueAt p = a + b * p.x + c * p.y + d * p.x * p.y ∧
        s.derivativesAt p =
          ⟨a + b * p.x + c * p.y + d * p.x * p.y, b + d * p.y, c + d * p.x, 0, d, 0⟩) ∧
      ∀ ctx grid, Context.defaultGrid ctx = .ok grid →
        normalizeGrid (bilinearGrid a b c d spec) ctx = .ok (bilinearGrid a b c d grid) := by
  have hvalue := valueAt_through_bilinear hx hy hcell a b c d
  have hfittable : Fittable (bilinearGrid a b c d spec) :=
    fittable_iff.mpr ⟨hx, hy, hcell, Grid.wellFormed_ofFn ..⟩
  constructor
  · refine ⟨_, fit_of_fittable hfittable .origin projection, fun p => ⟨hvalue projection p, ?_⟩⟩
    refine (derivativesAt_eq_partials (through_usable hfittable projection) p).trans ?_
    rw [funext (hvalue projection)]
    exact partials_bilinear a b c d p
  · intro ctx grid hgrid
    rw [normalizeGrid_eq hgrid hfittable, Grid.resampled]
    simp only [hvalue]
    rfl

theorem fit_bilinear_strip :
    2 ≤ (⟨2, 5, 1 / 2⟩ : GridSpec ℝ).nx ∧ 2 ≤ (⟨2, 5, 1 / 2⟩ : GridSpec ℝ).ny ∧
      0 < (⟨2, 5, 1 / 2⟩ : GridSpec ℝ).cell ∧
      (∃ s, fit (bilinearGrid 1 2 3 4 ⟨2, 5, 1 / 2⟩) .origin .standard = .ok s ∧
        s.valueAt ⟨-7, 11⟩ = -288 ∧ s.derivativesAt ⟨-7, 11⟩ = ⟨-288, 46, -25, 0, 4, 0⟩) ∧
      Coarse.context.defaultGrid = .ok Coarse.spec ∧
      normalizeGrid (bilinearGrid 1 2 3 4 ⟨2, 5, 1 / 2⟩) Coarse.context =
        .ok (bilinearGrid 1 2 3 4 Coarse.spec) := by
  have hx : 2 ≤ (⟨2, 5, 1 / 2⟩ : GridSpec ℝ).nx := by decide
  have hy : 2 ≤ (⟨2, 5, 1 / 2⟩ : GridSpec ℝ).ny := by decide
  have hcell : 0 < (⟨2, 5, 1 / 2⟩ : GridSpec ℝ).cell := by norm_num
  obtain ⟨⟨s, hs, h⟩, hnormalize⟩ := fit_bilinear hx hy hcell 1 2 3 4 .standard
  obtain ⟨hvalue, hderivatives⟩ := h ⟨-7, 11⟩
  norm_num at hvalue hderivatives
  exact ⟨hx, hy, hcell, ⟨s, hs, hvalue, hderivatives⟩, Coarse.defaultGrid,
    hnormalize _ _ Coarse.defaultGrid⟩

end Spline

end Synoptic
