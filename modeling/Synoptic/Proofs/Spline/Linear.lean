import Synoptic.Proofs.Reals
import Synoptic.Spline.Evaluation

namespace Synoptic

section Tabulate

variable {α β : Type} {nx ny : Nat}

theorem getElem_tabulate (f : Nat → Nat → α) {i : Nat} (h : i < (tabulate nx ny f).size) :
    (tabulate nx ny f)[i] = f (i % nx) (i / nx) := by
  simp [tabulate]

theorem read_tabulate [Number α] (f : Nat → Nat → α) {i : Nat} (h : i < nx * ny) :
    Number.read (tabulate nx ny f) i = f (i % nx) (i / nx) := by
  simp [Number.read, tabulate, h]

theorem map_tabulate (f : Nat → Nat → α) (g : α → β) :
    (tabulate nx ny f).map g = tabulate nx ny fun ix iy => g (f ix iy) := by
  simp [tabulate, Array.map_ofFn, Function.comp_def]

end Tabulate

namespace Spline

def Weights.sum (w : Weights ℝ) : ℝ := w.w0 + w.w1 + w.w2 + w.w3

@[simp] theorem basis_sum (t : ℝ) : (basis t).sum = 1 := by
  simp only [Weights.sum, basis, Number.real_one]
  ring

theorem locate_le (u : ℝ) (n : Nat) : (locate u n).1 ≤ n - 2 := by
  simp only [locate, Number.real_toIndex, Number.real_floor, Number.real_zero]
  apply Nat.floor_le_of_le
  rw [Number.real_clamp (by simp)]
  exact max_le (by simp) (min_le_right _ _)

theorem locate_add_lt (u : ℝ) {n : Nat} (h : 4 ≤ n) : (locate u (n - 2)).1 + 3 < n := by
  have hle := locate_le u (n - 2)
  omega

@[simp] theorem toNodes_origin (s : Spline ℝ) : s.toNodes s.origin = (0, 0) := by simp [toNodes]

@[simp] theorem locate_zero (n : Nat) : locate (0 : ℝ) n = (0, 0) := by
  simp only [locate, Number.real_floor, Number.real_toIndex, Number.real_zero, Int.floor_zero,
    Int.cast_zero]
  rw [Number.real_clamp (by simp)]
  simp

theorem valueAt_origin (s : Spline ℝ) :
    s.valueAt s.origin = s.weighted 0 0 (basis 0) (basis 0) := by
  simp only [valueAt, toNodes_origin, locate_zero]

theorem index_lt {s : Spline ℝ} (hs : s.Usable) {i j : Nat} (hi : i < s.columns) (hj : j < s.rows) :
    j * s.columns + i < s.coeffs.size := by
  rw [hs.2.2.2]
  exact Grid.index_lt hi hj

theorem read_map {xs : Array ℝ} {i : Nat} (h : i < xs.size) (f : ℝ → ℝ) :
    Number.read (xs.map f) i = f (Number.read xs i) := by
  simp [Number.read, h]

theorem read_zipWith {xs ys : Array ℝ} {i : Nat} (hx : i < xs.size) (hy : i < ys.size)
    (f : ℝ → ℝ → ℝ) :
    Number.read (Array.zipWith f xs ys) i = f (Number.read xs i) (Number.read ys i) := by
  simp [Number.read, hx, hy]

theorem coeff_mapCoeffs {s : Spline ℝ} (hs : s.Usable) {i j : Nat} (hi : i < s.columns)
    (hj : j < s.rows) (f : ℝ → ℝ) : (s.mapCoeffs f).coeff i j = f (s.coeff i j) :=
  read_map (index_lt hs hi hj) f

theorem coeff_zipCoeffs {s t : Spline ℝ} (hs : s.Usable) (ht : t.Usable)
    (hshape : s.columns = t.columns ∧ s.rows = t.rows) {i j : Nat} (hi : i < s.columns)
    (hj : j < s.rows) (f : ℝ → ℝ → ℝ) :
    (zipCoeffs f s t).coeff i j = f (s.coeff i j) (t.coeff i j) := by
  have hindex := index_lt ht (hshape.1 ▸ hi) (hshape.2 ▸ hj)
  rw [← hshape.1] at hindex
  simp only [coeff, ← hshape.1]
  exact read_zipWith (index_lt hs hi hj) hindex f

section Affine

variable {s : Spline ℝ} (hs : s.Usable) {i j : Nat} (a b : ℝ)

include hs

theorem rowSum_mapCoeffs (hi : i + 3 < s.columns) (hj : j < s.rows) (w : Weights ℝ) :
    (s.mapCoeffs fun c => a * c + b).rowSum i j w = a * s.rowSum i j w + b * w.sum := by
  have hc : ∀ k ≤ 3, (s.mapCoeffs fun c => a * c + b).coeff (i + k) j =
      a * s.coeff (i + k) j + b := fun k hk => coeff_mapCoeffs hs (by omega) hj _
  have h0 := hc 0 (by omega)
  simp only [rowSum, Weights.sum, Nat.add_zero] at h0 ⊢
  rw [h0, hc 1 (by omega), hc 2 (by omega), hc 3 (by omega)]
  ring

theorem weighted_mapCoeffs (hi : i + 3 < s.columns) (hj : j + 3 < s.rows) {wu wv : Weights ℝ}
    (hu : wu.sum = 1) (hv : wv.sum = 1) :
    (s.mapCoeffs fun c => a * c + b).weighted i j wu wv = a * s.weighted i j wu wv + b := by
  have hrow : ∀ l ≤ 3, (s.mapCoeffs fun c => a * c + b).rowSum i (j + l) wu =
      a * s.rowSum i (j + l) wu + b := by
    intro l hl
    rw [rowSum_mapCoeffs hs a b hi (by omega), hu, mul_one]
  have h0 := hrow 0 (by omega)
  simp only [weighted, Nat.add_zero, Number.real_zero] at h0 ⊢
  rw [h0, hrow 1 (by omega), hrow 2 (by omega), hrow 3 (by omega)]
  simp only [Weights.sum] at hv
  linear_combination b * hv

theorem valueAt_mapCoeffs (p : Point ℝ) :
    (s.mapCoeffs fun c => a * c + b).valueAt p = a * s.valueAt p + b := by
  exact weighted_mapCoeffs hs a b (locate_add_lt _ hs.1) (locate_add_lt _ hs.2.1) (basis_sum _)
    (basis_sum _)

end Affine

section Additive

variable {s t : Spline ℝ} (hs : s.Usable) (ht : t.Usable)
  (hshape : s.columns = t.columns ∧ s.rows = t.rows) {i j : Nat} (a b : ℝ)

include hs ht hshape

theorem rowSum_zipCoeffs (hi : i + 3 < s.columns) (hj : j < s.rows) (w : Weights ℝ) :
    (zipCoeffs (fun x y => a * x + b * y) s t).rowSum i j w =
      a * s.rowSum i j w + b * t.rowSum i j w := by
  have hc : ∀ k ≤ 3, (zipCoeffs (fun x y => a * x + b * y) s t).coeff (i + k) j =
      a * s.coeff (i + k) j + b * t.coeff (i + k) j :=
    fun k hk => coeff_zipCoeffs hs ht hshape (by omega) hj _
  have h0 := hc 0 (by omega)
  simp only [rowSum, Nat.add_zero] at h0 ⊢
  rw [h0, hc 1 (by omega), hc 2 (by omega), hc 3 (by omega)]
  ring

theorem weighted_zipCoeffs (hi : i + 3 < s.columns) (hj : j + 3 < s.rows) (wu wv : Weights ℝ) :
    (zipCoeffs (fun x y => a * x + b * y) s t).weighted i j wu wv =
      a * s.weighted i j wu wv + b * t.weighted i j wu wv := by
  have hrow : ∀ l ≤ 3, (zipCoeffs (fun x y => a * x + b * y) s t).rowSum i (j + l) wu =
      a * s.rowSum i (j + l) wu + b * t.rowSum i (j + l) wu :=
    fun l hl => rowSum_zipCoeffs hs ht hshape a b hi (by omega) wu
  have h0 := hrow 0 (by omega)
  simp only [weighted, Nat.add_zero, Number.real_zero] at h0 ⊢
  rw [h0, hrow 1 (by omega), hrow 2 (by omega), hrow 3 (by omega)]
  ring

/-- Surfaces of one shape and place combine like their coefficients. -/
theorem valueAt_zipCoeffs (hplace : s.toNodes = t.toNodes) (p : Point ℝ) :
    (zipCoeffs (fun x y => a * x + b * y) s t).valueAt p = a * s.valueAt p + b * t.valueAt p := by
  have ht' : t.valueAt p = t.weighted (locate (s.toNodes p).1 (s.columns - 2)).1
      (locate (s.toNodes p).2 (s.rows - 2)).1 (basis (locate (s.toNodes p).1 (s.columns - 2)).2)
      (basis (locate (s.toNodes p).2 (s.rows - 2)).2) := by
    rw [hplace, hshape.1, hshape.2]
    rfl
  rw [ht']
  exact weighted_zipCoeffs hs ht hshape a b (locate_add_lt _ hs.1) (locate_add_lt _ hs.2.1) _ _

end Additive

noncomputable def ramp (projection : Projection ℝ) : Spline ℝ :=
  ⟨4, 4, tabulate 4 4 fun i _ => (i : ℝ) - 1, .origin, 0, 1, projection⟩

theorem ramp_usable (projection : Projection ℝ) : (ramp projection).Usable :=
  ⟨le_refl 4, le_refl 4, by simp [ramp], size_tabulate ..⟩

theorem coeff_ramp (projection : Projection ℝ) {i j : Nat} (hi : i < 4) (hj : j < 4) :
    (ramp projection).coeff i j = (i : ℝ) - 1 := by
  have hindex : j * 4 + i < 4 * 4 := by omega
  have hmod : (j * 4 + i) % 4 = i := by omega
  have hread : (ramp projection).coeff i j = (((j * 4 + i) % 4 : Nat) : ℝ) - 1 :=
    read_tabulate (fun i _ => (i : ℝ) - 1) hindex
  rw [hmod] at hread
  exact hread

theorem valueAt_ramp_origin (projection : Projection ℝ) :
    (ramp projection).valueAt .origin = 0 := by
  have h := valueAt_origin (ramp projection)
  rw [show (ramp projection).origin = .origin from rfl] at h
  rw [h]
  simp only [weighted, rowSum, Nat.zero_add, coeff_ramp, basis, Number.real_zero, Number.real_one,
    Nat.reduceLT]
  norm_num

end Spline

end Synoptic
