import Synoptic.Proofs.Bounds.Fitting
import Synoptic.Proofs.Typing.Evaluation

namespace Synoptic

variable {ε α : Type} [Number α]

/-- The numbers clamp and count places along a surface of at most `N` coefficients, at least four
either way, without going past the last one. -/
def Number.Counts (α : Type) [Number α] (N : Nat) : Prop :=
  ∀ n, 4 * n < N → ∀ x : α, toIndex (clamp x 0 (n : α)) ≤ n

namespace Spline

def Within (N : Nat) (s : Spline α) : Prop := s.coeffs.size ≤ N

theorem locate_le_of_counts {N : Nat} (hN : Number.Counts α N) {nodes : Nat}
    (h : 4 * (nodes - 2) < N) (u : α) : (locate u nodes).1 ≤ nodes - 2 := hN _ h _

theorem locate_add_lt_of_counts {N size other : Nat} (hN : Number.Counts α N) (hsize : 4 ≤ size)
    (hother : 4 ≤ other) (h : size * other ≤ N) (u : α) : (locate u (size - 2)).1 + 3 < size := by
  have hfour : size * 4 ≤ size * other := Nat.mul_le_mul_left _ hother
  have hle := locate_le_of_counts hN (show 4 * (size - 2 - 2) < N by omega) u
  omega

end Spline

def GridSpec.Within (N : Nat) (g : GridSpec α) : Prop :=
  2 ≤ g.nx → 2 ≤ g.ny → (g.nx + 2) * (g.ny + 2) ≤ N

def Projection.Within (N : Nat) (p : Projection α) : Prop := ∀ g, p.grid = some g → g.Within N

def Value.Within (N : Nat) : Value α → Prop
  | .spline s => s.Within N
  | _ => True

namespace Checked

def rowSum (s : Spline α) (i j : Nat) (w : Spline.Weights α) : Checked ε α := do
  match ← slice s.coeffs (j * s.columns + i) (j * s.columns + i + 4) with
  | [c0, c1, c2, c3] => .ok (c0 * w.w0 + c1 * w.w1 + c2 * w.w2 + c3 * w.w3)
  | _ => .error .outOfRange

def weighted (s : Spline α) (i j : Nat) (wu wv : Spline.Weights α) : Checked ε α := do
  let r0 ← rowSum s i j wu
  let r1 ← rowSum s i (j + 1) wu
  let r2 ← rowSum s i (j + 2) wu
  let r3 ← rowSum s i (j + 3) wu
  return 0 + wv.w0 * r0 + wv.w1 * r1 + wv.w2 * r2 + wv.w3 * r3

def valueAt (s : Spline α) (p : Point α) : Checked ε α :=
  let (u, v) := s.toNodes p
  let (i, tu) := Spline.locate u (s.columns - 2)
  let (j, tv) := Spline.locate v (s.rows - 2)
  weighted s i j (Spline.basis tu) (Spline.basis tv)

def derivativesAt (s : Spline α) (p : Point α) : Checked ε (Derivatives α) := do
  let (u, v) := s.toNodes p
  let (i, tu) := Spline.locate u (s.columns - 2)
  let (j, tv) := Spline.locate v (s.rows - 2)
  let f ← weighted s i j (Spline.basis tu) (Spline.basis tv)
  let fu ← weighted s i j (Spline.basis₁ tu) (Spline.basis tv)
  let fv ← weighted s i j (Spline.basis tu) (Spline.basis₁ tv)
  let fuu ← weighted s i j (Spline.basis₂ tu) (Spline.basis tv)
  let fuv ← weighted s i j (Spline.basis₁ tu) (Spline.basis₁ tv)
  let fvv ← weighted s i j (Spline.basis tu) (Spline.basis₂ tv)
  let angle := Number.toRadians s.orientation
  let sn := Number.sin angle
  let c := Number.cos angle
  let h := s.cell
  let h2 := h * h
  return {
    value := f
    fx := (c * fu - sn * fv) / h
    fy := (sn * fu + c * fv) / h
    fxx := (c * c * fuu - 2 * c * sn * fuv + sn * sn * fvv) / h2
    fxy := (c * sn * fuu + (c * c - sn * sn) * fuv - c * sn * fvv) / h2
    fyy := (sn * sn * fuu + 2 * c * sn * fuv + c * c * fvv) / h2 }

theorem rowSum_eq {s : Spline α} (hs : s.Usable) {i j : Nat} (hi : i + 3 < s.columns)
    (hj : j < s.rows) (w : Spline.Weights α) :
    (rowSum s i j w : Checked ε α) = .ok (s.rowSum i j w) := by
  have hindex : j * s.columns + i + 4 ≤ s.coeffs.size := by
    rw [hs.2.2.2]
    exact Grid.index_lt hi hj
  rw [rowSum, slice_eq hindex]
  rfl

theorem weighted_eq {s : Spline α} (hs : s.Usable) {i j : Nat} (hi : i + 3 < s.columns)
    (hj : j + 3 < s.rows) (wu wv : Spline.Weights α) :
    (weighted s i j wu wv : Checked ε α) = .ok (s.weighted i j wu wv) := by
  rw [weighted, rowSum_eq hs hi (by omega), rowSum_eq hs hi (by omega), rowSum_eq hs hi (by omega),
    rowSum_eq hs hi hj]
  rfl

section Surface

variable {N : Nat} (hN : Number.Counts α N) {s : Spline α} (hs : s.Usable) (h : s.Within N)

include hN hs h

theorem locate_columns_lt (u : α) : (Spline.locate u (s.columns - 2)).1 + 3 < s.columns :=
  Spline.locate_add_lt_of_counts hN hs.1 hs.2.1 (hs.2.2.2 ▸ h) u

theorem locate_rows_lt (v : α) : (Spline.locate v (s.rows - 2)).1 + 3 < s.rows :=
  Spline.locate_add_lt_of_counts hN hs.2.1 hs.1 (Nat.mul_comm s.rows _ ▸ hs.2.2.2 ▸ h) v

theorem valueAt_eq (p : Point α) : (valueAt s p : Checked ε α) = .ok (s.valueAt p) :=
  weighted_eq hs (locate_columns_lt hN hs h _) (locate_rows_lt hN hs h _) _ _

theorem derivativesAt_eq (p : Point α) :
    (derivativesAt s p : Checked ε (Derivatives α)) = .ok (s.derivativesAt p) := by
  have hw := weighted_eq (ε := ε) hs (locate_columns_lt hN hs h (s.toNodes p).1)
    (locate_rows_lt hN hs h (s.toNodes p).2)
  simp only [derivativesAt, hw, ok_bind]
  rfl

end Surface

def tabulate (nx ny : Nat) (f : Nat → Nat → Checked ε α) : Checked ε (Array α) := do
  return (← (List.range (nx * ny)).mapM fun i => f (i % nx) (i / nx)).toArray

def gridOfFn (spec : GridSpec α) (f : Nat → Nat → Checked ε α) : Checked ε (Grid α) := do
  return ⟨spec.nx, spec.ny, spec.cell, ← tabulate spec.nx spec.ny f⟩

def toGrid (s : Spline α) (grid : GridSpec α) (projection : Projection α) : Checked ε (Grid α) :=
  gridOfFn grid fun ix iy => valueAt s (projection.transfer (grid.node ix iy) s.projection)

omit [Number α] in
theorem gridOfFn_eq {spec : GridSpec α} {f' : Nat → Nat → Checked ε α} {f : Nat → Nat → α}
    (h : ∀ ix iy, f' ix iy = .ok (f ix iy)) : gridOfFn spec f' = .ok (Grid.ofFn spec f) := by
  have hdata : tabulate spec.nx spec.ny f' = .ok (Synoptic.tabulate spec.nx spec.ny f) := by
    rw [tabulate, mapM_of_mem (g := fun i => f (i % spec.nx) (i / spec.nx)) fun i _ => h _ _,
      ok_bind]
    apply congrArg
    apply Array.ext <;> simp [Synoptic.tabulate]
  rw [gridOfFn, hdata]
  rfl

theorem toGrid_eq {N : Nat} (hN : Number.Counts α N) {s : Spline α} (hs : s.Usable)
    (h : s.Within N) (grid : GridSpec α) (projection : Projection α) :
    (toGrid s grid projection : Checked ε (Grid α)) = .ok (s.toGrid grid projection) :=
  gridOfFn_eq fun _ _ => valueAt_eq hN hs h _

def sample (ctx : Context α) (f : Point α → Checked (ValueError α) α) :
    Checked (ValueError α) (Value α) :=
  match ctx.points with
  | some points => do return .samples ⟨points, (← points.toList.mapM f).toArray⟩
  | none => do
    let grid ← inRange ctx.defaultGrid
    return .grid (← gridOfFn grid fun ix iy => f (grid.node ix iy))

theorem sample_eq {ctx : Context α} {f' : Point α → Checked (ValueError α) α} {f : Point α → α}
    (h : ∀ p, f' p = .ok (f p)) : sample ctx f' = inRange (Synoptic.sample ctx f) := by
  rw [sample, Synoptic.sample]
  cases ctx.points with
  | some points =>
    dsimp only
    rw [mapM_of_mem (g := f) fun p _ => h p, ok_bind, ← Array.toList_map, Array.toArray_toList]
    rfl
  | none =>
    apply inRange_bind rfl (defaultGrid_yields ctx)
    intro grid _
    rw [gridOfFn_eq fun ix iy => h (grid.node ix iy)]
    rfl

def gridToSpline (g : Grid α) (ctx : Context α) : Checked (ValueError α) (Spline α) := do
  let _ ← inRange ctx.defaultGrid
  fit g .origin ctx.projection

def splineToGrid (s : Spline α) (ctx : Context α) : Checked (ValueError α) (Grid α) := do
  let grid ← inRange ctx.defaultGrid
  inRange (s.ensureUsable "spline sample")
  toGrid s grid ctx.projection

def normalizeGrid (g : Grid α) (ctx : Context α) : Checked (ValueError α) (Grid α) := do
  if ← inRange (onDefaultGrid g ctx) then .ok g
  else
    let s ← gridToSpline g ctx
    splineToGrid s ctx

theorem gridToSpline_eq (g : Grid α) (ctx : Context α) :
    gridToSpline g ctx = inRange (Synoptic.gridToSpline g ctx) := by
  apply inRange_bind rfl (defaultGrid_yields ctx)
  intro _ _
  exact fit_eq g .origin ctx.projection

end Checked

theorem Spline.fit_within {N : Nat} {g : Grid α} (h : g.spec.Within N) (origin : Point α)
    (projection : Projection α) :
    Yields (fit g origin projection) (·.Within N) fun _ => True := by
  rw [fit]
  split
  · rename_i hfit
    simp only [Fittable, not_or, Nat.not_lt] at hfit
    exact Nat.le_trans (Nat.le_of_eq (size_tabulate ..)) (h hfit.1 hfit.2.1)
  · trivial

theorem gridToSpline_within {N : Nat} {g : Grid α} (h : g.spec.Within N) (ctx : Context α) :
    Yields (gridToSpline g ctx) (·.Within N) fun _ => True := by
  apply Yields.bind ((defaultGrid_yields ctx).mono (fun _ => id) fun _ _ => trivial)
  intro _ _
  exact Spline.fit_within h .origin ctx.projection

namespace Checked

section Bounded

variable {N : Nat} (hN : Number.Counts α N)

include hN

theorem splineToGrid_eq {s : Spline α} (h : s.Within N) (ctx : Context α) :
    splineToGrid s ctx = inRange (Synoptic.splineToGrid s ctx) := by
  apply inRange_bind rfl (defaultGrid_yields ctx)
  intro grid _
  apply inRange_bind rfl (s.ensureUsable_yields _)
  intro _ hs
  exact toGrid_eq hN hs h grid ctx.projection

theorem normalizeGrid_eq {g : Grid α} (h : g.spec.Within N) (ctx : Context α) :
    normalizeGrid g ctx = inRange (Synoptic.normalizeGrid g ctx) := by
  apply inRange_bind (P := fun _ => True) (Q := fun _ => True) rfl
  · cases onDefaultGrid g ctx <;> trivial
  intro b _
  cases b with
  | true => rfl
  | false =>
    apply inRange_bind (gridToSpline_eq g ctx) (gridToSpline_within h ctx)
    intro s hs
    exact splineToGrid_eq hN hs ctx

end Bounded

end Checked

namespace Checked

def rotated (x y : Spline α) (target : Projection α) (p : Point α) : Checked ε (α × α) := do
  let q := target.transfer p x.projection
  let u ← valueAt x q
  let v ← valueAt y q
  let turn := target.northAngle p - x.projection.northAngle q
  let s := Number.sin turn
  let c := Number.cos turn
  return (u * c - v * s, u * s + v * c)

def components (x y : Spline α) (target : Projection α) :
    Checked (ValueError α) (Spline α × Spline α) := do
  inRange (x.ensureUsable "component reprojection")
  inRange (y.ensureUsable "component reprojection")
  let grid := Reprojection.targetGrid x target
  let gx ← gridOfFn grid fun ix iy => do return (← rotated x y target (grid.node ix iy)).1
  let gy ← gridOfFn grid fun ix iy => do return (← rotated x y target (grid.node ix iy)).2
  let rx ← fit gx .origin target
  let ry ← fit gy .origin target
  return (rx, ry)

theorem components_eq {N : Nat} (hN : Number.Counts α N) {x y : Spline α} (hx : x.Within N)
    (hy : y.Within N) (target : Projection α) :
    components x y target = inRange (Reprojection.components x y target) := by
  apply inRange_bind rfl (x.ensureUsable_yields _)
  intro _ hxs
  apply inRange_bind rfl (y.ensureUsable_yields _)
  intro _ hys
  have hrotated (p : Point α) : (rotated x y target p : Checked (ValueError α) (α × α)) =
      .ok (Reprojection.rotated x y target p) := by
    rw [rotated, valueAt_eq hN hxs hx, ok_bind, valueAt_eq hN hys hy]
    rfl
  dsimp only
  rw [gridOfFn_eq fun ix iy => by rw [hrotated]; rfl, ok_bind,
    gridOfFn_eq fun ix iy => by rw [hrotated]; rfl, ok_bind]
  apply inRange_bind (fit_eq ..) (Spline.fit_yields ..)
  intro rx _
  apply inRange_bind (fit_eq ..) (Spline.fit_yields ..)
  intro ry _
  rfl

end Checked

theorem Reprojection.targetGrid_within {N : Nat} {x : Spline α} (hs : x.Usable) (hx : x.Within N)
    {target : Projection α} (ht : target.Within N) : (targetGrid x target).Within N := by
  rw [targetGrid]
  cases hgrid : target.grid with
  | some g => exact ht g hgrid
  | none =>
    intro _ _
    have hcolumns : x.columns - 2 + 2 = x.columns := by have := hs.1; omega
    have hrows : x.rows - 2 + 2 = x.rows := by have := hs.2.1; omega
    simp only [Option.getD_none, Spline.nodes, hcolumns, hrows]
    exact hs.2.2.2 ▸ hx

theorem Reprojection.components_within {N : Nat} {x y : Spline α} (hx : x.Within N)
    {target : Projection α} (ht : target.Within N) :
    Yields (components x y target) (fun r => r.1.Within N ∧ r.2.Within N) fun _ => True := by
  apply Yields.bind ((x.ensureUsable_yields _).mono (fun _ => id) fun _ _ => trivial)
  intro _ hs
  apply Yields.bind ((y.ensureUsable_yields _).mono (fun _ => id) fun _ _ => trivial)
  intro _ _
  have hgrid := targetGrid_within hs hx ht
  apply Yields.bind (Spline.fit_within hgrid _ _)
  intro rx hrx
  apply Yields.bind (Spline.fit_within hgrid _ _)
  intro ry hry
  exact ⟨hrx, hry⟩

end Synoptic
