import Synoptic.Conversion
import Synoptic.Proofs.Outcome
import Synoptic.Proofs.Spline.Uniqueness
import Synoptic.Proofs.Transfer

namespace Synoptic

namespace Grid

variable {α : Type}

def WellFormed (g : Grid α) : Prop := g.data.size = g.nx * g.ny

theorem wellFormed_ofFn (spec : GridSpec α) (f : Nat → Nat → α) : (ofFn spec f).WellFormed :=
  size_tabulate ..

theorem wellFormed_filled (spec : GridSpec α) (x : α) : (filled spec x).WellFormed :=
  Array.size_replicate ..

variable [Number α]

theorem get_ofFn (spec : GridSpec α) (f : Nat → Nat → α) {ix iy : Nat} (hix : ix < spec.nx)
    (hiy : iy < spec.ny) : (ofFn spec f).get ix iy = f ix iy := by
  have hread := read_tabulate f (index_lt hix hiy)
  rwa [index_mod hix, index_div hix] at hread

theorem get_filled (spec : GridSpec α) (x : α) {ix iy : Nat} (hix : ix < spec.nx)
    (hiy : iy < spec.ny) : (filled spec x).get ix iy = x := by
  simp only [get, filled, Number.read]
  rw [Array.getD_eq_getD_getElem?, Array.getElem?_replicate, if_pos (index_lt hix hiy)]
  rfl

theorem eq_ofFn {g : Grid α} {spec : GridSpec α} {f : Nat → Nat → α} (hg : g.WellFormed)
    (hspec : g.spec = spec) (hget : ∀ ix < spec.nx, ∀ iy < spec.ny, g.get ix iy = f ix iy) :
    g = ofFn spec f := by
  subst hspec
  obtain ⟨nx, ny, cell, data⟩ := g
  have hdata : data = tabulate nx ny f := Spline.eq_tabulate_of_read hg hget
  rw [ofFn, hdata]
  rfl

end Grid

theorem GridSpec.valid_iff {grid : GridSpec ℝ} :
    grid.Valid ↔ 2 ≤ grid.nx ∧ 2 ≤ grid.ny ∧ 0 < grid.cell := by
  rw [Valid, Number.real_zero]

namespace Spline

variable {g : Grid ℝ}

theorem fittable_iff : Fittable g ↔ 2 ≤ g.nx ∧ 2 ≤ g.ny ∧ 0 < g.cell ∧ g.WellFormed := by
  constructor
  · intro h
    simp only [Fittable, not_or, not_lt, not_not, Number.real_zero, not_le] at h
    exact h
  · rintro ⟨hx, hy, hcell, hdata⟩
    exact fittable_of_pos hx hy hcell hdata

theorem fittable_of_valid (hspec : g.spec.Valid) (hg : g.WellFormed) : Fittable g := by
  obtain ⟨hx, hy, hcell⟩ := GridSpec.valid_iff.mp hspec
  exact fittable_iff.mpr ⟨hx, hy, hcell, hg⟩

/-- The surface that a grid is converted to: it begins at the origin of the map and is not turned. -/
noncomputable def through (g : Grid ℝ) (projection : Projection ℝ) : Spline ℝ :=
  fitted g .origin (@OfNat.ofNat ℝ 0 (Number.instOfNat 0)) projection

theorem through_usable (h : Fittable g) (projection : Projection ℝ) :
    (through g projection).Usable := by
  obtain ⟨hx, hy, hcell, _⟩ := fittable_iff.mp h
  exact fitted_usable hx hy hcell ..

theorem placed_origin (grid : GridSpec ℝ) (ix iy : Nat) :
    grid.placed .origin (@OfNat.ofNat ℝ 0 (Number.instOfNat 0)) ix iy = grid.node ix iy := by
  simp [GridSpec.placed, Point.origin, Number.toRadians]

theorem valueAt_through_node (h : Fittable g) (projection : Projection ℝ) {ix iy : Nat}
    (hix : ix < g.nx) (hiy : iy < g.ny) :
    (through g projection).valueAt (g.spec.node ix iy) = g.get ix iy := by
  obtain ⟨hx, hy, hcell, _⟩ := fittable_iff.mp h
  rw [← placed_origin]
  exact valueAt_fitted_placed hx hy hcell _ _ projection hix hiy

theorem constant_usable {grid : GridSpec ℝ} (h : grid.Valid) (x : ℝ) (projection : Projection ℝ) :
    (constant x grid projection).Usable :=
  ⟨Nat.add_le_add_right h.1 2, Nat.add_le_add_right h.2.1 2, h.2.2, Array.size_replicate ..⟩

theorem valueAt_constant {grid : GridSpec ℝ} (h : grid.Valid) (x : ℝ) (projection : Projection ℝ)
    (p : Point ℝ) : (constant x grid projection).valueAt p = x := by
  have hvalue := valueAt_mapCoeffs (constant_usable h x projection) 0 x p
  have hflat : (constant x grid projection).mapCoeffs (fun c => 0 * c + x) =
      constant x grid projection := by
    simp only [mapCoeffs, constant, Array.map_replicate, zero_mul, zero_add]
  rwa [hflat, zero_mul, zero_add] at hvalue

theorem through_filled {grid : GridSpec ℝ} (h : grid.Valid) (x : ℝ) (projection : Projection ℝ) :
    through (.filled grid x) projection = constant x grid projection := by
  have hcoeffs : fitCoeffs (.filled grid x) =
      Array.replicate ((grid.nx + 2) * (grid.ny + 2)) x :=
    fitCoeffs_const h.1 h.2.1 fun ix hix iy hiy => Grid.get_filled grid x hix hiy
  simp only [through, fitted, constant, hcoeffs]
  rfl

theorem toGrid_eq (s : Spline ℝ) (grid : GridSpec ℝ) :
    s.toGrid grid s.projection = .ofFn grid fun ix iy => s.valueAt (grid.node ix iy) := by
  have hmap : s.projection.sameMap s.projection = true :=
    (Projection.sameMap_iff _ _).mpr ⟨rfl, rfl⟩
  simp only [toGrid, Projection.transfer_of_sameMap hmap]

end Spline

section Context

variable {ctx : Context ℝ} {grid : GridSpec ℝ} {g : Grid ℝ}

noncomputable def Grid.resampled (g : Grid ℝ) (projection : Projection ℝ) (grid : GridSpec ℝ) :
    Grid ℝ :=
  .ofFn grid fun ix iy => (Spline.through g projection).valueAt (grid.node ix iy)

theorem Grid.resampled_self (h : Spline.Fittable g) (projection : Projection ℝ) :
    g.resampled projection g.spec = g :=
  (eq_ofFn (Spline.fittable_iff.mp h).2.2.2 rfl fun _ hix _ hiy =>
    (Spline.valueAt_through_node h projection hix hiy).symm).symm

theorem gridToSpline_eq (hgrid : ctx.defaultGrid = .ok grid) (h : Spline.Fittable g) :
    gridToSpline g ctx = .ok (Spline.through g ctx.projection) := by
  rw [gridToSpline, hgrid]
  exact Spline.fit_of_fittable h .origin ctx.projection

theorem splineToGrid_eq (hgrid : ctx.defaultGrid = .ok grid) {s : Spline ℝ} (hs : s.Usable) :
    splineToGrid s ctx = .ok (s.toGrid grid ctx.projection) := by
  rw [splineToGrid, hgrid, ok_bind, Spline.ensureUsable, if_pos hs]
  rfl

theorem splineToGrid_through (hgrid : ctx.defaultGrid = .ok grid) (h : Spline.Fittable g) :
    splineToGrid (Spline.through g ctx.projection) ctx =
      .ok (g.resampled ctx.projection grid) := by
  rw [splineToGrid_eq hgrid (Spline.through_usable h _)]
  exact congrArg Except.ok (Spline.toGrid_eq (Spline.through g ctx.projection) grid)

theorem onDefaultGrid_eq (hgrid : ctx.defaultGrid = .ok grid) (g : Grid ℝ) :
    onDefaultGrid g ctx = .ok (decide (g.spec = grid)) := by
  rw [onDefaultGrid, hgrid, ok_bind]
  congr 1
  obtain ⟨nx, ny, cell⟩ := grid
  rw [Bool.eq_iff_iff]
  simp [Grid.spec, and_assoc]

theorem normalizeGrid_eq (hgrid : ctx.defaultGrid = .ok grid) (h : Spline.Fittable g) :
    normalizeGrid g ctx = .ok (g.resampled ctx.projection grid) := by
  rw [normalizeGrid, onDefaultGrid_eq hgrid, ok_bind]
  by_cases hspec : g.spec = grid
  · rw [if_pos (decide_eq_true hspec), ← hspec, Grid.resampled_self h]
  · rw [if_neg (by simpa using hspec), gridToSpline_eq hgrid h, ok_bind,
      splineToGrid_through hgrid h]

theorem normalizeGrid_default (hgrid : ctx.defaultGrid = .ok grid) (hspec : g.spec = grid) :
    normalizeGrid g ctx = .ok g := by
  rw [normalizeGrid, onDefaultGrid_eq hgrid, ok_bind, if_pos (decide_eq_true hspec)]

def convertVia {α : Type} [Number α] (middle target : Kind) (value : Value α) (ctx : Context α) :
    Except (ValueError α) (Value α) := do
  let between ← convert middle value ctx
  convert target between ctx

theorem convertVia_grid_spline (hgrid : ctx.defaultGrid = .ok grid) (x : ℝ) :
    convertVia .grid .spline (.scalar x) ctx =
      .ok (.spline (.constant x grid ctx.projection)) := by
  have hvalid := Context.valid_of_defaultGrid hgrid
  have hfittable : Spline.Fittable (.filled grid x) :=
    Spline.fittable_of_valid hvalid (Grid.wellFormed_filled grid x)
  simp only [convertVia, convert, hgrid, ok_bind, gridToSpline_eq hgrid hfittable,
    Spline.through_filled hvalid]
  rfl

theorem convertVia_spline_grid (hgrid : ctx.defaultGrid = .ok grid) (x : ℝ) :
    convertVia .spline .grid (.scalar x) ctx = .ok (.grid (.filled grid x)) := by
  have hvalid := Context.valid_of_defaultGrid hgrid
  have hsampled : (Spline.constant x grid ctx.projection).toGrid grid ctx.projection =
      .filled grid x := by
    have hto := Spline.toGrid_eq (.constant x grid ctx.projection) grid
    simp only [Spline.valueAt_constant hvalid] at hto
    refine hto.trans (Grid.eq_ofFn (Grid.wellFormed_filled grid x) rfl ?_).symm
    exact fun ix hix iy hiy => Grid.get_filled grid x hix hiy
  simp only [convertVia, convert, hgrid, ok_bind,
    splineToGrid_eq hgrid (Spline.constant_usable hvalid x ctx.projection), hsampled]
  rfl

theorem convertVia_spline_of_grid (hgrid : ctx.defaultGrid = .ok grid) (h : Spline.Fittable g) :
    convertVia .spline .grid (.grid g) ctx = .ok (.grid (g.resampled ctx.projection grid)) := by
  simp only [convertVia, convert, gridToSpline_eq hgrid h, Functor.map, Except.map, ok_bind,
    splineToGrid_through hgrid h]

/-- Conversions commute. A number gives one surface and one grid on either way; a grid on the default
grid comes back from the surface through it as it was, and any other one that can be fitted comes back
as normalization leaves it: on the default grid, where normalization does nothing more. -/
theorem convert_commutes (hgrid : ctx.defaultGrid = .ok grid) :
    (∀ x, ∃ s, convertVia .grid .spline (.scalar x) ctx = .ok (.spline s) ∧
      convert .spline (.scalar x) ctx = .ok (.spline s)) ∧
    (∀ x, ∃ g, convertVia .spline .grid (.scalar x) ctx = .ok (.grid g) ∧
      convert .grid (.scalar x) ctx = .ok (.grid g)) ∧
    (∀ g : Grid ℝ, g.WellFormed → g.spec = grid →
      convertVia .spline .grid (.grid g) ctx = .ok (.grid g)) ∧
    ∀ g : Grid ℝ, Spline.Fittable g →
      ∃ g', convertVia .spline .grid (.grid g) ctx = .ok (.grid g') ∧
        normalizeGrid g ctx = .ok g' ∧ g'.WellFormed ∧ g'.spec = grid ∧
        normalizeGrid g' ctx = .ok g' := by
  have hvalid := Context.valid_of_defaultGrid hgrid
  refine ⟨fun x => ⟨_, convertVia_grid_spline hgrid x, ?_⟩,
    fun x => ⟨_, convertVia_spline_grid hgrid x, ?_⟩, ?_, ?_⟩
  · rw [convert, hgrid]
    rfl
  · rw [convert, hgrid]
    rfl
  · rintro g hg rfl
    have hfittable := Spline.fittable_of_valid hvalid hg
    rw [convertVia_spline_of_grid hgrid hfittable, Grid.resampled_self hfittable]
  · intro g hfittable
    exact ⟨_, convertVia_spline_of_grid hgrid hfittable, normalizeGrid_eq hgrid hfittable,
      Grid.wellFormed_ofFn .., rfl, normalizeGrid_default hgrid rfl⟩

end Context

namespace Coarse

noncomputable def spec : GridSpec ℝ := ⟨2, 2, 1 + 1⟩

noncomputable def context : Context ℝ := .standard (Projection.standard.withGrid spec) .epoch

theorem valid : spec.Valid := GridSpec.valid_iff.mpr ⟨le_rfl, le_rfl, by norm_num [spec]⟩

theorem defaultGrid : context.defaultGrid = .ok spec := if_pos valid

noncomputable def slope : Grid ℝ := .ofFn spec fun ix iy => (ix : ℝ) + 3 * iy

theorem fittable_doubling : Spline.Fittable Spline.Doubling.grid := by
  rw [Spline.fittable_iff]
  exact ⟨by decide, by decide, by norm_num [Spline.Doubling.grid], rfl⟩

end Coarse

theorem convert_commutes_coarse :
    Coarse.context.defaultGrid = .ok Coarse.spec ∧
      (∃ s, convertVia .grid .spline (.scalar 5) Coarse.context = .ok (.spline s) ∧
        convert .spline (.scalar 5) Coarse.context = .ok (.spline s)) ∧
      (∃ g, convertVia .spline .grid (.scalar 5) Coarse.context = .ok (.grid g) ∧
        convert .grid (.scalar 5) Coarse.context = .ok (.grid g)) ∧
      (Coarse.slope.WellFormed ∧ Coarse.slope.spec = Coarse.spec ∧
        convertVia .spline .grid (.grid Coarse.slope) Coarse.context =
          .ok (.grid Coarse.slope)) ∧
      Spline.Fittable Spline.Doubling.grid ∧ Spline.Doubling.grid.spec ≠ Coarse.spec ∧
      ∃ g', convertVia .spline .grid (.grid Spline.Doubling.grid) Coarse.context =
          .ok (.grid g') ∧
        normalizeGrid Spline.Doubling.grid Coarse.context = .ok g' ∧ g'.WellFormed ∧
          g'.spec = Coarse.spec ∧ normalizeGrid g' Coarse.context = .ok g' := by
  obtain ⟨hspline, hgrid, hdefault, hother⟩ := convert_commutes Coarse.defaultGrid
  have hformed : Coarse.slope.WellFormed := Grid.wellFormed_ofFn ..
  have hne : Spline.Doubling.grid.spec ≠ Coarse.spec :=
    fun h => absurd (congrArg GridSpec.nx h) (by decide)
  exact ⟨Coarse.defaultGrid, hspline 5, hgrid 5, ⟨hformed, rfl, hdefault _ hformed rfl⟩,
    Coarse.fittable_doubling, hne, hother _ Coarse.fittable_doubling⟩

end Synoptic
