import Synoptic.Proofs.Conversion
import Synoptic.Reprojection

namespace Synoptic

theorem Spline.fit_ofFn {grid : GridSpec ℝ} (h : grid.Valid) (f : Point ℝ → ℝ)
    (projection : Projection ℝ) :
    ∃ s, fit (.ofFn grid fun ix iy => f (grid.node ix iy)) .origin projection = .ok s ∧
      ∀ ix < grid.nx, ∀ iy < grid.ny, s.valueAt (grid.node ix iy) = f (grid.node ix iy) := by
  have hfits : Fittable (.ofFn grid fun ix iy => f (grid.node ix iy)) :=
    fittable_of_valid h (Grid.wellFormed_ofFn ..)
  refine ⟨_, fit_of_fittable hfits .origin projection, fun ix hix iy hiy => ?_⟩
  exact (valueAt_through_node hfits projection hix hiy).trans (Grid.get_ofFn grid _ hix hiy)

namespace Reprojection

theorem sq_add_sq_of_turn {s c : ℝ} (h : s ^ 2 + c ^ 2 = 1) (u v : ℝ) :
    (u * c - v * s) ^ 2 + (u * s + v * c) ^ 2 = u ^ 2 + v ^ 2 := by
  linear_combination (u ^ 2 + v ^ 2) * h

theorem rotated_sq (x y : Spline ℝ) (target : Projection ℝ) (p : Point ℝ) :
    (rotated x y target p).1 ^ 2 + (rotated x y target p).2 ^ 2 =
      x.valueAt (target.transfer p x.projection) ^ 2 +
        y.valueAt (target.transfer p x.projection) ^ 2 :=
  sq_add_sq_of_turn (Real.sin_sq_add_cos_sq _) _ _

section

variable {x y : Spline ℝ} {target : Projection ℝ}

theorem components_nodes (hx : x.Usable) (hy : y.Usable) (hgrid : (targetGrid x target).Valid) :
    ∃ rx ry, components x y target = .ok (rx, ry) ∧
      ∀ ix < (targetGrid x target).nx, ∀ iy < (targetGrid x target).ny,
        let p := (targetGrid x target).node ix iy
        (rx.valueAt p, ry.valueAt p) = rotated x y target p := by
  obtain ⟨rx, hrx, hxs⟩ := Spline.fit_ofFn hgrid (fun p => (rotated x y target p).1) target
  obtain ⟨ry, hry, hys⟩ := Spline.fit_ofFn hgrid (fun p => (rotated x y target p).2) target
  refine ⟨rx, ry, ?_, fun ix hix iy hiy => ?_⟩
  · rw [components, Spline.ensureUsable, Spline.ensureUsable, if_pos hx, if_pos hy, ok_bind, ok_bind]
    dsimp only
    rw [hrx, hry]
    rfl
  · dsimp only
    rw [hxs ix hix iy hiy, hys ix hix iy hiy]

/-- Two usable surfaces are reprojected onto every target that has a valid grid, or takes that of the
first one, and at each of its nodes the vector is as long as it is at the place of the node on the
map of the first one, where the second is sampled as well. -/
theorem components_magnitude (hx : x.Usable) (hy : y.Usable)
    (hgrid : (targetGrid x target).Valid) :
    ∃ rx ry, components x y target = .ok (rx, ry) ∧
      ∀ ix < (targetGrid x target).nx, ∀ iy < (targetGrid x target).ny,
        let p := (targetGrid x target).node ix iy
        let q := target.transfer p x.projection
        rx.valueAt p ^ 2 + ry.valueAt p ^ 2 = x.valueAt q ^ 2 + y.valueAt q ^ 2 := by
  obtain ⟨rx, ry, hcomponents, hnodes⟩ := components_nodes hx hy hgrid
  refine ⟨rx, ry, hcomponents, fun ix hix iy hiy => ?_⟩
  obtain ⟨hrx, hry⟩ := Prod.ext_iff.mp (hnodes ix hix iy hiy)
  dsimp only at hrx hry ⊢
  rw [hrx, hry]
  exact rotated_sq x y target _

end

namespace Breeze

noncomputable def component (speed : ℝ) : Spline ℝ := .constant speed ⟨2, 2, 1⟩ .standard

noncomputable def target : Projection ℝ :=
  ⟨.polarStereographic true 75, .standard, some ⟨3, 2, 1⟩⟩

theorem usable (speed : ℝ) : (component speed).Usable :=
  Spline.constant_usable (GridSpec.valid_iff.mpr ⟨le_rfl, le_rfl, by norm_num⟩) speed _

theorem valueAt (speed : ℝ) (p : Point ℝ) : (component speed).valueAt p = speed :=
  Spline.valueAt_constant (GridSpec.valid_iff.mpr ⟨le_rfl, le_rfl, by norm_num⟩) speed _ p

end Breeze

theorem components_magnitude_breeze :
    (Breeze.component 3).Usable ∧ (Breeze.component 4).Usable ∧
      (targetGrid (Breeze.component 3) Breeze.target).Valid ∧
      ∃ rx ry, components (Breeze.component 3) (Breeze.component 4) Breeze.target = .ok (rx, ry) ∧
        rx.valueAt ⟨2, 1⟩ ^ 2 + ry.valueAt ⟨2, 1⟩ ^ 2 = 25 := by
  have hgrid : (targetGrid (Breeze.component 3) Breeze.target).Valid :=
    GridSpec.valid_iff.mpr ⟨by decide, le_rfl, by norm_num [targetGrid, Breeze.target]⟩
  obtain ⟨rx, ry, hcomponents, hnodes⟩ :=
    components_magnitude (Breeze.usable 3) (Breeze.usable 4) hgrid
  have hnode : (targetGrid (Breeze.component 3) Breeze.target).node 2 1 = ⟨2, 1⟩ := by
    norm_num [targetGrid, Breeze.target, GridSpec.node]
  have hlast := hnodes 2 (by decide) 1 (by decide)
  simp only [hnode, Breeze.valueAt] at hlast
  refine ⟨Breeze.usable 3, Breeze.usable 4, hgrid, rx, ry, hcomponents, ?_⟩
  rw [hlast]
  norm_num

end Reprojection

end Synoptic
