import Mathlib.Analysis.Calculus.FDeriv.Prod
import Synoptic.Operator.Derivative
import Synoptic.Proofs.Sampling.Agreement
import Synoptic.Proofs.Spline.Calculus

namespace Synoptic

def Context.positions {α : Type} [Number α] (ctx : Context α) :
    Except (ValueError α) (Array (Point α)) :=
  match ctx.points with
  | some points => .ok points
  | none => do
    let grid ← ctx.defaultGrid
    .ok grid.nodes

def Value.numbers {α : Type} : Value α → Array α
  | .scalar x => #[x]
  | .grid g => g.data
  | .samples s => s.values
  | .spline s => s.coeffs

theorem sample_positions {ctx : Context ℝ} {ps : Array (Point ℝ)} (h : ctx.positions = .ok ps)
    (f : Point ℝ → ℝ) : ∃ v, sample ctx f = .ok v ∧ v.numbers = ps.map f := by
  simp only [Context.positions] at h
  simp only [sample]
  cases hpoints : ctx.points with
  | some points =>
    simp only [hpoints] at h
    cases h
    exact ⟨_, rfl, rfl⟩
  | none =>
    simp only [hpoints] at h
    obtain ⟨grid, hgrid, h⟩ := ok_of_bind h
    cases h
    rw [hgrid]
    exact ⟨.grid (.ofFn grid fun ix iy => f (grid.node ix iy)), rfl, (map_tabulate ..).symm⟩

noncomputable def alongX (f : Point ℝ → ℝ) (p : Point ℝ) : ℝ := deriv (fun x => f ⟨x, p.y⟩) p.x

noncomputable def alongY (f : Point ℝ → ℝ) (p : Point ℝ) : ℝ := deriv (fun y => f ⟨p.x, y⟩) p.y

def DifferentiableOnMap (f : Point ℝ → ℝ) (p : Point ℝ) : Prop :=
  DifferentiableAt ℝ (fun z : ℝ × ℝ => f ⟨z.1, z.2⟩) (p.x, p.y)

theorem DifferentiableOnMap.hasDerivAt_alongX {f : Point ℝ → ℝ} {p : Point ℝ}
    (h : DifferentiableOnMap f p) : HasDerivAt (fun x => f ⟨x, p.y⟩) (alongX f p) p.x := by
  have hline : DifferentiableAt ℝ (fun x : ℝ => (x, p.y)) p.x := by fun_prop
  exact (DifferentiableAt.comp (f := fun x : ℝ => (x, p.y)) p.x h hline).hasDerivAt

theorem DifferentiableOnMap.hasDerivAt_alongY {f : Point ℝ → ℝ} {p : Point ℝ}
    (h : DifferentiableOnMap f p) : HasDerivAt (fun y => f ⟨p.x, y⟩) (alongY f p) p.y := by
  have hline : DifferentiableAt ℝ (fun y : ℝ => (p.x, y)) p.y := by fun_prop
  exact (DifferentiableAt.comp (f := fun y : ℝ => (p.x, y)) p.y h hline).hasDerivAt

structure Projection.TransfersSmoothly (p q : Projection ℝ) (pos : Point ℝ) : Prop where
  x : DifferentiableOnMap (fun pos => (p.transfer pos q).x) pos
  y : DifferentiableOnMap (fun pos => (p.transfer pos q).y) pos

namespace Spline

def seenOn {α : Type} [Number α] (s : Spline α) (map : Projection α) (p : Point α) : α :=
  s.valueAt (map.transfer p s.projection)

/-- The transfer from a map keeps the derivative of a surface along the x axis. -/
def KeepsAlongX (s : Spline ℝ) (map : Projection ℝ) (p : Point ℝ) : Prop :=
  alongX s.valueAt (map.transfer p s.projection) =
    alongX s.valueAt (map.transfer p s.projection) *
        alongX (fun p => (map.transfer p s.projection).x) p +
      alongY s.valueAt (map.transfer p s.projection) *
        alongX (fun p => (map.transfer p s.projection).y) p

def KeepsAlongY (s : Spline ℝ) (map : Projection ℝ) (p : Point ℝ) : Prop :=
  alongY s.valueAt (map.transfer p s.projection) =
    alongX s.valueAt (map.transfer p s.projection) *
        alongY (fun p => (map.transfer p s.projection).x) p +
      alongY s.valueAt (map.transfer p s.projection) *
        alongY (fun p => (map.transfer p s.projection).y) p

variable {s : Spline ℝ} (hs : s.Usable)

include hs

theorem alongX_valueAt (p : Point ℝ) : alongX s.valueAt p = (s.derivativesAt p).fx := by
  have h := hasDerivAt_valueAt hs (hasDerivAt_id' p.x) (hasDerivAt_const p.x p.y)
  rw [mul_one, mul_zero, add_zero] at h
  exact h.deriv

theorem alongY_valueAt (p : Point ℝ) : alongY s.valueAt p = (s.derivativesAt p).fy := by
  have h := hasDerivAt_valueAt hs (hasDerivAt_const p.y p.x) (hasDerivAt_id' p.y)
  rw [mul_one, mul_zero, zero_add] at h
  exact h.deriv

variable {map : Projection ℝ} {p : Point ℝ} (h : map.TransfersSmoothly s.projection p)

include h

theorem alongX_seenOn : alongX (s.seenOn map) p =
    alongX s.valueAt (map.transfer p s.projection) *
        alongX (fun p => (map.transfer p s.projection).x) p +
      alongY s.valueAt (map.transfer p s.projection) *
        alongX (fun p => (map.transfer p s.projection).y) p := by
  rw [alongX_valueAt hs, alongY_valueAt hs]
  exact (hasDerivAt_valueAt hs h.x.hasDerivAt_alongX h.y.hasDerivAt_alongX).deriv

theorem alongY_seenOn : alongY (s.seenOn map) p =
    alongX s.valueAt (map.transfer p s.projection) *
        alongY (fun p => (map.transfer p s.projection).x) p +
      alongY s.valueAt (map.transfer p s.projection) *
        alongY (fun p => (map.transfer p s.projection).y) p := by
  rw [alongX_valueAt hs, alongY_valueAt hs]
  exact (hasDerivAt_valueAt hs h.x.hasDerivAt_alongY h.y.hasDerivAt_alongY).deriv

end Spline

section Gradient

variable {s : Spline ℝ} (hs : s.Usable) {ctx : Context ℝ} {ps : Array (Point ℝ)}
  (hps : ctx.positions = .ok ps)

include hs hps

theorem ddx_surface : ∃ v, ddx (.spline s) ctx = .ok v ∧ v.numbers = ps.map fun p =>
    alongX s.valueAt (ctx.projection.transfer p s.projection) * ctx.unitFactor := by
  simp only [Spline.alongX_valueAt hs, ddx, differentiate, differentiand, if_pos hs]
  exact sample_positions hps _

theorem ddy_surface : ∃ v, ddy (.spline s) ctx = .ok v ∧ v.numbers = ps.map fun p =>
    alongY s.valueAt (ctx.projection.transfer p s.projection) * ctx.unitFactor := by
  simp only [Spline.alongY_valueAt hs, ddy, differentiate, differentiand, if_pos hs]
  exact sample_positions hps _

theorem ddx_ddy_of_sameMap (hmap : ctx.projection.sameMap s.projection = true) :
    (∃ v, ddx (.spline s) ctx = .ok v ∧
        v.numbers = ps.map fun p => ctx.unitFactor * alongX (s.seenOn ctx.projection) p) ∧
      ∃ v, ddy (.spline s) ctx = .ok v ∧
        v.numbers = ps.map fun p => ctx.unitFactor * alongY (s.seenOn ctx.projection) p := by
  have hseen : s.seenOn ctx.projection = s.valueAt := by
    funext p
    rw [Spline.seenOn, Projection.transfer_of_sameMap hmap]
  have hx := ddx_surface hs hps
  have hy := ddy_surface hs hps
  simp only [Projection.transfer_of_sameMap hmap, mul_comm _ ctx.unitFactor] at hx hy
  rw [hseen]
  exact ⟨hx, hy⟩

end Gradient

/-- The derivative operators have a value at every position. Where the transfer is differentiable it
is the derivative that is seen on the map of the context exactly if the transfer keeps it. -/
theorem ddx_ddy_seen_iff {s : Spline ℝ} (hs : s.Usable) {ctx : Context ℝ} {ps : Array (Point ℝ)}
    (hps : ctx.positions = .ok ps) :
    (∃ v, ddx (.spline s) ctx = .ok v ∧ v.numbers.size = ps.size ∧
        ∀ (i : Nat) (p : Point ℝ), ps[i]? = some p →
          ctx.projection.TransfersSmoothly s.projection p →
          (v.numbers[i]? = some (ctx.unitFactor * alongX (s.seenOn ctx.projection) p) ↔
            ctx.unitFactor = 0 ∨ s.KeepsAlongX ctx.projection p)) ∧
      ∃ v, ddy (.spline s) ctx = .ok v ∧ v.numbers.size = ps.size ∧
        ∀ (i : Nat) (p : Point ℝ), ps[i]? = some p →
          ctx.projection.TransfersSmoothly s.projection p →
          (v.numbers[i]? = some (ctx.unitFactor * alongY (s.seenOn ctx.projection) p) ↔
            ctx.unitFactor = 0 ∨ s.KeepsAlongY ctx.projection p) := by
  constructor
  · obtain ⟨v, hv, hnumbers⟩ := ddx_surface hs hps
    refine ⟨v, hv, by simp [hnumbers], ?_⟩
    intro i p hp hsmooth
    rw [hnumbers, Array.getElem?_map, hp, Option.map_some, Option.some_inj, mul_comm,
      mul_eq_mul_left_iff, Spline.alongX_seenOn hs hsmooth, or_comm]
    exact Iff.rfl
  · obtain ⟨v, hv, hnumbers⟩ := ddy_surface hs hps
    refine ⟨v, hv, by simp [hnumbers], ?_⟩
    intro i p hp hsmooth
    rw [hnumbers, Array.getElem?_map, hp, Option.map_some, Option.some_inj, mul_comm,
      mul_eq_mul_left_iff, Spline.alongY_seenOn hs hsmooth, or_comm]
    exact Iff.rfl

namespace Halved

noncomputable def surface : Spline ℝ := .ramp (.plain 1000)

noncomputable def context : Context ℝ :=
  (Context.standard (.plain 500) .epoch).withPoints #[⟨0, 0⟩]

theorem usable : surface.Usable := Spline.ramp_usable _

theorem positions : context.positions = .ok #[⟨0, 0⟩] := rfl

theorem transfer_eventually :
    ∀ᶠ z : ℝ × ℝ in nhds (0, 0),
      context.projection.transfer ⟨z.1, z.2⟩ surface.projection = ⟨z.1 / 2, z.2 / 2⟩ := by
  have hR : (0 : ℝ) < Projection.earthRadius := by norm_num [Projection.earthRadius]
  have hpi := mul_pos Real.pi_pos hR
  have hnear : ∀ᶠ z : ℝ × ℝ in nhds (0, 0), |z.1 * 500| < Real.pi * Projection.earthRadius :=
    ContinuousAt.eventually_lt (by fun_prop) (by fun_prop) (by simpa using hpi)
  filter_upwards [hnear] with z hz
  have hunits : (500 : ℝ) ≠ 1000 := by norm_num
  refine (Projection.transfer_plain hunits hz).trans ?_
  rw [Point.mk.injEq]
  constructor <;> ring

theorem transfersSmoothly : context.projection.TransfersSmoothly surface.projection ⟨0, 0⟩ := by
  constructor
  · have hhalf : DifferentiableAt ℝ (fun z : ℝ × ℝ => z.1 / 2) (0, 0) := by fun_prop
    apply hhalf.congr_of_eventuallyEq
    filter_upwards [transfer_eventually] with z hz
    rw [hz]
  · have hhalf : DifferentiableAt ℝ (fun z : ℝ × ℝ => z.2 / 2) (0, 0) := by fun_prop
    apply hhalf.congr_of_eventuallyEq
    filter_upwards [transfer_eventually] with z hz
    rw [hz]

theorem alongX_valueAt : alongX surface.valueAt ⟨0, 0⟩ = 1 := by
  have horigin : (⟨0, 0⟩ : Point ℝ) = surface.origin := by simp [surface, Spline.ramp, Point.origin]
  rw [Spline.alongX_valueAt usable, horigin]
  simp only [Spline.derivativesAt, Spline.toNodes_origin, Spline.locate_zero]
  simp only [surface, Spline.weighted, Spline.rowSum, Nat.zero_add, Spline.coeff_ramp, Spline.basis,
    Spline.basis₁, Number.real_zero, Number.real_one, Nat.reduceLT]
  norm_num [Spline.ramp, Number.toRadians]

theorem alongX_seenOn : alongX (surface.seenOn context.projection) ⟨0, 0⟩ = 1 / 2 := by
  have hline : Filter.Tendsto (fun x : ℝ => (x, (0 : ℝ))) (nhds 0) (nhds (0, 0)) := by
    apply Continuous.tendsto' (by fun_prop) _ _ rfl
  have hhalf : (fun x : ℝ => surface.seenOn context.projection ⟨x, 0⟩) =ᶠ[nhds 0]
      fun x => surface.valueAt ⟨x / 2, 0⟩ := by
    filter_upwards [hline.eventually transfer_eventually] with x hx
    rw [Spline.seenOn, hx, zero_div]
  have hslope := Spline.hasDerivAt_valueAt usable ((hasDerivAt_id' (0 : ℝ)).div_const 2)
    (hasDerivAt_const (0 : ℝ) (0 : ℝ))
  rw [zero_div, ← Spline.alongX_valueAt usable, alongX_valueAt] at hslope
  rw [alongX, hhalf.deriv_eq, hslope.deriv]
  norm_num

theorem unitFactor : context.unitFactor = 1 / 500 := by
  simp [Context.unitFactor, context, Context.standard, Context.withPoints, Projection.plain]

end Halved

theorem ddx_ddy_seen_iff_halved :
    Halved.surface.Usable ∧ Halved.context.positions = .ok #[⟨0, 0⟩] ∧
      Halved.context.projection.TransfersSmoothly Halved.surface.projection ⟨0, 0⟩ ∧
      (∃ v, ddx (.spline Halved.surface) Halved.context = .ok v ∧ v.numbers.size = 1 ∧
        (v.numbers[0]? = some (Halved.context.unitFactor *
            alongX (Halved.surface.seenOn Halved.context.projection) ⟨0, 0⟩) ↔
          Halved.context.unitFactor = 0 ∨
            Halved.surface.KeepsAlongX Halved.context.projection ⟨0, 0⟩)) := by
  obtain ⟨⟨v, hv, hsize, h⟩, _⟩ := ddx_ddy_seen_iff Halved.usable Halved.positions
  exact ⟨Halved.usable, Halved.positions, Halved.transfersSmoothly, v, hv, hsize,
    h 0 ⟨0, 0⟩ rfl Halved.transfersSmoothly⟩

/-- Between maps of different units a derivative is taken per unit of the one and scaled by the
units of the other. -/
theorem ddx_ne_seen :
    Halved.surface.Usable ∧ Halved.context.positions = .ok #[⟨0, 0⟩] ∧
      Halved.context.projection.TransfersSmoothly Halved.surface.projection ⟨0, 0⟩ ∧
      ∃ v, ddx (.spline Halved.surface) Halved.context = .ok v ∧
        v.numbers[0]? ≠ some (Halved.context.unitFactor *
          alongX (Halved.surface.seenOn Halved.context.projection) ⟨0, 0⟩) := by
  refine ⟨Halved.usable, Halved.positions, Halved.transfersSmoothly, ?_⟩
  obtain ⟨v, hv, hnumbers⟩ := ddx_surface Halved.usable Halved.positions
  have htransfer :
      Halved.context.projection.transfer ⟨0, 0⟩ Halved.surface.projection = ⟨0, 0⟩ := by
    have h := Halved.transfer_eventually.self_of_nhds
    rwa [zero_div] at h
  refine ⟨v, hv, ?_⟩
  simp [hnumbers, htransfer, Halved.alongX_valueAt, Halved.alongX_seenOn, Halved.unitFactor]

end Synoptic
