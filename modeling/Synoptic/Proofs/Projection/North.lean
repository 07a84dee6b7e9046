import Synoptic.Proofs.Projection.Inversion

namespace Synoptic

noncomputable def Point.toward (pos : Point ℝ) (angle distance : ℝ) : Point ℝ :=
  ⟨pos.x + distance * Real.cos angle, pos.y + distance * Real.sin angle⟩

namespace Number

theorem norm_eq_hypot (x y : ℝ) : ‖(⟨x, y⟩ : ℂ)‖ = hypot x y :=
  Complex.norm_eq_sqrt_sq_add_sq ⟨x, y⟩

theorem cos_atan2 {x y : ℝ} (h : 0 < hypot x y) : Real.cos (atan2 y x) = x / hypot x y := by
  have hne : (⟨x, y⟩ : ℂ) ≠ 0 := by
    rw [← norm_pos_iff, norm_eq_hypot]
    exact h
  rw [← norm_eq_hypot]
  exact Complex.cos_arg hne

theorem sin_atan2 (x y : ℝ) : Real.sin (atan2 y x) = y / hypot x y := by
  rw [← norm_eq_hypot]
  exact Complex.sin_arg ⟨x, y⟩

theorem exists_direction (x y : ℝ) :
    ∃ θ ∈ Set.Ioc (-Real.pi) Real.pi, x = hypot y x * Real.sin θ ∧ y = hypot y x * Real.cos θ := by
  refine ⟨Complex.arg ⟨y, x⟩, Complex.arg_mem_Ioc _, ?_, ?_⟩
  · rw [← norm_eq_hypot, Complex.norm_mul_sin_arg]
  · rw [← norm_eq_hypot, Complex.norm_mul_cos_arg]

theorem hypot_comm (x y : ℝ) : hypot x y = hypot y x := by
  change Real.sqrt (x ^ 2 + y ^ 2) = Real.sqrt (y ^ 2 + x ^ 2)
  rw [add_comm]

theorem toDegrees_strictMono : StrictMono (toDegrees : ℝ → ℝ) := by
  intro a b h
  have hpi := Real.pi_pos
  simp only [toDegrees, real_pi]
  gcongr

theorem toDegrees_neg (x : ℝ) : toDegrees (-x) = -toDegrees x := neg_mul x _

theorem toDegrees_quarter : toDegrees (Real.pi / 2) = 90 := by
  have hpi := Real.pi_ne_zero
  simp only [toDegrees, real_pi]
  field_simp
  norm_num

end Number

namespace Projection

open Number

variable {pos : Point ℝ} {distance : ℝ}

/-- A position that has a direction of north: its latitude is not that of a pole, and if the map is
drawn around a pole it is not there. -/
structure HasNorth (p : Projection ℝ) (pos : Point ℝ) : Prop where
  latitude : |(p.latLon pos).1| < 90
  mercator : ∀ trueLat, p.kind = .mercator trueLat → |trueLat| < 90
  polar : ∀ north trueLat, p.kind = .polarStereographic north trueLat →
    1e-6 < hypot (p.metres pos).1 (p.metres pos).2

/-- Distances, in map units, that do not lead northward past the pole. -/
structure ShortOfPole (p : Projection ℝ) (pos : Point ℝ) (distance : ℝ) : Prop where
  latLon : p.kind = .latLon →
    toDegrees (distance * p.frame.units / earthRadius) ≤ 90 - (p.latLon pos).1
  polar : ∀ trueLat, p.kind = .polarStereographic true trueLat →
    distance * p.frame.units < hypot (p.metres pos).1 (p.metres pos).2

theorem metres_toward (p : Projection ℝ) (pos : Point ℝ) (angle distance : ℝ) :
    p.metres (pos.toward angle distance) =
      ((p.metres pos).1 + distance * p.frame.units * Real.cos angle,
        (p.metres pos).2 + distance * p.frame.units * Real.sin angle) := by
  simp only [metres, Point.toward, Prod.mk.injEq]
  constructor <;> ring

section Polar

variable {frame : MapFrame ℝ} {grid : Option (GridSpec ℝ)} {north : Bool} {trueLat r θ : ℝ}

noncomputable def polarPoint (north : Bool) (r θ : ℝ) : ℝ × ℝ :=
  (r * Real.sin θ, if north then -(r * Real.cos θ) else r * Real.cos θ)

theorem exists_polarPoint (north : Bool) (x y : ℝ) :
    ∃ θ ∈ Set.Ioc (-Real.pi) Real.pi, (x, y) = polarPoint north (hypot x y) θ := by
  cases north with
  | false =>
    obtain ⟨θ, hθ, hx, hy⟩ := exists_direction x y
    rw [hypot_comm] at hx hy
    exact ⟨θ, hθ, Prod.ext hx hy⟩
  | true =>
    obtain ⟨θ, hθ, hx, hy⟩ := exists_direction x (-y)
    rw [hypot_comm, hypot_neg_right] at hx hy
    exact ⟨θ, hθ, Prod.ext hx (neg_eq_iff_eq_neg.mp hy)⟩

theorem hypot_polarPoint (hr : 0 ≤ r) :
    hypot (polarPoint north r θ).1 (polarPoint north r θ).2 = r := by
  cases north with
  | false => exact hypot_mul_sin_cos hr θ
  | true => exact (hypot_neg_right _ _).trans (hypot_mul_sin_cos hr θ)

theorem metres_north (hr : 1e-6 < r)
    (hpos : (⟨.polarStereographic north trueLat, frame, grid⟩ : Projection ℝ).metres pos =
      polarPoint north r θ) (distance : ℝ) :
    let p : Projection ℝ := ⟨.polarStereographic north trueLat, frame, grid⟩
    p.metres (pos.toward (p.northAngle pos) distance) =
      polarPoint north (if north then r - distance * frame.units else r + distance * frame.units)
        θ := by
  have hpositive : 0 < r := lt_trans (by norm_num) hr
  have hfar : ¬ hypot (polarPoint north r θ).1 (polarPoint north r θ).2 < 1e-6 := by
    rw [hypot_polarPoint hpositive.le]
    exact not_lt.mpr hr.le
  have hne := hpositive.ne'
  dsimp only
  cases north with
  | false =>
    have hangle : (⟨.polarStereographic false trueLat, frame, grid⟩ : Projection ℝ).northAngle pos =
        atan2 (r * Real.cos θ) (r * Real.sin θ) := by
      simp only [northAngle, hpos]
      exact if_neg hfar
    have hdistance : hypot (r * Real.sin θ) (r * Real.cos θ) = r :=
      hypot_mul_sin_cos hpositive.le θ
    rw [hangle, metres_toward, hpos, cos_atan2 (hdistance.symm ▸ hpositive), sin_atan2, hdistance,
      mul_div_cancel_left₀ _ hne, mul_div_cancel_left₀ _ hne]
    simp only [polarPoint, Bool.false_eq_true, if_false, Prod.mk.injEq]
    constructor <;> ring
  | true =>
    have hangle : (⟨.polarStereographic true trueLat, frame, grid⟩ : Projection ℝ).northAngle pos =
        atan2 (r * Real.cos θ) (r * -Real.sin θ) := by
      simp only [northAngle, hpos]
      rw [mul_neg, ← neg_neg (r * Real.cos θ)]
      exact if_neg hfar
    have hdistance : hypot (r * -Real.sin θ) (r * Real.cos θ) = r := by
      rw [← Real.sin_neg, ← Real.cos_neg]
      exact hypot_mul_sin_cos hpositive.le (-θ)
    rw [hangle, metres_toward, hpos, cos_atan2 (hdistance.symm ▸ hpositive), sin_atan2, hdistance,
      mul_div_cancel_left₀ _ hne, mul_div_cancel_left₀ _ hne]
    simp only [polarPoint, if_true, Prod.mk.injEq]
    constructor <;> ring

def polarLatitude {α : Type} [Number α] (north : Bool) (scale r : α) : α :=
  let colat := 2 * atan (r / scale)
  if north then pi / 2 - colat else colat - pi / 2

theorem polarLatitude_eq (scale r : ℝ) : polarLatitude north scale r =
    if north then Real.pi / 2 - 2 * Real.arctan (r / scale)
    else 2 * Real.arctan (r / scale) - Real.pi / 2 := rfl

theorem latLon_polar (hr : 0 < r) (hθ : θ ∈ Set.Ioc (-Real.pi) Real.pi)
    (hpos : (⟨.polarStereographic north trueLat, frame, grid⟩ : Projection ℝ).metres pos =
      polarPoint north r θ) :
    (⟨.polarStereographic north trueLat, frame, grid⟩ : Projection ℝ).latLon pos =
      (toDegrees (polarLatitude north (poleScale trueLat) r),
        wrapDegrees (toDegrees θ + frame.referenceLon)) := by
  rw [latLon, hpos]
  exact planeInverse_polar hr hθ north

theorem scale_ne_neg_one (h : |toDegrees (polarLatitude north (poleScale trueLat) r)| < 90) :
    Real.sin (toRadians |trueLat|) ≠ -1 := by
  intro hsin
  have hscale : poleScale trueLat = 0 := by
    rw [poleScale, real_one]
    exact mul_eq_zero_of_right _ (add_eq_zero_iff_eq_neg'.mpr hsin)
  rw [polarLatitude_eq, hscale, div_zero, Real.arctan_zero, mul_zero] at h
  cases north with
  | false =>
    simp only [Bool.false_eq_true, if_false, zero_sub] at h
    norm_num [toDegrees_neg, toDegrees_quarter] at h
  | true =>
    simp only [if_true, sub_zero] at h
    norm_num [toDegrees_quarter] at h

theorem polarLatitude_mem {scale : ℝ} (hscale : 0 < scale) (hr : 0 < r) :
    polarLatitude north scale r ∈ Set.Ioo (-(Real.pi / 2)) (Real.pi / 2) := by
  have hpositive : 0 < Real.arctan (r / scale) := Real.arctan_pos.mpr (div_pos hr hscale)
  have hbelow := Real.arctan_lt_pi_div_two (r / scale)
  cases north with
  | false =>
    simp only [polarLatitude_eq, Bool.false_eq_true, if_false]
    constructor <;> linarith
  | true =>
    simp only [polarLatitude_eq, if_true]
    constructor <;> linarith

theorem polarLatitude_lt {scale r' : ℝ} (hscale : 0 < scale)
    (h : if north then r' < r else r < r') :
    polarLatitude north scale r < polarLatitude north scale r' := by
  cases north with
  | false =>
    have hturn := Real.arctan_strictMono (div_lt_div_of_pos_right h hscale)
    simp only [polarLatitude_eq, Bool.false_eq_true, if_false]
    linarith
  | true =>
    have hturn := Real.arctan_strictMono (div_lt_div_of_pos_right h hscale)
    simp only [polarLatitude_eq, if_true]
    linarith

theorem latLon_north_polar (hunits : 0 < frame.units)
    (hnorth : HasNorth ⟨.polarStereographic north trueLat, frame, grid⟩ pos)
    (hdistance : 0 < distance)
    (hshort : ShortOfPole ⟨.polarStereographic north trueLat, frame, grid⟩ pos distance) :
    let p : Projection ℝ := ⟨.polarStereographic north trueLat, frame, grid⟩
    let q := pos.toward (p.northAngle pos) distance
    (p.latLon q).2 = (p.latLon pos).2 ∧ (p.latLon q).1 ∈ Set.Ioc (p.latLon pos).1 90 := by
  intro p q
  have hfar := hnorth.polar north trueLat rfl
  obtain ⟨θ, hθ, hpos⟩ := exists_polarPoint north (p.metres pos).1 (p.metres pos).2
  generalize hr : hypot (p.metres pos).1 (p.metres pos).2 = r at hpos
  have hr_far : 1e-6 < r := hr ▸ hfar
  have hr_pos : 0 < r := lt_trans (by norm_num) hr_far
  have hstep : 0 < distance * frame.units := mul_pos hdistance hunits
  let r' := if north then r - distance * frame.units else r + distance * frame.units
  have hr'_pos : 0 < r' := by
    cases north with
    | false => exact add_pos hr_pos hstep
    | true =>
      have hbefore : distance * frame.units < r := hr ▸ hshort.polar trueLat rfl
      exact sub_pos.mpr hbefore
  have hnearer : if north then r' < r else r < r' := by
    cases north with
    | false => exact lt_add_of_pos_right r hstep
    | true => exact sub_lt_self r hstep
  have hfrom : p.latLon pos = _ := latLon_polar hr_pos hθ hpos
  have hto : p.latLon q = _ := latLon_polar hr'_pos hθ (metres_north hr_far hpos distance)
  have hlat : |(p.latLon pos).1| < 90 := hnorth.latitude
  rw [hfrom] at hlat
  have hscale := poleScale_pos (scale_ne_neg_one hlat)
  rw [hfrom, hto]
  refine ⟨rfl, toDegrees_strictMono (polarLatitude_lt hscale hnearer), ?_⟩
  rw [← toDegrees_quarter]
  exact (toDegrees_strictMono (polarLatitude_mem hscale hr'_pos).2).le

theorem hasNorth_polar (h : Real.sin (toRadians |trueLat|) ≠ -1)
    (hfar : 1e-6 < hypot ((⟨.polarStereographic north trueLat, frame, grid⟩ : Projection ℝ).metres
      pos).1 ((⟨.polarStereographic north trueLat, frame, grid⟩ : Projection ℝ).metres pos).2) :
    HasNorth ⟨.polarStereographic north trueLat, frame, grid⟩ pos := by
  refine ⟨?_, fun _ hkind => (by cases hkind), fun _ _ _ => hfar⟩
  have hr := lt_trans (by norm_num : (0 : ℝ) < 1e-6) hfar
  obtain ⟨θ, hθ, hpos⟩ := exists_polarPoint north _ _
  rw [latLon_polar hr hθ hpos]
  have hlat : polarLatitude north (poleScale trueLat) _ ∈ _ := polarLatitude_mem (poleScale_pos h) hr
  obtain ⟨hsouth, hnorth⟩ := hlat
  rw [abs_lt, ← toDegrees_quarter, ← toDegrees_neg]
  exact ⟨toDegrees_strictMono hsouth, toDegrees_strictMono hnorth⟩

end Polar

section Straight

variable {frame : MapFrame ℝ} {grid : Option (GridSpec ℝ)} {trueLat : ℝ}

theorem metres_upward (p : Projection ℝ) (pos : Point ℝ) (distance : ℝ) :
    p.metres (pos.toward (Real.pi / 2) distance) =
      ((p.metres pos).1, (p.metres pos).2 + distance * p.frame.units) := by
  rw [metres_toward, Real.cos_pi_div_two, Real.sin_pi_div_two, mul_zero, add_zero, mul_one]

theorem latLon_north_latLon (hunits : 0 < frame.units) (hdistance : 0 < distance)
    (hshort : ShortOfPole ⟨.latLon, frame, grid⟩ pos distance) :
    let p : Projection ℝ := ⟨.latLon, frame, grid⟩
    let q := pos.toward (p.northAngle pos) distance
    (p.latLon q).2 = (p.latLon pos).2 ∧ (p.latLon q).1 ∈ Set.Ioc (p.latLon pos).1 90 := by
  intro p q
  have hq : p.metres q = _ := metres_upward p pos distance
  have hstep : 0 < distance * frame.units / earthRadius :=
    div_pos (mul_pos hdistance hunits) earthRadius_pos
  have hsum : (p.latLon q).1 =
      (p.latLon pos).1 + toDegrees (distance * frame.units / earthRadius) := by
    simp only [latLon, hq, planeInverse, p, toDegrees, real_pi]
    ring
  have hgain : 0 < toDegrees (distance * frame.units / earthRadius) := by
    rw [← zero_mul (180 / Real.pi)]
    exact toDegrees_strictMono hstep
  refine ⟨?_, ?_, ?_⟩
  · simp only [latLon, hq, planeInverse, p]
  · rw [hsum]
    exact lt_add_of_pos_right _ hgain
  · rw [hsum]
    exact le_sub_iff_add_le'.mp (hshort.latLon rfl)

theorem latLon_north_mercator (hunits : 0 < frame.units) (htrue : |trueLat| < 90)
    (hdistance : 0 < distance) :
    let p : Projection ℝ := ⟨.mercator trueLat, frame, grid⟩
    let q := pos.toward (p.northAngle pos) distance
    (p.latLon q).2 = (p.latLon pos).2 ∧ (p.latLon q).1 ∈ Set.Ioc (p.latLon pos).1 90 := by
  intro p q
  have hq : p.metres q = _ := metres_upward p pos distance
  have hk : 0 < earthRadius * Real.cos (toRadians trueLat) :=
    mul_pos earthRadius_pos (Real.cos_pos_of_mem_Ioo (toRadians_mem_Ioo htrue))
  have hlat (y : ℝ) : (p.planeInverse (p.metres pos).1 y).1 =
      toDegrees (2 * Real.arctan (Real.exp (y / (earthRadius * Real.cos (toRadians trueLat)))) -
        Real.pi / 2) := rfl
  refine ⟨?_, ?_, ?_⟩
  · simp only [latLon, hq, planeInverse, p]
  · rw [latLon, latLon, hq]
    dsimp only
    rw [hlat, hlat]
    apply toDegrees_strictMono
    have hgrows : (p.metres pos).2 / (earthRadius * Real.cos (toRadians trueLat)) <
        ((p.metres pos).2 + distance * frame.units) /
          (earthRadius * Real.cos (toRadians trueLat)) :=
      div_lt_div_of_pos_right (lt_add_of_pos_right _ (mul_pos hdistance hunits)) hk
    have hturn := Real.arctan_strictMono (Real.exp_strictMono hgrows)
    linarith
  · rw [latLon, hq]
    dsimp only
    rw [hlat, ← toDegrees_quarter]
    apply toDegrees_strictMono.monotone
    have hbelow := Real.arctan_lt_pi_div_two
      (Real.exp (((p.metres pos).2 + distance * frame.units) /
        (earthRadius * Real.cos (toRadians trueLat))))
    linarith

end Straight

/-- On a map of positive units, whoever goes in the direction of north from a position that has one,
and not past the pole, keeps the longitude and comes to a greater latitude. -/
theorem latLon_toward_north (p : Projection ℝ) (hunits : 0 < p.frame.units) (hnorth : p.HasNorth pos)
    (hdistance : 0 < distance) (hshort : p.ShortOfPole pos distance) :
    (p.latLon (pos.toward (p.northAngle pos) distance)).2 = (p.latLon pos).2 ∧
      (p.latLon (pos.toward (p.northAngle pos) distance)).1 ∈ Set.Ioc (p.latLon pos).1 90 := by
  obtain ⟨kind, frame, grid⟩ := p
  cases kind with
  | latLon => exact latLon_north_latLon hunits hdistance hshort
  | mercator trueLat => exact latLon_north_mercator hunits (hnorth.mercator trueLat rfl) hdistance
  | polarStereographic north trueLat => exact latLon_north_polar hunits hnorth hdistance hshort

theorem originPlane_northPole {trueLat lon reference x y units : ℝ} :
    (⟨.polarStereographic true trueLat, ⟨90, lon, reference, x, y, 0, 0, units⟩, none⟩ :
      Projection ℝ).originPlane = (0, 0) := by
  have hpole : toRadians (90 : ℝ) = Real.pi / 2 := by
    simp only [toRadians, real_pi]
    ring
  simp only [originPlane, plane, hpole, real_cos, Real.cos_pi_div_two, if_true, mul_zero, zero_div,
    neg_zero, zero_mul]

theorem latLon_toward_north_northern : ∃ (p : Projection ℝ) (pos : Point ℝ),
    p.kind = .polarStereographic true (-60) ∧ 0 < p.frame.units ∧ p.HasNorth pos ∧
      p.ShortOfPole pos 4 ∧
      (p.latLon (pos.toward (p.northAngle pos) 4)).1 ∈ Set.Ioc (p.latLon pos).1 90 := by
  let p : Projection ℝ := ⟨.polarStereographic true (-60), ⟨90, 100, 30, 5, 7, 0, 0, 250⟩, none⟩
  have hmetres : p.metres ⟨8, 3⟩ = (750, -1000) := by
    rw [metres, originPlane_northPole]
    norm_num [p]
  have hdistance : hypot (p.metres ⟨8, 3⟩).1 (p.metres ⟨8, 3⟩).2 = 1250 := by
    rw [hmetres]
    change Real.sqrt (750 ^ 2 + (-1000) ^ 2) = 1250
    rw [show (750 : ℝ) ^ 2 + (-1000) ^ 2 = 1250 ^ 2 by norm_num]
    exact Real.sqrt_sq (by norm_num)
  have hsixty : toRadians |(-60 : ℝ)| ∈ Set.Icc 0 Real.pi := by
    have hpi := Real.pi_pos
    rw [abs_neg, abs_of_pos (by norm_num), toRadians, real_pi]
    constructor <;> linarith
  have hunits : 0 < p.frame.units := by norm_num [p]
  have hnorth : p.HasNorth ⟨8, 3⟩ := by
    apply hasNorth_polar
    · exact (neg_one_lt_zero.trans_le (Real.sin_nonneg_of_mem_Icc hsixty)).ne'
    · exact lt_of_lt_of_eq (by norm_num) hdistance.symm
  have hshort : p.ShortOfPole ⟨8, 3⟩ 4 := by
    constructor
    · intro hkind
      cases hkind
    · intro _ _
      rw [hdistance]
      norm_num [p]
  exact ⟨p, ⟨8, 3⟩, rfl, hunits, hnorth, hshort,
    (latLon_toward_north p hunits hnorth (by norm_num) hshort).2⟩

end Projection

end Synoptic
