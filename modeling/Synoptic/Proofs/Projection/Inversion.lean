import Synoptic.Proofs.Projection.Angle

namespace Synoptic.Projection

open Number

/-- The plane has points at a latitude: a polar plane has none at the other pole, where it would be
divided by zero. -/
def Projectable (p : Projection ℝ) (lat : ℝ) : Prop :=
  match p.kind with
  | .latLon | .mercator _ => True
  | .polarStereographic true _ => 1 + Real.sin (toRadians lat) ≠ 0
  | .polarStereographic false _ => 1 - Real.sin (toRadians lat) ≠ 0

/-- Neither the map unit nor the scale of the plane vanishes, and the plane has the origin. Where it
has not, positions come from a division by zero, which gives a number here but none on a machine. -/
structure Spreads (p : Projection ℝ) : Prop where
  units : p.frame.units ≠ 0
  origin : p.Projectable p.frame.originLat
  scale :
    match p.kind with
    | .latLon => True
    | .mercator trueLat => Real.cos (toRadians trueLat) ≠ 0
    | .polarStereographic _ trueLat => Real.sin (toRadians |trueLat|) ≠ -1

/-- Latitudes that are shown apart from each other, short of the poles. -/
def Shows (p : Projection ℝ) (lat : ℝ) : Prop :=
  match p.kind with
  | .mercator _ => |lat| ≤ 89.9
  | .latLon | .polarStereographic .. => |lat| < 90

theorem earthRadius_pos : (0 : ℝ) < earthRadius := by norm_num [earthRadius]

theorem wrapDegrees_toDegrees_add (lon reference : ℝ) :
    wrapDegrees (toDegrees (toRadians (wrapDegrees (lon - reference))) + reference) =
      wrapDegrees lon := by
  rw [toDegrees_toRadians, wrapDegrees_wrapDegrees_add]
  congr 1
  exact sub_add_cancel lon reference

section Plane

variable {frame : MapFrame ℝ} {grid : Option (GridSpec ℝ)} {lat : ℝ}

theorem planeInverse_plane_latLon (lat lon : ℝ) :
    let p : Projection ℝ := ⟨.latLon, frame, grid⟩
    p.planeInverse (p.plane lat lon).1 (p.plane lat lon).2 = (lat, wrapDegrees lon) := by
  have hR := earthRadius_pos.ne'
  simp only [planeInverse, plane]
  rw [mul_div_cancel_left₀ _ hR, mul_div_cancel_left₀ _ hR, toDegrees_toRadians,
    wrapDegrees_toDegrees_add]

theorem planeInverse_plane_mercator {trueLat : ℝ} (hk : Real.cos (toRadians trueLat) ≠ 0)
    (hlat : |lat| ≤ 89.9) (lon : ℝ) :
    let p : Projection ℝ := ⟨.mercator trueLat, frame, grid⟩
    p.planeInverse (p.plane lat lon).1 (p.plane lat lon).2 = (lat, wrapDegrees lon) := by
  have hk' : earthRadius * cos (toRadians trueLat) ≠ 0 := mul_ne_zero earthRadius_pos.ne' hk
  obtain ⟨hlower, hupper⟩ := abs_le.mp hlat
  have hclamp : clamp (toRadians lat) (toRadians (-89.9)) (toRadians 89.9) = toRadians lat := by
    rw [real_clamp (toRadians_strictMono.monotone (by norm_num)),
      min_eq_left (toRadians_strictMono.monotone hupper),
      max_eq_right (toRadians_strictMono.monotone hlower)]
  -- Half of the way to the pole and the tangent of it are positive.
  obtain ⟨hsouth, hnorth⟩ := toRadians_mem_Ioo (hlat.trans_lt (by norm_num))
  have htan : 0 < Real.tan (Real.pi / 4 + toRadians lat / 2) :=
    Real.tan_pos_of_pos_of_lt_pi_div_two (by linarith) (by linarith)
  have hback : 2 * Real.arctan (Real.exp (Real.log (Real.tan (Real.pi / 4 + toRadians lat / 2)))) -
      Real.pi / 2 = toRadians lat := by
    rw [Real.exp_log htan, Real.arctan_tan (by linarith) (by linarith)]
    ring
  simp only [planeInverse, plane, hclamp]
  rw [mul_div_cancel_left₀ _ hk', mul_div_cancel_left₀ _ hk', wrapDegrees_toDegrees_add]
  exact congrArg (·, wrapDegrees lon) ((congrArg toDegrees hback).trans (toDegrees_toRadians lat))

section Polar

variable {trueLat : ℝ}

theorem two_mul_atan_radius {scale ψ : ℝ} (hscale : scale ≠ 0)
    (hψ : ψ ∈ Set.Ioo (-Real.pi) Real.pi) :
    2 * atan (scale * Real.sin ψ / (1 + Real.cos ψ) / scale) = ψ := by
  rw [mul_div_assoc, mul_div_cancel_left₀ _ hscale]
  exact two_mul_arctan_half hψ

theorem poleScale_pos (h : Real.sin (toRadians |trueLat|) ≠ -1) : 0 < poleScale trueLat := by
  have hsin : -1 < Real.sin (toRadians |trueLat|) := lt_of_le_of_ne (Real.neg_one_le_sin _) h.symm
  rw [poleScale, real_one]
  exact mul_pos earthRadius_pos (neg_lt_iff_pos_add'.mp hsin)

/-- What the inverse makes of a point `r` away from the pole, in the direction `θ` from the meridian
of reference. -/
theorem planeInverse_polar {r θ : ℝ} (hr : 0 < r) (hθ : θ ∈ Set.Ioc (-Real.pi) Real.pi)
    (north : Bool) :
    let p : Projection ℝ := ⟨.polarStereographic north trueLat, frame, grid⟩
    p.planeInverse (r * Real.sin θ) (if north then -(r * Real.cos θ) else r * Real.cos θ) =
      let colat := 2 * atan (r / poleScale trueLat)
      (toDegrees (if north then Real.pi / 2 - colat else colat - Real.pi / 2),
        wrapDegrees (toDegrees θ + frame.referenceLon)) := by
  have hdistance := hypot_mul_sin_cos hr.le θ
  have hdirection := atan2_mul_sin_cos hr hθ
  cases north with
  | false =>
    simp only [planeInverse, Bool.false_eq_true, if_false, hdistance, hdirection, real_pi]
  | true =>
    simp only [planeInverse, if_true, hypot_neg_right, hdistance, neg_neg, hdirection, real_pi]

theorem plane_polar (h : Real.sin (toRadians |trueLat|) ≠ -1) (hlat : |lat| < 90) (lon : ℝ)
    (north : Bool) :
    let p : Projection ℝ := ⟨.polarStereographic north trueLat, frame, grid⟩
    let θ := toRadians (wrapDegrees (lon - frame.referenceLon))
    ∃ r, 0 < r ∧
      2 * atan (r / poleScale trueLat) =
        (if north then Real.pi / 2 - toRadians lat else toRadians lat + Real.pi / 2) ∧
      p.plane lat lon = (r * Real.sin θ, if north then -(r * Real.cos θ) else r * Real.cos θ) := by
  have hscale := poleScale_pos h
  obtain ⟨hsouth, hnorth⟩ := toRadians_mem_Ioo hlat
  have hcos : 0 < Real.cos (toRadians lat) := Real.cos_pos_of_mem_Ioo ⟨hsouth, hnorth⟩
  cases north with
  | false =>
    have hsin : 0 < 1 - Real.sin (toRadians lat) := by
      rw [sub_pos, ← Real.sin_pi_div_two]
      exact Real.sin_lt_sin_of_lt_of_le_pi_div_two hsouth.le le_rfl hnorth
    refine ⟨poleScale trueLat * Real.cos (toRadians lat) / (1 - Real.sin (toRadians lat)),
      by positivity, ?_, ?_⟩
    · have hψ : toRadians lat + Real.pi / 2 ∈ Set.Ioo (-Real.pi) Real.pi :=
        ⟨by linarith, by linarith⟩
      have hradius := two_mul_atan_radius hscale.ne' hψ
      rw [Real.sin_add_pi_div_two, Real.cos_add_pi_div_two] at hradius
      exact hradius
    · simp only [plane, Bool.false_eq_true, if_false, real_one]
      rfl
  | true =>
    have hsin : 0 < 1 + Real.sin (toRadians lat) := by
      rw [← neg_lt_iff_pos_add', ← Real.sin_pi_div_two, ← Real.sin_neg]
      exact Real.sin_lt_sin_of_lt_of_le_pi_div_two le_rfl hnorth.le hsouth
    refine ⟨poleScale trueLat * Real.cos (toRadians lat) / (1 + Real.sin (toRadians lat)),
      by positivity, ?_, ?_⟩
    · have hψ : Real.pi / 2 - toRadians lat ∈ Set.Ioo (-Real.pi) Real.pi :=
        ⟨by linarith, by linarith⟩
      have hradius := two_mul_atan_radius hscale.ne' hψ
      rw [Real.sin_pi_div_two_sub, Real.cos_pi_div_two_sub] at hradius
      exact hradius
    · simp only [plane, if_true, real_one]
      rw [neg_mul]
      rfl

theorem planeInverse_plane_polar (h : Real.sin (toRadians |trueLat|) ≠ -1) (hlat : |lat| < 90)
    (north : Bool) (lon : ℝ) :
    let p : Projection ℝ := ⟨.polarStereographic north trueLat, frame, grid⟩
    p.planeInverse (p.plane lat lon).1 (p.plane lat lon).2 = (lat, wrapDegrees lon) := by
  have hθ := toRadians_mem_Ioc (wrapDegrees_mem (lon - frame.referenceLon))
  obtain ⟨r, hr, hcolat, hplane⟩ := @plane_polar frame grid _ _ h hlat lon north
  have hlatitude : (if north then Real.pi / 2 - 2 * atan (r / poleScale trueLat)
      else 2 * atan (r / poleScale trueLat) - Real.pi / 2) = toRadians lat := by
    rw [hcolat]
    cases north
    · exact add_sub_cancel_right ..
    · exact sub_sub_cancel ..
  dsimp only
  rw [hplane, planeInverse_polar hr hθ]
  dsimp only
  rw [hlatitude, toDegrees_toRadians, wrapDegrees_toDegrees_add]

end Polar

end Plane

variable {p : Projection ℝ} {lat : ℝ}

theorem planeInverse_plane (hp : p.Spreads) (hlat : p.Shows lat) (lon : ℝ) :
    p.planeInverse (p.plane lat lon).1 (p.plane lat lon).2 = (lat, wrapDegrees lon) := by
  obtain ⟨kind, frame, grid⟩ := p
  cases kind with
  | latLon => exact planeInverse_plane_latLon lat lon
  | mercator trueLat => exact planeInverse_plane_mercator hp.scale hlat lon
  | polarStereographic north trueLat => exact planeInverse_plane_polar hp.scale hlat north lon

theorem metres_position (hunits : p.frame.units ≠ 0) (lat lon : ℝ) :
    p.metres (p.position lat lon) = p.plane lat lon := by
  simp only [metres, position, add_sub_cancel_right]
  rw [div_mul_cancel₀ _ hunits, div_mul_cancel₀ _ hunits, sub_add_cancel, sub_add_cancel]

theorem latLon_position (hp : p.Spreads) (hlat : p.Shows lat) (lon : ℝ) :
    p.latLon (p.position lat lon) = (lat, wrapDegrees lon) := by
  simp only [latLon, metres_position hp.units]
  exact planeInverse_plane hp hlat lon

/-- Places and positions are inverse to each other, from whichever origin that the plane has and about
whichever meridian the map is drawn: a place is found again from its position, with its longitude
wrapped, and the position of a place from the place. -/
theorem latLon_inverts_position (p : Projection ℝ) (hp : p.Spreads) :
    (∀ lat lon, p.Shows lat → p.latLon (p.position lat lon) = (lat, wrapDegrees lon)) ∧
      ∀ pos, (∃ lat lon, p.Shows lat ∧ p.position lat lon = pos) →
        p.position (p.latLon pos).1 (p.latLon pos).2 = pos := by
  constructor
  · exact fun lat lon hlat => latLon_position hp hlat lon
  · rintro _ ⟨lat, lon, hlat, rfl⟩
    rw [latLon_position hp hlat lon]
    simp only [position, plane_wrapDegrees]

noncomputable def southern : Projection ℝ :=
  ⟨.polarStereographic false (-60), ⟨-45, 100, 30, 5, 7, 0, 0, 250⟩, none⟩

theorem latLon_inverts_position_southern :
    southern.Spreads ∧ southern.Shows (-20) ∧
      southern.latLon (southern.position (-20) 200) = (-20, -160) ∧
      southern.position (-20) (-160) = southern.position (-20) 200 := by
  have hsixty : toRadians |(-60 : ℝ)| ∈ Set.Icc 0 Real.pi := by
    have hpi := Real.pi_pos
    have habs : |(-60 : ℝ)| = 60 := by norm_num
    rw [habs, toRadians, real_pi]
    constructor <;> linarith
  have hsin := Real.sin_nonneg_of_mem_Icc hsixty
  have horigin : Real.sin (toRadians (-45)) ≤ 0 := by
    have hpi := Real.pi_pos
    apply Real.sin_nonpos_of_nonpos_of_neg_pi_le <;> rw [toRadians, real_pi] <;> linarith
  have hspreads : southern.Spreads :=
    ⟨by norm_num [southern], (by linarith : (0 : ℝ) < 1 - Real.sin (toRadians (-45))).ne',
      (neg_one_lt_zero.trans_le hsin).ne'⟩
  have hshows : southern.Shows (-20) := by norm_num [southern, Shows]
  have hwrap : wrapDegrees (200 : ℝ) = -160 :=
    SameAngle.eq ((sameAngle_wrapDegrees 200).trans ⟨1, by norm_num⟩) (wrapDegrees_mem 200)
      ⟨by norm_num, by norm_num⟩
  obtain ⟨hplace, hposition⟩ := latLon_inverts_position southern hspreads
  have hback := hplace (-20) 200 hshows
  rw [hwrap] at hback
  refine ⟨hspreads, hshows, hback, ?_⟩
  have hagain := hposition _ ⟨-20, 200, hshows, rfl⟩
  rwa [hback] at hagain

noncomputable def collapsed : Projection ℝ := ⟨.polarStereographic true 270, .standard, none⟩

theorem plane_collapsed (lat lon : ℝ) : collapsed.plane lat lon = (0, 0) := by
  have hangle : toRadians |(270 : ℝ)| = Real.pi / 2 + Real.pi := by
    have habs : |(270 : ℝ)| = 270 := by norm_num
    rw [habs, toRadians, real_pi]
    ring
  have hscale : poleScale (270 : ℝ) = 0 := by
    have hsin : Real.sin (toRadians |(270 : ℝ)|) = -1 := by
      rw [hangle, Real.sin_add_pi, Real.sin_pi_div_two]
    rw [poleScale, real_one]
    exact mul_eq_zero_of_right _ (add_eq_zero_iff_eq_neg'.mpr hsin)
  simp only [plane, collapsed, if_true, hscale, zero_mul, zero_div, neg_zero]

theorem position_collapsed (lat lon : ℝ) : collapsed.position lat lon = .origin := by
  simp only [position, originPlane, plane_collapsed, sub_self, zero_div, zero_add]
  rfl

theorem latLon_collapsed : (collapsed.latLon .origin).1 = 90 := by
  have hmetres : collapsed.metres .origin = (0, 0) := by
    simp only [metres, originPlane, plane_collapsed, Point.origin, add_zero]
    norm_num [collapsed, MapFrame.standard]
  have hdistance : hypot (0 : ℝ) 0 = 0 := by
    change Real.sqrt (0 ^ 2 + 0 ^ 2) = 0
    norm_num
  have hatan : atan (0 : ℝ) = 0 := Real.arctan_zero
  have hpole : toDegrees (Real.pi / 2) = 90 := by
    have hpi := Real.pi_ne_zero
    simp only [toDegrees, real_pi]
    field_simp
    norm_num
  rw [latLon, hmetres]
  simp only [planeInverse, collapsed, if_true, neg_zero, hdistance, zero_div, hatan, mul_zero,
    sub_zero]
  exact hpole

/-- The scale of that map is zero: all places have one position, and it is taken for the pole. -/
theorem latLon_collapsed_ne :
    collapsed.frame.units ≠ 0 ∧ collapsed.Projectable collapsed.frame.originLat ∧
      collapsed.Shows 45 ∧ collapsed.position 45 10 = collapsed.position 30 10 ∧
      collapsed.latLon (collapsed.position 45 10) ≠ (45, wrapDegrees 10) := by
  refine ⟨by norm_num [collapsed, MapFrame.standard], ?_, by norm_num [collapsed, Shows], ?_, ?_⟩
  · simp [Projectable, collapsed, MapFrame.standard, toRadians]
  · rw [position_collapsed, position_collapsed]
  · intro h
    have hpole := latLon_collapsed
    rw [← position_collapsed 45 10, h] at hpole
    norm_num at hpole

end Synoptic.Projection
