import Mathlib.Algebra.Order.ToIntervalMod
import Synoptic.Projection
import Synoptic.Proofs.Reals

namespace Synoptic

/-- Two angles in degrees that differ by whole turns. -/
def SameAngle (a b : ℝ) : Prop := ∃ turns : ℤ, a = b + 360 * turns

theorem turn_pos : (0 : ℝ) < 360 := by norm_num

theorem ioc_turn : Set.Ioc (-180 : ℝ) (-180 + 360) = Set.Ioc (-180) 180 := by norm_num

namespace SameAngle

variable {a b c : ℝ}

theorem symm (h : SameAngle a b) : SameAngle b a := by
  obtain ⟨k, rfl⟩ := h
  exact ⟨-k, by push_cast; ring⟩

theorem trans (h : SameAngle a b) (h' : SameAngle b c) : SameAngle a c := by
  obtain ⟨k, rfl⟩ := h
  obtain ⟨m, rfl⟩ := h'
  exact ⟨m + k, by push_cast; ring⟩

theorem add_right (h : SameAngle a b) (c : ℝ) : SameAngle (a + c) (b + c) := by
  obtain ⟨k, rfl⟩ := h
  exact ⟨k, by ring⟩

theorem toIocMod_eq (h : SameAngle a b) :
    toIocMod turn_pos (-180) a = toIocMod turn_pos (-180) b := by
  obtain ⟨k, rfl⟩ := h
  rw [mul_comm, ← zsmul_eq_mul, toIocMod_add_zsmul]

theorem eq (h : SameAngle a b) (ha : a ∈ Set.Ioc (-180) 180) (hb : b ∈ Set.Ioc (-180) 180) :
    a = b := by
  rw [← ioc_turn] at ha hb
  have hreduced := h.toIocMod_eq
  rwa [(toIocMod_eq_self turn_pos).mpr ha, (toIocMod_eq_self turn_pos).mpr hb] at hreduced

end SameAngle

noncomputable def wholePart (t : ℝ) : ℤ := if 0 ≤ t then ⌊t⌋ else ⌈t⌉

theorem wholePart_spec (t : ℝ) : |t - wholePart t| < 1 ∧ 0 ≤ t * (t - wholePart t) := by
  rw [wholePart]
  split
  · rename_i h
    have hfloor := Int.floor_le t
    have hnext := Int.lt_floor_add_one t
    exact ⟨abs_lt.mpr ⟨by linarith, by linarith⟩, mul_nonneg h (sub_nonneg.mpr hfloor)⟩
  · rename_i h
    have hceil := Int.le_ceil t
    have hprevious := Int.ceil_lt_add_one t
    exact ⟨abs_lt.mpr ⟨by linarith, by linarith⟩,
      mul_nonneg_of_nonpos_of_nonpos (not_le.mp h).le (sub_nonpos.mpr hceil)⟩

namespace Number

theorem rem_eq (x y : ℝ) : rem x y = x - y * wholePart (x / y) := by
  change x - y * (if 0 ≤ x / y then (⌊x / y⌋ : ℝ) else ⌈x / y⌉) = _
  rw [wholePart, apply_ite (Int.cast : ℤ → ℝ)]

theorem rem_spec (x : ℝ) {y : ℝ} (hy : y ≠ 0) :
    |rem x y| < |y| ∧ 0 ≤ x * rem x y := by
  obtain ⟨hsmall, hsign⟩ := wholePart_spec (x / y)
  have hx : x = y * (x / y) := (mul_div_cancel₀ x hy).symm
  have hrem : rem x y = y * (x / y - wholePart (x / y)) := by
    rw [rem_eq, mul_sub, ← hx]
  constructor
  · rw [hrem, abs_mul]
    exact mul_lt_of_lt_one_right (abs_pos.mpr hy) hsmall
  · calc
      0 ≤ y ^ 2 * (x / y * (x / y - wholePart (x / y))) := mul_nonneg (sq_nonneg y) hsign
      _ = y * (x / y) * (y * (x / y - wholePart (x / y))) := by ring
      _ = x * rem x y := by rw [← hx, ← hrem]

end Number

theorem rem_turn (a : ℝ) : SameAngle (Number.rem a 360) a ∧ |Number.rem a 360| < 360 := by
  obtain ⟨hsmall, -⟩ := Number.rem_spec a turn_pos.ne'
  refine ⟨⟨-wholePart (a / 360), ?_⟩, hsmall.trans_eq (abs_of_pos turn_pos)⟩
  rw [Number.rem_eq]
  push_cast
  ring

theorem wrapDegrees_spec (a : ℝ) :
    SameAngle (wrapDegrees a) a ∧ wrapDegrees a ∈ Set.Ioc (-180) 180 := by
  obtain ⟨hsame, hrem⟩ := rem_turn a
  obtain ⟨hlower, hupper⟩ := abs_lt.mp hrem
  rw [wrapDegrees]
  split
  · rename_i h
    exact ⟨SameAngle.trans ⟨-1, by push_cast; ring⟩ hsame, by linarith, by linarith⟩
  · rename_i h
    split
    · rename_i h'
      exact ⟨SameAngle.trans ⟨1, by push_cast; ring⟩ hsame, by linarith, by linarith⟩
    · rename_i h'
      exact ⟨hsame, not_le.mp h', not_lt.mp h⟩

theorem sameAngle_wrapDegrees (a : ℝ) : SameAngle (wrapDegrees a) a := (wrapDegrees_spec a).1

theorem wrapDegrees_mem (a : ℝ) : wrapDegrees a ∈ Set.Ioc (-180) 180 := (wrapDegrees_spec a).2

theorem wrapDegrees_eq_iff {a b : ℝ} :
    wrapDegrees a = b ↔ b ∈ Set.Ioc (-180) 180 ∧ SameAngle b a := by
  constructor
  · rintro rfl
    exact ⟨wrapDegrees_mem a, sameAngle_wrapDegrees a⟩
  · rintro ⟨hb, h⟩
    exact ((sameAngle_wrapDegrees a).trans h.symm).eq (wrapDegrees_mem a) hb

theorem SameAngle.wrapDegrees_eq {a b : ℝ} (h : SameAngle a b) : wrapDegrees a = wrapDegrees b :=
  wrapDegrees_eq_iff.mpr ⟨wrapDegrees_mem b, (sameAngle_wrapDegrees b).trans h.symm⟩

theorem wrapDegrees_eq_wrapDegrees_iff {a b : ℝ} :
    wrapDegrees a = wrapDegrees b ↔ SameAngle a b := by
  constructor
  · intro h
    exact (sameAngle_wrapDegrees a).symm.trans (h ▸ sameAngle_wrapDegrees b)
  · exact SameAngle.wrapDegrees_eq

theorem wrapDegrees_wrapDegrees_add (a c : ℝ) :
    wrapDegrees (wrapDegrees a + c) = wrapDegrees (a + c) :=
  ((sameAngle_wrapDegrees a).add_right c).wrapDegrees_eq

theorem wrapDegrees_of_abs_lt {a : ℝ} (h : |a| < 180) : wrapDegrees a = a := by
  obtain ⟨hlower, hupper⟩ := abs_lt.mp h
  exact wrapDegrees_eq_iff.mpr ⟨⟨hlower, hupper.le⟩, 0, by simp⟩

namespace Projection

theorem plane_congr {p q : Projection ℝ} (hkind : p.kind = q.kind) {lon lon' : ℝ}
    (h : SameAngle (lon - p.frame.referenceLon) (lon' - q.frame.referenceLon)) (lat : ℝ) :
    p.plane lat lon = q.plane lat lon' := by
  simp only [plane, hkind, h.wrapDegrees_eq]

theorem plane_wrapDegrees (p : Projection ℝ) (lat lon : ℝ) :
    p.plane lat (wrapDegrees lon) = p.plane lat lon :=
  plane_congr rfl ((sameAngle_wrapDegrees lon).add_right (-p.frame.referenceLon)) lat

theorem planeInverse_congr {p q : Projection ℝ} (hkind : p.kind = q.kind)
    (h : SameAngle p.frame.referenceLon q.frame.referenceLon) (x y : ℝ) :
    p.planeInverse x y = q.planeInverse x y := by
  have hwrap (dlon : ℝ) : wrapDegrees (dlon + p.frame.referenceLon) =
      wrapDegrees (dlon + q.frame.referenceLon) := by
    rw [add_comm dlon, add_comm dlon]
    exact (h.add_right dlon).wrapDegrees_eq
  simp only [planeInverse, hkind, hwrap]

noncomputable def turned (p : Projection ℝ) (turns : ℤ) : Projection ℝ :=
  { p with frame := { p.frame with referenceLon := p.frame.referenceLon + 360 * turns } }

theorem kind_turned (p : Projection ℝ) (turns : ℤ) : (p.turned turns).kind = p.kind := rfl

theorem referenceLon_turned (p : Projection ℝ) (turns : ℤ) :
    (p.turned turns).frame.referenceLon = p.frame.referenceLon + 360 * turns := rfl

theorem plane_turned (p : Projection ℝ) (reference turns : ℤ) (lat lon : ℝ) :
    (p.turned reference).plane lat (lon + 360 * turns) = p.plane lat lon := by
  apply plane_congr (p.kind_turned reference)
  rw [referenceLon_turned]
  exact ⟨turns - reference, by push_cast; ring⟩

theorem planeInverse_turned (p : Projection ℝ) (reference : ℤ) (x y : ℝ) :
    (p.turned reference).planeInverse x y = p.planeInverse x y :=
  planeInverse_congr (p.kind_turned reference) ⟨reference, p.referenceLon_turned reference⟩ x y

end Projection

/-- The remainder of an angle by a full turn is the one that is truncated toward zero. Wrapped, the
angle is the one number of `(-180, 180]` that differs from it by whole turns; so angles are the same
once wrapped exactly if they differ by whole turns, and may be wrapped before others are added. Hence
whole turns of a longitude or of the meridian of reference change neither where a place is drawn nor
which place a point is taken for, and the longitude of that one is wrapped. -/
theorem wrapDegrees_canonical :
    (∀ a : ℝ, SameAngle (Number.rem a 360) a ∧ |Number.rem a 360| < 360 ∧
        0 ≤ a * Number.rem a 360) ∧
      (∀ a b : ℝ, wrapDegrees a = b ↔ b ∈ Set.Ioc (-180) 180 ∧ SameAngle b a) ∧
      (∀ a b : ℝ, wrapDegrees a = wrapDegrees b ↔ SameAngle a b) ∧
      (∀ a c : ℝ, wrapDegrees (wrapDegrees a + c) = wrapDegrees (a + c)) ∧
      ∀ (p : Projection ℝ) (reference : ℤ),
        (∀ (lat lon : ℝ) (turns : ℤ),
          (p.turned reference).plane lat (lon + 360 * turns) = p.plane lat lon) ∧
        ∀ x y, (p.turned reference).planeInverse x y = p.planeInverse x y ∧
          (p.planeInverse x y).2 ∈ Set.Ioc (-180) 180 := by
  refine ⟨fun a => ?_, fun _ _ => wrapDegrees_eq_iff, fun _ _ => wrapDegrees_eq_wrapDegrees_iff,
    wrapDegrees_wrapDegrees_add, fun p reference => ⟨fun lat lon turns => ?_, fun x y => ⟨?_, ?_⟩⟩⟩
  · obtain ⟨hsame, hsmall⟩ := rem_turn a
    exact ⟨hsame, hsmall, (Number.rem_spec a turn_pos.ne').2⟩
  · exact p.plane_turned reference turns lat lon
  · exact p.planeInverse_turned reference x y
  · exact wrapDegrees_mem _

end Synoptic
