import Synoptic.Proofs.Projection.Turns

namespace Synoptic

theorem Point.beq_iff (p q : Point ℝ) : (p == q) = true ↔ p = q := by
  cases p
  cases q
  simp [BEq.beq, instBEqPoint.beq]

theorem ProjectionKind.beq_iff (p q : ProjectionKind ℝ) : (p == q) = true ↔ p = q := by
  cases p <;> cases q <;> simp [BEq.beq, instBEqProjectionKind.beq]

theorem MapFrame.beq_iff (p q : MapFrame ℝ) : (p == q) = true ↔ p = q := by
  cases p
  cases q
  simp [BEq.beq, instBEqMapFrame.beq]

theorem GridSpec.beq_iff (g h : GridSpec ℝ) : (g == h) = true ↔ g = h := by
  cases g
  cases h
  simp [BEq.beq, instBEqGridSpec.beq]

theorem Number.toRadians_toDegrees (x : ℝ) : toRadians (toDegrees x) = x := by
  have hpi := Real.pi_ne_zero
  simp only [toRadians, toDegrees, real_pi]
  field_simp

namespace Projection

theorem sameMap_iff (p q : Projection ℝ) :
    p.sameMap q = true ↔ p.kind = q.kind ∧ p.frame = q.frame := by
  rw [sameMap, Bool.and_eq_true, ProjectionKind.beq_iff, MapFrame.beq_iff]

theorem transfer_of_sameMap {p q : Projection ℝ} (h : p.sameMap q = true) (pos : Point ℝ) :
    p.transfer pos q = pos := if_pos h

theorem transfer_eq_of_sameMap {q r : Projection ℝ} (h : q.sameMap r = true) (p : Projection ℝ)
    (pos : Point ℝ) : p.transfer pos q = p.transfer pos r := by
  obtain ⟨hkind, hframe⟩ := (sameMap_iff q r).mp h
  obtain ⟨kind, frame, grid⟩ := q
  obtain ⟨kind', frame', grid'⟩ := r
  cases hkind
  cases hframe
  rfl

def plain {α : Type} [Number α] (units : α) : Projection α :=
  ⟨.latLon, { MapFrame.standard with units }, none⟩

section Plain

variable {u v : ℝ}

theorem originPlane_plain (u : ℝ) : (plain u).originPlane = (0, 0) := by
  have hzero : wrapDegrees (0 : ℝ) = 0 := wrapDegrees_of_abs_lt (by norm_num)
  simp [originPlane, plane, plain, MapFrame.standard, Number.toRadians, hzero]

theorem latLon_plain (pos : Point ℝ) : (plain u).latLon pos =
    (Number.toDegrees (pos.y * u / earthRadius),
      wrapDegrees (Number.toDegrees (pos.x * u / earthRadius))) := by
  simp only [latLon, metres, originPlane_plain]
  simp [planeInverse, plain, MapFrame.standard]

theorem position_plain (lat lon : ℝ) : (plain u).position lat lon =
    ⟨earthRadius * Number.toRadians (wrapDegrees lon) / u,
      earthRadius * Number.toRadians lat / u⟩ := by
  simp only [position, originPlane_plain]
  simp [plane, plain, MapFrame.standard]

theorem transfer_plain (huv : u ≠ v) {pos : Point ℝ}
    (hpos : |pos.x * u| < Real.pi * earthRadius) :
    (plain u).transfer pos (plain v) = ⟨pos.x * u / v, pos.y * u / v⟩ := by
  have hmap : ¬(plain u).sameMap (plain v) = true := by
    intro h
    exact huv (congrArg MapFrame.units ((sameMap_iff _ _).mp h).2)
  have hR : (0 : ℝ) < earthRadius := by norm_num [earthRadius]
  have hlon : |Number.toDegrees (pos.x * u / earthRadius)| < 180 := by
    have hpi := Real.pi_pos
    calc
      |Number.toDegrees (pos.x * u / earthRadius)|
          = |pos.x * u| / earthRadius * (180 / Real.pi) := by
        simp only [Number.toDegrees, Number.real_pi, abs_mul, abs_div, abs_of_pos hR, abs_of_pos hpi]
        norm_num
      _ < Real.pi * earthRadius / earthRadius * (180 / Real.pi) := by gcongr
      _ = 180 := by field_simp
  simp only [transfer, if_neg hmap, latLon_plain, position_plain, wrapDegrees_of_abs_lt hlon,
    Number.toRadians_toDegrees]
  rw [mul_div_cancel₀ _ hR.ne', mul_div_cancel₀ _ hR.ne']

end Plain

end Projection

end Synoptic
