import Mathlib.Logic.Basic
import Synoptic.Projection
import Synoptic.Proofs.Binary64.Comparison

namespace Synoptic

theorem ProjectionKind.beq_comm (p q : ProjectionKind Float) : (p == q) = (q == p) := by
  cases p with
  | latLon => cases q <;> rfl
  | mercator t =>
    cases q with
    | mercator t' => exact Binary64.beq_comm t t'
    | _ => rfl
  | polarStereographic n t =>
    cases q with
    | polarStereographic n' t' =>
      change (n == n' && t == t') = (n' == n && t' == t)
      rw [Binary64.beq_comm t, Bool.beq_comm]
    | _ => rfl

theorem MapFrame.beq_comm (p q : MapFrame Float) : (p == q) = (q == p) := by
  have hnumbers : ∀ x y, Float.beq x y = Float.beq y x := Binary64.beq_comm
  cases p
  cases q
  simp only [BEq.beq, instBEqMapFrame.beq, hnumbers]

theorem Projection.sameMap_comm (p q : Projection Float) : p.sameMap q = q.sameMap p :=
  congrArg₂ and (ProjectionKind.beq_comm p.kind q.kind) (MapFrame.beq_comm p.frame q.frame)

theorem ProjectionKind.beq_trans {p q r : ProjectionKind Float} (hpq : (p == q) = true)
    (hqr : (q == r) = true) : (p == r) = true := by
  cases p with
  | latLon =>
    cases q with
    | latLon => exact hqr
    | _ => cases hpq
  | mercator t =>
    cases q with
    | mercator t' =>
      cases r with
      | mercator t'' => exact Binary64.beq_trans (y := t') hpq hqr
      | _ => cases hqr
    | _ => cases hpq
  | polarStereographic n t =>
    cases q with
    | polarStereographic n' t' =>
      cases r with
      | polarStereographic n'' t'' =>
        change (n == n' && t == t') = true at hpq
        change (n' == n'' && t' == t'') = true at hqr
        change (n == n'' && t == t'') = true
        rw [Bool.and_eq_true] at *
        exact ⟨(eq_of_beq hpq.1).symm ▸ hqr.1, Binary64.beq_trans hpq.2 hqr.2⟩
      | _ => cases hqr
    | _ => cases hpq

theorem MapFrame.beq_trans {p q r : MapFrame Float} (hpq : (p == q) = true)
    (hqr : (q == r) = true) : (p == r) = true := by
  have hnumbers : ∀ {x y z}, Float.beq x y = true → Float.beq y z = true → Float.beq x z = true :=
    Binary64.beq_trans
  cases p
  cases q
  cases r
  simp only [BEq.beq, instBEqMapFrame.beq, Bool.and_eq_true] at *
  grind

theorem Projection.sameMap_trans {p q r : Projection Float} (hpq : p.sameMap q = true)
    (hqr : q.sameMap r = true) : p.sameMap r = true := by
  rw [sameMap, Bool.and_eq_true] at *
  exact ⟨ProjectionKind.beq_trans hpq.1 hqr.1, MapFrame.beq_trans hpq.2 hqr.2⟩

end Synoptic
