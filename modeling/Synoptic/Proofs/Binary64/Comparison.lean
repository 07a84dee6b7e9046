import Synoptic.Binary64.Scalar

namespace Synoptic.Binary64

open Float.Model

theorem compare_swap (a b : UnpackedFloat) :
    (a.compare b).map Ordering.swap = b.compare a := by
  cases a with
  | finite s m e h =>
    cases b with
    | finite s' m' e' h' =>
      have hswap : ((compare e e').then (compare m m')).swap =
          (compare e' e).then (compare m' m) := by
        rw [Ordering.swap_then, Std.OrientedOrd.eq_swap (a := e'), Std.OrientedOrd.eq_swap (a := m')]
      cases s <;> cases s'
      · exact congrArg some (congrArg Ordering.swap hswap)
      · rfl
      · rfl
      · exact congrArg some hswap
    | infinity s' => cases s <;> cases s' <;> rfl
    | _ => cases s <;> rfl
  | infinity s =>
    cases b with
    | finite s' m' e' h' => cases s <;> cases s' <;> rfl
    | infinity s' => cases s <;> cases s' <;> rfl
    | _ => cases s <;> rfl
  | zero s =>
    cases b with
    | finite s' m' e' h' => cases s' <;> rfl
    | infinity s' => cases s' <;> rfl
    | _ => rfl
  | notANumber => cases b <;> rfl

theorem beq_comm (x y : Float) : (x == y) = (y == x) := by
  change (x.toModel.unpack.compare y.toModel.unpack == some .eq) =
    (y.toModel.unpack.compare x.toModel.unpack == some .eq)
  rw [← compare_swap x.toModel.unpack]
  cases x.toModel.unpack.compare y.toModel.unpack with
  | none => rfl
  | some o => cases o <;> rfl

theorem eq_or_zero_of_compare {a b : UnpackedFloat} (h : a.compare b = some .eq) :
    a = b ∨ ∃ s s', a = .zero s ∧ b = .zero s' := by
  cases a with
  | finite s m e hm =>
    cases b with
    | finite s' m' e' hm' =>
      have hparts : s = s' ∧ (compare e e').then (compare m m') = .eq := by
        cases s <;> cases s'
        · exact ⟨rfl, Ordering.swap_eq_eq.mp (Option.some.inj h)⟩
        · cases h
        · cases h
        · exact ⟨rfl, Option.some.inj h⟩
      obtain ⟨rfl, heq⟩ := hparts
      obtain ⟨he, hm⟩ := Ordering.then_eq_eq.mp heq
      cases Std.LawfulEqOrd.eq_of_compare he
      cases Std.LawfulEqOrd.eq_of_compare hm
      exact .inl rfl
    | infinity s' => cases s <;> cases s' <;> cases h
    | zero s' => cases s <;> cases h
    | notANumber => cases s <;> cases h
  | infinity s =>
    cases b with
    | infinity s' => cases s <;> cases s' <;> first | exact .inl rfl | cases h
    | finite s' m' e' h' => cases s <;> cases s' <;> cases h
    | zero s' => cases s <;> cases h
    | notANumber => cases s <;> cases h
  | zero s =>
    cases b with
    | zero s' => exact .inr ⟨s, s', rfl, rfl⟩
    | finite s' m' e' h' => cases s' <;> cases h
    | infinity s' => cases s' <;> cases h
    | notANumber => cases h
  | notANumber => cases b <;> cases h

theorem compare_congr {a b : UnpackedFloat} (h : a.compare b = some .eq)
    (c : UnpackedFloat) : a.compare c = b.compare c := by
  rcases eq_or_zero_of_compare h with rfl | ⟨s, s', rfl, rfl⟩
  · rfl
  · cases c with
    | finite s'' m e hm => cases s'' <;> rfl
    | infinity s'' => cases s'' <;> rfl
    | _ => rfl

theorem beq_trans {x y z : Float} (hxy : (x == y) = true) (hyz : (y == z) = true) :
    (x == z) = true := by
  change (x.toModel.unpack.compare y.toModel.unpack == some .eq) = true at hxy
  change (x.toModel.unpack.compare z.toModel.unpack == some .eq) = true
  rw [compare_congr (eq_of_beq hxy)]
  exact hyz

theorem lt_iff (x y : Float) : x < y ↔ x.toModel.unpack.compare y.toModel.unpack = some .lt := by
  change decide (x.toModel < y.toModel) = true ↔ _
  rw [decide_eq_true_iff]
  change (x.toModel.unpack.compare y.toModel.unpack == some .lt) = true ↔ _
  exact beq_iff_eq

theorem le_iff (x y : Float) :
    x ≤ y ↔ (x.toModel.unpack.compare y.toModel.unpack).any (·.isLE) = true := by
  change decide (x.toModel ≤ y.toModel) = true ↔ _
  rw [decide_eq_true_iff]
  exact Iff.rfl

theorem compare_ne_none {a b : UnpackedFloat} (ha : a.isNaN = false) (hb : b.isNaN = false) :
    a.compare b ≠ none := by
  cases a with
  | notANumber => cases ha
  | infinity s =>
    cases b with
    | notANumber => cases hb
    | _ => cases s <;> nofun
  | zero s =>
    cases b with
    | notANumber => cases hb
    | zero s' => nofun
    | infinity s' => cases s' <;> nofun
    | finite s' m' e' h' => cases s' <;> nofun
  | finite s m e h =>
    cases b with
    | notANumber => cases hb
    | zero s' => cases s <;> nofun
    | infinity s' => cases s <;> cases s' <;> nofun
    | finite s' m' e' h' => cases s <;> cases s' <;> nofun

/-- Of two numbers one is at most the other. An undefined one is not less than any, so where `x ≤ y`
is refused, `y < x` tells whether both are numbers. -/
theorem lt_iff_of_not_le {x y : Float} (hy : y.isNaN = false) (h : ¬ x ≤ y) :
    y < x ↔ x.isNaN = false := by
  rw [le_iff] at h
  rw [lt_iff, ← compare_swap]
  change _ ↔ x.toModel.unpack.isNaN = false
  constructor
  · intro hlt
    cases hx : x.toModel.unpack with
    | notANumber =>
      rw [hx] at hlt
      cases hlt
    | _ => rfl
  · intro hx
    cases hc : x.toModel.unpack.compare y.toModel.unpack with
    | none => exact absurd hc (compare_ne_none hx hy)
    | some o =>
      rw [hc] at h
      cases o with
      | gt => rfl
      | _ => exact absurd rfl h

end Synoptic.Binary64
