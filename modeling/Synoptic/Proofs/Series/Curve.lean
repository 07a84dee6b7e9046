import Mathlib.Analysis.Calculus.Deriv.Add
import Mathlib.Analysis.Calculus.Deriv.Mul
import Mathlib.Analysis.Calculus.Deriv.Pow
import Mathlib.Tactic.FieldSimp
import Mathlib.Topology.Algebra.Module.ModuleTopology
import Synoptic.Proofs.Series.System

namespace Synoptic.Series

open Set

/-- The piece that holds a time; the outermost pieces continue past the knots. -/
noncomputable def glued (piece : Knot ℝ → Knot ℝ → ℝ → ℝ) (t : ℝ) : List (Knot ℝ) → ℝ
  | [p, q] => piece p q t
  | p :: q :: rest => if t < q.time then piece p q t else glued piece t (q :: rest)
  | _ => 0

def Ordered (ks : List (Knot ℝ)) : Prop := ks.IsChain fun p q => p.time < q.time

def Meets (piece : Knot ℝ → Knot ℝ → ℝ → ℝ) : List (Knot ℝ) → Prop
  | p :: q :: r :: rest => piece p q q.time = piece q r q.time ∧ Meets piece (q :: r :: rest)
  | _ => True

theorem hasDerivAt_ite_lt {f g f' g' : ℝ → ℝ} {a : ℝ} (hf : ∀ t, HasDerivAt f (f' t) t)
    (hg : ∀ t, HasDerivAt g (g' t) t) (hvalue : f a = g a) (hslope : f' a = g' a) (t : ℝ) :
    HasDerivAt (fun t => if t < a then f t else g t) (if t < a then f' t else g' t) t := by
  rcases lt_trichotomy t a with h | rfl | h
  · rw [if_pos h]
    apply (hf t).congr_of_eventuallyEq
    filter_upwards [Iio_mem_nhds h] with x hx
    exact if_pos hx
  · rw [if_neg (lt_irrefl t)]
    have hbefore : HasDerivWithinAt (fun x => if x < t then f x else g x) (g' t) (Iio t) t :=
      (hslope ▸ hf t).hasDerivWithinAt.congr (fun x hx => if_pos hx)
        ((if_neg (lt_irrefl t)).trans hvalue.symm)
    have hafter : HasDerivWithinAt (fun x => if x < t then f x else g x) (g' t) (Ici t) t :=
      (hg t).hasDerivWithinAt.congr (fun x hx => if_neg (not_lt.mpr hx)) (if_neg (lt_irrefl t))
    have hunion := hbefore.union hafter
    rwa [Iio_union_Ici, hasDerivWithinAt_univ] at hunion
  · rw [if_neg h.le.not_gt]
    apply (hg t).congr_of_eventuallyEq
    filter_upwards [Ioi_mem_nhds h] with x hx
    exact if_neg (not_lt.mpr (le_of_lt hx))

section Glued

variable {piece piece' : Knot ℝ → Knot ℝ → ℝ → ℝ} {p q : Knot ℝ} {rest : List (Knot ℝ)}

theorem slopeOn_eq (t : ℝ) : ∀ ks : List (Knot ℝ), slopeOn t ks = glued pieceSlope t ks
  | [] => rfl
  | [_] => rfl
  | [_, _] => rfl
  | p :: q :: r :: rest =>
    congrArg (if t < q.time then pieceSlope p q t else ·) (slopeOn_eq t (q :: r :: rest))

theorem glued_head (h : Ordered (p :: q :: rest)) :
    glued piece p.time (p :: q :: rest) = piece p q p.time := by
  cases rest with
  | nil => rfl
  | cons r rest => exact if_pos (List.isChain_cons_cons.mp h).1

theorem hasDerivAt_glued
    (hpiece : ∀ p q : Knot ℝ, p.time < q.time → ∀ t, HasDerivAt (piece p q) (piece' p q t) t) :
    ∀ {ks : List (Knot ℝ)}, Ordered ks → Meets piece ks → Meets piece' ks → ∀ t,
      HasDerivAt (glued piece · ks) (glued piece' t ks) t
  | [], _, _, _, t => hasDerivAt_const t 0
  | [_], _, _, _, t => hasDerivAt_const t 0
  | [p, q], h, _, _, t => hpiece p q (List.isChain_cons_cons.mp h).1 t
  | p :: q :: r :: rest, h, hmeets, hmeets', t => by
    obtain ⟨hpq, htail⟩ := List.isChain_cons_cons.mp h
    exact hasDerivAt_ite_lt (hpiece p q hpq)
      (hasDerivAt_glued hpiece htail hmeets.2 hmeets'.2)
      (hmeets.1.trans (glued_head htail).symm) (hmeets'.1.trans (glued_head htail).symm) t

theorem continuous_glued (hpiece : ∀ p q : Knot ℝ, Continuous (piece p q)) :
    ∀ {ks : List (Knot ℝ)}, Ordered ks → Meets piece ks → Continuous (glued piece · ks)
  | [], _, _ => continuous_const
  | [_], _, _ => continuous_const
  | [p, q], _, _ => hpiece p q
  | p :: q :: r :: rest, h, hmeets => by
    obtain ⟨_, htail⟩ := List.isChain_cons_cons.mp h
    have hlater : ∀ t, q.time = t → glued piece t (q :: r :: rest) = piece p q t := by
      rintro _ rfl
      exact (glued_head htail).trans hmeets.1.symm
    have hcontinuous := (continuous_glued hpiece htail hmeets.2).if_le (hpiece p q) continuous_const
      continuous_id hlater
    refine hcontinuous.congr fun t => ?_
    simp only [glued, id, ← not_lt, ite_not]

theorem glued_of_le (h : Ordered (p :: q :: rest)) (hmeets : Meets piece (p :: q :: rest)) {t : ℝ}
    (ht : t ≤ q.time) : glued piece t (p :: q :: rest) = piece p q t := by
  cases rest with
  | nil => rfl
  | cons r rest =>
    obtain hlt | rfl := ht.lt_or_eq
    · exact if_pos hlt
    · exact (if_neg (lt_irrefl _)).trans
        ((glued_head (List.isChain_cons_cons.mp h).2).trans hmeets.1.symm)

theorem glued_cons (hrest : rest ≠ []) {t : ℝ} (ht : q.time ≤ t) :
    glued piece t (p :: q :: rest) = glued piece t (q :: rest) := by
  obtain ⟨r, rest, rfl⟩ := List.exists_cons_of_ne_nil hrest
  exact if_neg (not_lt.mpr ht)

theorem Ordered.le_of_mem (h : Ordered (p :: rest)) (hq : q ∈ p :: rest) : p.time ≤ q.time := by
  obtain rfl | hmem := List.mem_cons.mp hq
  · exact le_rfl
  · exact (List.rel_of_pairwise_cons (List.isChain_iff_pairwise.mp h) hmem).le

theorem Meets.tail : ∀ {ks : List (Knot ℝ)}, Meets piece (p :: ks) → Meets piece ks
  | [], _ => trivial
  | [_], _ => trivial
  | _ :: _ :: _, h => h.2

/-- Between two knots in a row it is their piece, also before the first and behind the last one. -/
theorem glued_append : ∀ {before after : List (Knot ℝ)}, Ordered (before ++ p :: q :: after) →
    Meets piece (before ++ p :: q :: after) → ∀ {t : ℝ}, before = [] ∨ p.time ≤ t →
      after = [] ∨ t ≤ q.time → glued piece t (before ++ p :: q :: after) = piece p q t
  | [], [], _, _, _, _, _ => rfl
  | [], _ :: _, h, hmeets, _, _, hafter =>
    glued_of_le h hmeets (hafter.resolve_left (List.cons_ne_nil _ _))
  | [_], after, h, hmeets, _, hbefore, hafter => by
    have ht := hbefore.resolve_left (List.cons_ne_nil _ _)
    have htail : Ordered ([] ++ p :: q :: after) := (List.isChain_cons_cons.mp h).2
    refine (glued_cons (List.cons_ne_nil _ _) ht).trans ?_
    exact glued_append htail hmeets.tail (.inl rfl) hafter
  | _ :: b :: before, after, h, hmeets, t, hbefore, hafter => by
    have ht := hbefore.resolve_left (List.cons_ne_nil _ _)
    have htail : Ordered (b :: before ++ p :: q :: after) := (List.isChain_cons_cons.mp h).2
    have hb : b.time ≤ t := (htail.le_of_mem (by simp)).trans ht
    refine (glued_cons (by simp) hb).trans ?_
    exact glued_append htail hmeets.tail (.inr ht) hafter

theorem glued_time {field : Knot ℝ → ℝ}
    (hleft : ∀ p q : Knot ℝ, p.time < q.time → piece p q p.time = field p)
    (hright : ∀ p q : Knot ℝ, p.time < q.time → piece p q q.time = field q) :
    ∀ {ks : List (Knot ℝ)}, 2 ≤ ks.length → Ordered ks → ∀ k ∈ ks, glued piece k.time ks = field k
  | [p, q], _, h, k, hk => by
    have hpq := (List.isChain_cons_cons.mp h).1
    obtain rfl | rfl := List.mem_pair.mp hk
    · exact hleft _ _ hpq
    · exact hright _ _ hpq
  | p :: q :: r :: rest, _, h, k, hk => by
    obtain ⟨hpq, htail⟩ := List.isChain_cons_cons.mp h
    obtain rfl | hk := List.mem_cons.mp hk
    · exact (glued_head h).trans (hleft _ _ hpq)
    · exact (glued_cons (List.cons_ne_nil _ _) (Ordered.le_of_mem htail hk)).trans
        (glued_time hleft hright (by simp) htail k hk)

end Glued

section Piece

/-- The cubic that has the values and second derivatives of two knots there. -/
noncomputable def pieceValue (p q : Knot ℝ) (t : ℝ) : ℝ :=
  p.bend / (6 * (q.time - p.time)) * (q.time - t) ^ 3 +
    q.bend / (6 * (q.time - p.time)) * (t - p.time) ^ 3 +
    (p.value / (q.time - p.time) - p.bend * (q.time - p.time) / 6) * (q.time - t) +
    (q.value / (q.time - p.time) - q.bend * (q.time - p.time) / 6) * (t - p.time)

noncomputable def pieceBend (p q : Knot ℝ) (t : ℝ) : ℝ :=
  (p.bend * (q.time - t) + q.bend * (t - p.time)) / (q.time - p.time)

variable {p q r : Knot ℝ}

theorem pieceValue_left (h : p.time < q.time) : pieceValue p q p.time = p.value := by
  have hne : q.time - p.time ≠ 0 := (sub_pos.mpr h).ne'
  rw [pieceValue]
  field_simp
  ring

theorem pieceValue_right (h : p.time < q.time) : pieceValue p q q.time = q.value := by
  have hne : q.time - p.time ≠ 0 := (sub_pos.mpr h).ne'
  rw [pieceValue]
  field_simp
  ring

theorem pieceBend_left (h : p.time < q.time) : pieceBend p q p.time = p.bend := by
  rw [pieceBend, sub_self, mul_zero, add_zero, mul_div_cancel_right₀ _ (sub_pos.mpr h).ne']

theorem pieceBend_right (h : p.time < q.time) : pieceBend p q q.time = q.bend := by
  rw [pieceBend, sub_self, mul_zero, zero_add, mul_div_cancel_right₀ _ (sub_pos.mpr h).ne']

theorem hasDerivAt_pieceValue (h : p.time < q.time) (t : ℝ) :
    HasDerivAt (pieceValue p q) (pieceSlope p q t) t := by
  have hne : q.time - p.time ≠ 0 := (sub_pos.mpr h).ne'
  have hfall : HasDerivAt (fun t => q.time - t) (-1) t := (hasDerivAt_id' t).const_sub q.time
  have hrise : HasDerivAt (fun t => t - p.time) 1 t := (hasDerivAt_id' t).sub_const p.time
  refine (((((hfall.pow 3).const_mul _).add ((hrise.pow 3).const_mul _)).add
    (hfall.const_mul _)).add (hrise.const_mul _)).congr_deriv ?_
  simp only [pieceSlope]
  field_simp
  ring

theorem pieceSlope_eq (p q : Knot ℝ) (t : ℝ) : pieceSlope p q t =
    -(p.bend / (2 * (q.time - p.time))) * (q.time - t) ^ 2 +
      q.bend / (2 * (q.time - p.time)) * (t - p.time) ^ 2 +
      ((q.value - p.value) / (q.time - p.time) - (q.bend - p.bend) * (q.time - p.time) / 6) := by
  simp only [pieceSlope]
  ring

theorem hasDerivAt_pieceSlope (h : p.time < q.time) (t : ℝ) :
    HasDerivAt (pieceSlope p q) (pieceBend p q t) t := by
  have hne : q.time - p.time ≠ 0 := (sub_pos.mpr h).ne'
  have hfall : HasDerivAt (fun t => q.time - t) (-1) t := (hasDerivAt_id' t).const_sub q.time
  have hrise : HasDerivAt (fun t => t - p.time) 1 t := (hasDerivAt_id' t).sub_const p.time
  rw [funext (pieceSlope_eq p q)]
  refine ((((hfall.pow 2).const_mul _).add ((hrise.pow 2).const_mul _)).add_const _).congr_deriv ?_
  rw [pieceBend]
  field_simp
  ring

theorem continuous_pieceBend (p q : Knot ℝ) : Continuous (pieceBend p q) := by
  unfold pieceBend
  fun_prop

theorem pieceSlope_meets_iff (hpq : p.time < q.time) (hqr : q.time < r.time) :
    pieceSlope p q q.time = pieceSlope q r q.time ↔
      (q.time - p.time) * p.bend + 2 * (q.time - p.time + (r.time - q.time)) * q.bend +
        (r.time - q.time) * r.bend =
        6 * ((r.value - q.value) / (r.time - q.time) - (q.value - p.value) / (q.time - p.time)) := by
  have hne : q.time - p.time ≠ 0 := (sub_pos.mpr hpq).ne'
  have hne' : r.time - q.time ≠ 0 := (sub_pos.mpr hqr).ne'
  have hleft : pieceSlope p q q.time = (q.value - p.value) / (q.time - p.time) +
      (2 * q.bend + p.bend) * (q.time - p.time) / 6 := by
    rw [pieceSlope_eq]
    field_simp
    ring
  have hright : pieceSlope q r q.time = (r.value - q.value) / (r.time - q.time) -
      (2 * q.bend + r.bend) * (r.time - q.time) / 6 := by
    rw [pieceSlope_eq]
    field_simp
    ring
  rw [hleft, hright]
  constructor <;> intro h <;> linarith

end Piece

def withBends (samples : List (ℝ × ℝ)) (bends : List ℝ) : List (Knot ℝ) :=
  List.zipWith (fun s bend => ⟨s.1, s.2, bend⟩) samples bends

theorem knots_eq (samples : List (ℝ × ℝ)) :
    knots samples = withBends samples (0 :: solve (equations samples) ++ [0]) := by
  rw [← Number.real_zero]
  rfl

section WithBends

variable {samples : List (ℝ × ℝ)} {bends : List ℝ} (h : samples.length = bends.length)

include h

theorem map_time_withBends : (withBends samples bends).map (·.time) = samples.map (·.1) :=
  List.ext_getElem (by simp [withBends, h]) (by simp [withBends])

theorem map_value_withBends : (withBends samples bends).map (·.value) = samples.map (·.2) :=
  List.ext_getElem (by simp [withBends, h]) (by simp [withBends])

theorem map_bend_withBends : (withBends samples bends).map (·.bend) = bends :=
  List.ext_getElem (by simp [withBends, h]) (by simp [withBends])

end WithBends

theorem ordered_withBends : ∀ {samples : List (ℝ × ℝ)} {bends : List ℝ}, Ascending samples →
    Ordered (withBends samples bends)
  | [], _, _ => .nil
  | _ :: _, [], _ => .nil
  | [_], _ :: _, _ => .singleton _
  | _ :: _ :: _, [_], _ => .singleton _
  | _ :: s :: samples, _ :: bend :: bends, h => by
    obtain ⟨hfirst, htail⟩ := List.isChain_cons_cons.mp h
    have hrest : Ordered (withBends (s :: samples) (bend :: bends)) := ordered_withBends htail
    exact .cons_cons hfirst hrest

theorem length_bends {samples : List (ℝ × ℝ)} (hn : 2 ≤ samples.length) :
    samples.length = (0 :: solve (equations samples) ++ [0]).length := by
  rw [List.length_append, List.length_cons, length_solve, length_equations]
  exact (Nat.sub_add_cancel hn).symm

theorem length_knots {samples : List (ℝ × ℝ)} (hn : 2 ≤ samples.length) :
    (knots samples).length = samples.length := by
  rw [knots_eq, withBends, List.length_zipWith, ← length_bends hn, Nat.min_self]

theorem ordered_knots {samples : List (ℝ × ℝ)} (h : Ascending samples) : Ordered (knots samples) := by
  rw [knots_eq]
  exact ordered_withBends h

theorem meets_pieceValue : ∀ {ks : List (Knot ℝ)}, Ordered ks → Meets pieceValue ks
  | [], _ => trivial
  | [_], _ => trivial
  | [_, _], _ => trivial
  | p :: q :: r :: rest, h => by
    obtain ⟨hpq, htail⟩ := List.isChain_cons_cons.mp h
    obtain ⟨hqr, _⟩ := List.isChain_cons_cons.mp htail
    exact ⟨(pieceValue_right hpq).trans (pieceValue_left hqr).symm, meets_pieceValue htail⟩

theorem meets_pieceBend : ∀ {ks : List (Knot ℝ)}, Ordered ks → Meets pieceBend ks
  | [], _ => trivial
  | [_], _ => trivial
  | [_, _], _ => trivial
  | p :: q :: r :: rest, h => by
    obtain ⟨hpq, htail⟩ := List.isChain_cons_cons.mp h
    obtain ⟨hqr, _⟩ := List.isChain_cons_cons.mp htail
    exact ⟨(pieceBend_right hpq).trans (pieceBend_left hqr).symm, meets_pieceBend htail⟩

theorem exists_after (s s' : ℝ × ℝ) {samples : List (ℝ × ℝ)} {xs : List ℝ}
    (h : samples.length = xs.length) : ∃ y ys, xs ++ [0] = y :: ys ∧
      after (equations (s :: s' :: samples)) xs = (s'.1 - s.1) * y := by
  match samples, xs, h with
  | [], [], _ => exact ⟨0, [], rfl, (mul_zero _).symm⟩
  | _ :: _, y :: ys, _ => exact ⟨y, ys ++ [0], rfl, rfl⟩

theorem meets_pieceSlope_iff : ∀ {samples : List (ℝ × ℝ)} {left : ℝ} {xs : List ℝ},
    Ascending samples → samples.length = xs.length + 2 →
      (Meets pieceSlope (withBends samples (left :: xs ++ [0])) ↔
        Solves left (equations samples) xs)
  | [_, _], left, [], _, _ => ⟨fun _ => .nil left, fun _ => trivial⟩
  | (t0, v0) :: (t1, v1) :: (t2, v2) :: rest, left, x :: xs, h, hlength => by
    obtain ⟨h01, htail⟩ := List.isChain_cons_cons.mp h
    obtain ⟨h12, _⟩ := List.isChain_cons_cons.mp htail
    have ih : Meets pieceSlope (withBends ((t1, v1) :: (t2, v2) :: rest) (x :: xs ++ [0])) ↔
        Solves x (equations ((t1, v1) :: (t2, v2) :: rest)) xs :=
      meets_pieceSlope_iff htail (by simpa using hlength)
    obtain ⟨y, ys, hys, hafter⟩ := exists_after (t1, v1) (t2, v2) (by simpa using hlength)
    simp only [List.cons_append, hys] at ih ⊢
    have hmeets := pieceSlope_meets_iff (p := ⟨t0, v0, left⟩) (q := ⟨t1, v1, x⟩)
      (r := ⟨t2, v2, y⟩) h01 h12
    refine (and_congr hmeets ih).trans ?_
    constructor
    · rintro ⟨hequation, tail⟩
      refine .cons ?_ tail
      rw [hafter]
      exact hequation
    · rintro (_ | ⟨hequation, tail⟩)
      rw [hafter] at hequation
      exact ⟨hequation, tail⟩

end Synoptic.Series
