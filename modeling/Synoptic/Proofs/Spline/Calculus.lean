import Mathlib.Analysis.Calculus.Deriv.Add
import Mathlib.Analysis.Calculus.Deriv.Comp
import Mathlib.Analysis.Calculus.Deriv.Mul
import Mathlib.Analysis.Calculus.Deriv.Pow
import Mathlib.Topology.Algebra.Module.ModuleTopology
import Synoptic.Proofs.Spline.Linear

namespace Synoptic.Spline

open Set Filter Topology

section Pieces

theorem locate_fst (u : ℝ) (n : Nat) :
    (locate u n).1 = (max 0 (min ⌊u⌋ ((n - 2 : Nat) : ℤ))).toNat := by
  have hclamp : max (0 : ℝ) (min ⌊u⌋ ((n - 2 : Nat) : ℝ)) =
      ((max 0 (min ⌊u⌋ ((n - 2 : Nat) : ℤ)) : ℤ) : ℝ) := by push_cast; rfl
  simp only [locate, Number.real_toIndex, Number.real_floor, Number.real_zero, Number.real_natCast]
  rw [Number.real_clamp (by simp), hclamp, ← Int.floor_toNat, Int.floor_intCast]

theorem locate_snd (u : ℝ) (n : Nat) : (locate u n).2 = u - (locate u n).1 := by
  have hcell : (((locate u n).1 : ℤ) : ℝ) = max (0 : ℝ) (min ⌊u⌋ ((n - 2 : Nat) : ℝ)) := by
    rw [locate_fst, Int.toNat_of_nonneg (le_max_left _ _)]
    push_cast
    rfl
  rw [← Int.cast_natCast (R := ℝ), hcell]
  simp only [locate, Number.real_floor, Number.real_zero, Number.real_natCast]
  rw [Number.real_clamp (by simp)]

theorem locate_eq_iff {u : ℝ} {n m : Nat} : (locate u n).1 = m ↔
    m ≤ n - 2 ∧ (m = 0 ∨ (m : ℝ) ≤ u) ∧ (m = n - 2 ∨ u < m + 1) := by
  have hlower : (m : ℝ) ≤ u ↔ (m : ℤ) ≤ ⌊u⌋ := by rw [Int.le_floor, Int.cast_natCast]
  have hupper : u < m + 1 ↔ ⌊u⌋ < (m : ℤ) + 1 := by
    rw [Int.floor_lt]
    push_cast
    rfl
  rw [locate_fst, hlower, hupper]
  omega

variable {u : ℝ} {n m : Nat}

theorem eventually_lt_end (h : m = n - 2 ∨ u < m + 1) :
    ∀ᶠ x : ℝ in 𝓝 u, m = n - 2 ∨ x < m + 1 := by
  obtain hm | hu := h
  · exact .of_forall fun _ => .inl hm
  · filter_upwards [Iio_mem_nhds hu] with x hx using .inr hx

theorem eventually_locate (hm : m ≤ n - 2) (hlower : m = 0 ∨ (m : ℝ) < u)
    (hupper : m = n - 2 ∨ u < m + 1) : ∀ᶠ x in 𝓝 u, (locate x n).1 = m := by
  have hleft : ∀ᶠ x : ℝ in 𝓝 u, m = 0 ∨ (m : ℝ) ≤ x := by
    obtain hm | hu := hlower
    · exact .of_forall fun _ => .inl hm
    · filter_upwards [Ioi_mem_nhds hu] with x hx using .inr (le_of_lt hx)
  filter_upwards [hleft, eventually_lt_end hupper] with x hl hr using locate_eq_iff.mpr ⟨hm, hl, hr⟩

theorem eventually_locate_after (hm : m ≤ n - 2) : ∀ᶠ x in 𝓝[≥] (m : ℝ), (locate x n).1 = m := by
  have hright := eventually_lt_end (u := (m : ℝ)) (n := n) (.inr (lt_add_one _))
  filter_upwards [mem_nhdsWithin_of_mem_nhds hright, self_mem_nhdsWithin] with x hr hx
  exact locate_eq_iff.mpr ⟨hm, .inr hx, hr⟩

theorem eventually_locate_before (hm : m + 1 ≤ n - 2) :
    ∀ᶠ x in 𝓝[<] (m + 1 : ℝ), (locate x n).1 = m := by
  have hnear : Ioi (m : ℝ) ∈ 𝓝[<] (m + 1 : ℝ) :=
    mem_nhdsWithin_of_mem_nhds (Ioi_mem_nhds (lt_add_one _))
  filter_upwards [hnear, self_mem_nhdsWithin] with x hl hr
  exact locate_eq_iff.mpr ⟨by omega, .inr (le_of_lt hl), .inr hr⟩

theorem pieces_near (F : Nat → ℝ → ℝ) (u : ℝ) (n : Nat) :
    (fun x => F (locate x n).1 x) =ᶠ[𝓝 u] F (locate u n).1 ∨
      ∃ k : Nat, u = k + 1 ∧ (locate u n).1 = k + 1 ∧
        (fun x => F (locate x n).1 x) =ᶠ[𝓝[<] u] F k ∧
        (fun x => F (locate x n).1 x) =ᶠ[𝓝[≥] u] F (k + 1) := by
  obtain ⟨m, hm⟩ : ∃ m, (locate u n).1 = m := ⟨_, rfl⟩
  obtain ⟨hlast, hlower, hupper⟩ := locate_eq_iff.mp hm
  rw [hm]
  by_cases hinside : m = 0 ∨ (m : ℝ) < u
  · left
    filter_upwards [eventually_locate hlast hinside hupper] with x hx
    rw [hx]
  · -- At a node that is not the first, the piece before it ends where its own begins.
    right
    obtain ⟨hpos, hle⟩ := not_or.mp hinside
    obtain ⟨k, rfl⟩ := Nat.exists_eq_succ_of_ne_zero hpos
    have hu : u = ((k + 1 : Nat) : ℝ) := le_antisymm (not_lt.mp hle) (hlower.resolve_left hpos)
    have hknot : u = k + 1 := by rw [hu, Nat.cast_succ]
    refine ⟨k, hknot, rfl, ?_, ?_⟩
    · rw [hknot]
      filter_upwards [eventually_locate_before hlast] with x hx
      rw [hx]
    · rw [hu]
      filter_upwards [eventually_locate_after hlast] with x hx
      rw [hx]

/-- What is made of one piece for each cell has a derivative everywhere, if at a node the pieces on
its two sides have one value and one slope. -/
theorem hasDerivAt_pieces {F F' : Nat → ℝ → ℝ} (hF : ∀ m u, HasDerivAt (F m) (F' m u) u)
    (hvalue : ∀ m : Nat, F m (m + 1) = F (m + 1) (m + 1))
    (hslope : ∀ m : Nat, F' m (m + 1) = F' (m + 1) (m + 1)) (u : ℝ) (n : Nat) :
    HasDerivAt (fun u => F (locate u n).1 u) (F' (locate u n).1 u) u := by
  obtain hnear | ⟨k, hu, hcell, hbefore, hafter⟩ := pieces_near F u n
  · exact (hF _ u).congr_of_eventuallyEq hnear
  · have hslopes : F' k u = F' (k + 1) u := by rw [hu, hslope]
    have hleft : HasDerivWithinAt (fun u => F (locate u n).1 u) (F' (k + 1) u) (Iio u) u := by
      rw [← hslopes]
      apply (hF k u).hasDerivWithinAt.congr_of_eventuallyEq hbefore
      rw [hcell, hu, hvalue]
    have hright : HasDerivWithinAt (fun u => F (locate u n).1 u) (F' (k + 1) u) (Ici u) u :=
      (hF (k + 1) u).hasDerivWithinAt.congr_of_eventuallyEq_of_mem hafter self_mem_Ici
    have hunion := hleft.union hright
    rwa [Iio_union_Ici, hasDerivWithinAt_univ, ← hcell] at hunion

theorem continuous_pieces {F : Nat → ℝ → ℝ} (hF : ∀ m, Continuous (F m))
    (hvalue : ∀ m : Nat, F m (m + 1) = F (m + 1) (m + 1)) (n : Nat) :
    Continuous fun u => F (locate u n).1 u := by
  apply continuous_iff_continuousAt.mpr
  intro u
  obtain hnear | ⟨k, hu, hcell, hbefore, hafter⟩ := pieces_near F u n
  · exact (hF _).continuousAt.congr hnear.symm
  · have hleft : ContinuousWithinAt (fun u => F (locate u n).1 u) (Iio u) u := by
      apply (hF k).continuousWithinAt.congr_of_eventuallyEq hbefore
      rw [hcell, hu, hvalue]
    have hright : ContinuousWithinAt (fun u => F (locate u n).1 u) (Ici u) u :=
      (hF (k + 1)).continuousWithinAt.congr_of_eventuallyEq_of_mem hafter self_mem_Ici
    have hunion := hleft.union hright
    rwa [Iio_union_Ici, continuousWithinAt_univ] at hunion

end Pieces

section Weights

def Weights.spread (w : Weights ℝ) (cell k : Nat) : ℝ :=
  (if k = cell then w.w0 else 0) + (if k = cell + 1 then w.w1 else 0) +
    (if k = cell + 2 then w.w2 else 0) + (if k = cell + 3 then w.w3 else 0)

theorem sum_spread {w : Weights ℝ} {cell n : Nat} (h : cell + 3 < n) (f : Nat → ℝ) :
    ∑ k ∈ Finset.range n, w.spread cell k * f k =
      w.w0 * f cell + w.w1 * f (cell + 1) + w.w2 * f (cell + 2) + w.w3 * f (cell + 3) := by
  have hpart : ∀ c k : Nat, ∀ x : ℝ,
      (if k = c then x else 0) * f k = if k = c then x * f c else 0 := by
    intro c k x
    split
    · rename_i hk
      rw [hk]
    · rw [zero_mul]
  simp only [Weights.spread, add_mul, hpart, Finset.sum_add_distrib, Finset.sum_ite_eq',
    Finset.mem_range]
  rw [if_pos (by omega), if_pos (by omega), if_pos (by omega), if_pos h]

noncomputable def weightAt (w : ℝ → Weights ℝ) (n k : Nat) (u : ℝ) : ℝ :=
  (w (locate u n).2).spread (locate u n).1 k

/-- Weights and their slopes. Where a cell ends both are those with which the next begins. -/
structure Weights.Smooth (w w' : ℝ → Weights ℝ) : Prop where
  hasDerivAt : ∀ t cell k, HasDerivAt (fun t => (w t).spread cell k) ((w' t).spread cell k) t
  continues : ∀ cell k, (w 1).spread cell k = (w 0).spread (cell + 1) k
  slope_continues : ∀ cell k, (w' 1).spread cell k = (w' 0).spread (cell + 1) k

theorem Weights.Smooth.hasDerivAt_weightAt {w w' : ℝ → Weights ℝ} (h : Smooth w w') (n k : Nat)
    (u : ℝ) : HasDerivAt (weightAt w n k) (weightAt w' n k u) u := by
  have hcell : ∀ u, weightAt w n k u = (w (u - (locate u n).1)).spread (locate u n).1 k := by
    intro u
    rw [weightAt, locate_snd]
  have hpiece : ∀ (m : Nat) u, HasDerivAt (fun u : ℝ => (w (u - m)).spread m k)
      ((w' (u - m)).spread m k) u := by
    intro m u
    have hd := (h.hasDerivAt (u - m) m k).comp u ((hasDerivAt_id' u).sub_const (m : ℝ))
    rwa [mul_one] at hd
  rw [funext hcell, weightAt, locate_snd]
  apply hasDerivAt_pieces hpiece
  · intro m
    simp [h.continues]
  · intro m
    simp [h.slope_continues]

theorem hasDerivAt_cubic (a b c d t : ℝ) :
    HasDerivAt (fun t => a * t ^ 3 + b * t ^ 2 + c * t + d) (3 * a * t ^ 2 + 2 * b * t + c) t := by
  have hcube := (hasDerivAt_pow 3 t).const_mul a
  have hsquare := (hasDerivAt_pow 2 t).const_mul b
  have hline := (hasDerivAt_id' t).const_mul c
  apply (((hcube.add hsquare).add hline).add_const d).congr_deriv
  norm_num
  ring

theorem basis_eq (t : ℝ) : basis t =
    ⟨-1 / 6 * t ^ 3 + 1 / 2 * t ^ 2 + -1 / 2 * t + 1 / 6,
      1 / 2 * t ^ 3 + -1 * t ^ 2 + 0 * t + 2 / 3,
      -1 / 2 * t ^ 3 + 1 / 2 * t ^ 2 + 1 / 2 * t + 1 / 6,
      1 / 6 * t ^ 3 + 0 * t ^ 2 + 0 * t + 0⟩ := by
  simp only [basis, Number.real_one, Weights.mk.injEq]
  refine ⟨?_, ?_, ?_, ?_⟩ <;> ring

theorem basis₁_eq (t : ℝ) : basis₁ t =
    ⟨3 * (-1 / 6) * t ^ 2 + 2 * (1 / 2) * t + -1 / 2, 3 * (1 / 2) * t ^ 2 + 2 * -1 * t + 0,
      3 * (-1 / 2) * t ^ 2 + 2 * (1 / 2) * t + 1 / 2, 3 * (1 / 6) * t ^ 2 + 2 * 0 * t + 0⟩ := by
  simp only [basis₁, Number.real_one, Weights.mk.injEq]
  refine ⟨?_, ?_, ?_, ?_⟩ <;> ring

theorem Weights.hasDerivAt_spread {w w' : ℝ → Weights ℝ} {t : ℝ}
    (h0 : HasDerivAt (fun t => (w t).w0) (w' t).w0 t)
    (h1 : HasDerivAt (fun t => (w t).w1) (w' t).w1 t)
    (h2 : HasDerivAt (fun t => (w t).w2) (w' t).w2 t)
    (h3 : HasDerivAt (fun t => (w t).w3) (w' t).w3 t) (cell k : Nat) :
    HasDerivAt (fun t => (w t).spread cell k) ((w' t).spread cell k) t := by
  have hite : ∀ {f : ℝ → ℝ} {f' : ℝ} (p : Prop) [Decidable p], HasDerivAt f f' t →
      HasDerivAt (fun t => if p then f t else 0) (if p then f' else 0) t := by
    intro f f' p _ hf
    split
    · exact hf
    · exact hasDerivAt_const t 0
  exact (((hite _ h0).add (hite _ h1)).add (hite _ h2)).add (hite _ h3)

theorem basis_smooth : Weights.Smooth basis basis₁ where
  hasDerivAt t cell k := by
    apply Weights.hasDerivAt_spread
    all_goals simp only [basis_eq, basis₁_eq]
    all_goals exact hasDerivAt_cubic ..
  continues cell k := by
    simp only [basis_eq, Weights.spread]
    norm_num
  slope_continues cell k := by
    simp only [basis₁_eq, Weights.spread]
    norm_num

end Weights

section Surface

variable {s : Spline ℝ}

theorem weighted_eq_sum {i j : Nat} (hi : i + 3 < s.columns) (hj : j + 3 < s.rows)
    (wu wv : Weights ℝ) :
    s.weighted i j wu wv =
      ∑ l ∈ Finset.range s.rows, ∑ k ∈ Finset.range s.columns,
        wv.spread j l * (wu.spread i k * s.coeff k l) := by
  have hrow : ∀ l, ∑ k ∈ Finset.range s.columns, wu.spread i k * s.coeff k l = s.rowSum i l wu := by
    intro l
    rw [sum_spread hi, rowSum]
    ring
  simp only [← Finset.mul_sum, hrow]
  rw [sum_spread hj, weighted, Number.real_zero]
  ring

noncomputable def weightedAt (s : Spline ℝ) (wu wv : ℝ → Weights ℝ) (u v : ℝ) : ℝ :=
  s.weighted (locate u (s.columns - 2)).1 (locate v (s.rows - 2)).1
    (wu (locate u (s.columns - 2)).2) (wv (locate v (s.rows - 2)).2)

theorem weightedAt_eq_sum (hs : s.Usable) (wu wv : ℝ → Weights ℝ) (u v : ℝ) :
    s.weightedAt wu wv u v =
      ∑ l ∈ Finset.range s.rows, ∑ k ∈ Finset.range s.columns,
        weightAt wv (s.rows - 2) l v * (weightAt wu (s.columns - 2) k u * s.coeff k l) :=
  weighted_eq_sum (locate_add_lt u hs.1) (locate_add_lt v hs.2.1) _ _

theorem hasDerivAt_weightedAt (hs : s.Usable) {wu wu' wv wv' : ℝ → Weights ℝ}
    (hwu : Weights.Smooth wu wu') (hwv : Weights.Smooth wv wv') {u v : ℝ → ℝ} {u' v' t : ℝ}
    (hu : HasDerivAt u u' t) (hv : HasDerivAt v v' t) :
    HasDerivAt (fun t => s.weightedAt wu wv (u t) (v t))
      (s.weightedAt wu' wv (u t) (v t) * u' + s.weightedAt wu wv' (u t) (v t) * v') t := by
  have hterm : ∀ l k, HasDerivAt
      (fun t => weightAt wv (s.rows - 2) l (v t) *
        (weightAt wu (s.columns - 2) k (u t) * s.coeff k l))
      (weightAt wv' (s.rows - 2) l (v t) * v' *
          (weightAt wu (s.columns - 2) k (u t) * s.coeff k l) +
        weightAt wv (s.rows - 2) l (v t) *
          (weightAt wu' (s.columns - 2) k (u t) * u' * s.coeff k l)) t := by
    intro l k
    exact ((hwv.hasDerivAt_weightAt _ l _).comp t hv).mul
      (((hwu.hasDerivAt_weightAt _ k _).comp t hu).mul_const _)
  have hsum := HasDerivAt.fun_sum (u := Finset.range s.rows) fun l _ =>
    HasDerivAt.fun_sum (u := Finset.range s.columns) fun k _ => hterm l k
  simp only [weightedAt_eq_sum hs, Finset.sum_mul]
  apply hsum.congr_deriv
  simp only [← Finset.sum_add_distrib]
  refine Finset.sum_congr rfl fun l _ => Finset.sum_congr rfl fun k _ => ?_
  ring

variable {x y : ℝ → ℝ} {x' y' t : ℝ}

theorem hasDerivAt_toNodes (hx : HasDerivAt x x' t) (hy : HasDerivAt y y' t) :
    HasDerivAt (fun t => (s.toNodes ⟨x t, y t⟩).1)
        ((x' * Number.cos (Number.toRadians s.orientation) +
          y' * Number.sin (Number.toRadians s.orientation)) / s.cell) t ∧
      HasDerivAt (fun t => (s.toNodes ⟨x t, y t⟩).2)
        ((-x' * Number.sin (Number.toRadians s.orientation) +
          y' * Number.cos (Number.toRadians s.orientation)) / s.cell) t := by
  have hdx := hx.sub_const s.origin.x
  have hdy := hy.sub_const s.origin.y
  exact ⟨((hdx.mul_const _).add (hdy.mul_const _)).div_const _,
    ((hdx.neg.mul_const _).add (hdy.mul_const _)).div_const _⟩

/-- Along any curve of its map the value of a surface changes with its two first derivatives. -/
theorem hasDerivAt_valueAt (hs : s.Usable) (hx : HasDerivAt x x' t) (hy : HasDerivAt y y' t) :
    HasDerivAt (fun t => s.valueAt ⟨x t, y t⟩)
      ((s.derivativesAt ⟨x t, y t⟩).fx * x' + (s.derivativesAt ⟨x t, y t⟩).fy * y') t := by
  obtain ⟨hu, hv⟩ := hasDerivAt_toNodes (s := s) hx hy
  apply (hasDerivAt_weightedAt hs basis_smooth basis_smooth hu hv).congr_deriv
  simp only [derivativesAt, weightedAt]
  ring

end Surface

end Synoptic.Spline
