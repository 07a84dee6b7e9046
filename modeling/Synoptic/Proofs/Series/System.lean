import Mathlib.Tactic.LinearCombination
import Synoptic.Proofs.Reals
import Synoptic.Spline.Series

namespace Synoptic.Series

def after : List (Equation ℝ) → List ℝ → ℝ
  | e :: _, x :: _ => e.before * x
  | _, _ => 0

/-- Unknowns that satisfy every equation. Before the first one stands `left`, behind the last one
nothing. -/
inductive Solves : ℝ → List (Equation ℝ) → List ℝ → Prop
  | nil (left : ℝ) : Solves left [] []
  | cons {left x : ℝ} {e : Equation ℝ} {es : List (Equation ℝ)} {xs : List ℝ}
    (h : e.before * left + e.pivot * x + after es xs = e.rhs) (tail : Solves x es xs) :
    Solves left (e :: es) (x :: xs)

def pivotsFrom {α : Type} [Number α] (pivot : α) : List (Equation α) → List α
  | [] => [pivot]
  | e :: es => pivot :: pivotsFrom (e.pivot - e.before / pivot * e.before) es

def pivots {α : Type} [Number α] : List (Equation α) → List α
  | [] => []
  | e :: es => pivotsFrom e.pivot es

def next : List (Equation ℝ) → ℝ
  | [] => 0
  | e :: _ => e.before

/-- In each equation the unknown itself counts more than both its neighbours. -/
def Dominant : List (Equation ℝ) → Prop
  | [] => True
  | e :: es => 0 < e.before ∧ e.before + next es < e.pivot ∧ Dominant es

theorem next_nonneg {es : List (Equation ℝ)} (h : Dominant es) : 0 ≤ next es := by
  cases es with
  | nil => exact le_rfl
  | cons e es => exact h.1.le

theorem pivotsFrom_pos {pivot : ℝ} {es : List (Equation ℝ)} (h : Dominant es)
    (hpivot : next es < pivot) : ∀ p ∈ pivotsFrom pivot es, 0 < p := by
  have hpos : 0 < pivot := (next_nonneg h).trans_lt hpivot
  induction es generalizing pivot with
  | nil => simpa [pivotsFrom] using hpos
  | cons e es ih =>
    obtain ⟨hbefore, hdominant, htail⟩ := h
    -- What elimination takes from the next pivot is less than its left neighbour counts.
    have hsmall : e.before / pivot * e.before < e.before :=
      mul_lt_of_lt_one_left hbefore ((div_lt_one hpos).mpr hpivot)
    have hnext : next es < e.pivot - e.before / pivot * e.before := by linarith
    exact List.forall_mem_cons.mpr ⟨hpos, ih htail hnext ((next_nonneg htail).trans_lt hnext)⟩

theorem pivots_pos {es : List (Equation ℝ)} (h : Dominant es) : ∀ p ∈ pivots es, 0 < p := by
  cases es with
  | nil => simp [pivots]
  | cons e es =>
    obtain ⟨hbefore, hdominant, htail⟩ := h
    exact pivotsFrom_pos htail (by linarith)

theorem sweep_iff {pivot : ℝ} (rhs : ℝ) {x : ℝ} {es : List (Equation ℝ)} {xs : List ℝ}
    (h : ∀ p ∈ pivotsFrom pivot es, p ≠ 0) :
    pivot * x + after es xs = rhs ∧ Solves x es xs ↔ sweep pivot rhs es = (x, xs) := by
  induction es generalizing pivot rhs x xs with
  | nil =>
    have hpivot : pivot ≠ 0 := h pivot (List.mem_singleton_self _)
    simp only [sweep, after, add_zero, Prod.mk.injEq]
    constructor
    · rintro ⟨hfirst, hsolves⟩
      cases hsolves
      exact ⟨by rw [← hfirst, mul_div_cancel_left₀ _ hpivot], rfl⟩
    · rintro ⟨rfl, rfl⟩
      exact ⟨mul_div_cancel₀ rhs hpivot, .nil _⟩
  | cons e es ih =>
    obtain ⟨hpivot, hrest⟩ := List.forall_mem_cons.mp h
    have hcancel : pivot * (e.before / pivot) = e.before := mul_div_cancel₀ _ hpivot
    simp only [sweep, Prod.mk.injEq]
    constructor
    · rintro ⟨hfirst, hsolves⟩
      cases hsolves with
      | @cons _ y _ _ ys hequation tail =>
        have hswept := (ih (e.rhs - e.before / pivot * rhs) hrest).mp
          ⟨by rw [← hfirst, after]; linear_combination hequation + x * hcancel, tail⟩
        rw [hswept]
        rw [after] at hfirst
        exact ⟨by rw [div_eq_iff hpivot]; linear_combination -hfirst, rfl⟩
    · rintro ⟨hx, rfl⟩
      obtain ⟨hequation, tail⟩ := (ih (e.rhs - e.before / pivot * rhs) hrest).mpr rfl
      rw [div_eq_iff hpivot] at hx
      refine ⟨by rw [after]; linear_combination -hx, .cons ?_ tail⟩
      linear_combination hequation - (e.before / pivot) * hx - x * hcancel

theorem solve_iff {es : List (Equation ℝ)} {xs : List ℝ} (h : ∀ p ∈ pivots es, p ≠ 0) :
    Solves 0 es xs ↔ solve es = xs := by
  cases es with
  | nil =>
    constructor
    · rintro ⟨⟩
      rfl
    · rintro rfl
      exact .nil 0
  | cons e es =>
    constructor
    · rintro (_ | ⟨hequation, tail⟩)
      rw [mul_zero, zero_add] at hequation
      rw [solve, (sweep_iff e.rhs h).mp ⟨hequation, tail⟩]
    · rintro rfl
      obtain ⟨hequation, tail⟩ := (sweep_iff e.rhs h).mpr rfl
      exact .cons (by linear_combination hequation) tail

theorem length_sweep {α : Type} [Number α] (pivot rhs : α) (es : List (Equation α)) :
    (sweep pivot rhs es).2.length = es.length := by
  induction es generalizing pivot rhs with
  | nil => rfl
  | cons e es ih => simp [sweep, ih]

theorem length_solve {α : Type} [Number α] (es : List (Equation α)) :
    (solve es).length = es.length := by
  cases es with
  | nil => rfl
  | cons e es => simp [solve, length_sweep]

theorem length_equations {α : Type} [Number α] :
    ∀ samples : List (α × α), (equations samples).length = samples.length - 2
  | [] => rfl
  | [_] => rfl
  | [_, _] => rfl
  | (t0, v0) :: (t1, v1) :: (t2, v2) :: rest => by
    simp [equations, length_equations ((t1, v1) :: (t2, v2) :: rest)]

def Ascending (samples : List (ℝ × ℝ)) : Prop := samples.IsChain fun s s' => s.1 < s'.1

theorem dominant_equations : ∀ {samples : List (ℝ × ℝ)}, Ascending samples →
    Dominant (equations samples)
  | [], _ => trivial
  | [_], _ => trivial
  | [_, _], _ => trivial
  | (t0, v0) :: (t1, v1) :: (t2, v2) :: rest, h => by
    obtain ⟨h01, htail⟩ := List.isChain_cons_cons.mp h
    obtain ⟨h12, _⟩ := List.isChain_cons_cons.mp htail
    have hnext : next (equations ((t1, v1) :: (t2, v2) :: rest)) ≤ t2 - t1 := by
      cases rest with
      | nil => exact sub_nonneg.mpr h12.le
      | cons _ _ => exact le_rfl
    simp only at h01 h12
    refine ⟨sub_pos.mpr h01, ?_, dominant_equations htail⟩
    change t1 - t0 + next (equations ((t1, v1) :: (t2, v2) :: rest)) < 2 * (t1 - t0 + (t2 - t1))
    linarith

end Synoptic.Series
