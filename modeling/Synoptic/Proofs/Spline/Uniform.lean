import Synoptic.Proofs.Bounds.Elimination
import Synoptic.Proofs.Series.Defined
import Synoptic.Proofs.Spline.Tridiagonal

namespace Synoptic

namespace Tridiagonal

def before (xs : Array ℝ) : Nat → ℝ
  | 0 => 0
  | i + 1 => xs.getD i 0

/-- As many unknowns as right sides; four times each of them and its neighbours, if it has any, come
to the right side at its place. -/
def Solution (rhs xs : Array ℝ) : Prop :=
  xs.size = rhs.size ∧
    ∀ i < rhs.size, before xs i + 4 * xs.getD i 0 + xs.getD (i + 1) 0 = rhs.getD i 0

theorem solves_iff_getD {left : ℝ} {rs xs : List ℝ} :
    Solves 0 left rs xs ↔ xs.length = rs.length ∧ ∀ i < rs.length,
      (left :: xs).getD i 0 + 4 * xs.getD i 0 + xs.getD (i + 1) 0 = rs.getD i 0 := by
  induction rs generalizing left xs with
  | nil =>
    constructor
    · rintro ⟨⟩
      exact ⟨rfl, nofun⟩
    · rintro ⟨hlength, -⟩
      rw [List.eq_nil_of_length_eq_zero hlength]
      exact .nil left
  | cons r rs ih =>
    constructor
    · rintro (_ | @⟨_, _, x, _, xs, h, tail⟩)
      obtain ⟨hlength, hequations⟩ := ih.mp tail
      refine ⟨congrArg (· + 1) hlength, fun i hi => ?_⟩
      cases i with
      | zero => cases xs <;> exact h
      | succ i => exact hequations i (Nat.lt_of_succ_lt_succ hi)
    · rintro ⟨hlength, hequations⟩
      obtain ⟨x, xs, rfl⟩ := List.exists_cons_of_length_eq_add_one hlength
      refine .cons ?_ (ih.mpr ⟨Nat.succ.inj hlength, fun i hi => ?_⟩)
      · have hfirst := hequations 0 (Nat.succ_pos _)
        cases xs <;> exact hfirst
      · exact hequations (i + 1) (Nat.succ_lt_succ hi)

theorem solution_iff {rhs xs : Array ℝ} : Solution rhs xs ↔ Solves 0 0 rhs.toList xs.toList := by
  obtain ⟨rs⟩ := rhs
  obtain ⟨xs⟩ := xs
  have hgetD (l : List ℝ) (i : Nat) : l.toArray.getD i 0 = l.getD i 0 := by
    rw [Array.getD_eq_getD_getElem?, List.getElem?_toArray, List.getD_eq_getElem?_getD]
  have hbefore (i : Nat) : before xs.toArray i = (0 :: xs).getD i 0 := by
    cases i with
    | zero => rfl
    | succ i => exact hgetD xs i
  simp only [Solution, List.size_toArray, hgetD, hbefore, solves_iff_getD]

theorem sweep_unique {pivot : ℝ} (h : 3 < pivot) {rhs x : ℝ} {rest xs : List ℝ}
    (hfirst : pivot * x + xs.headD 0 = rhs) (hrest : Solves 0 x rest xs) :
    sweep pivot rhs rest = (x, xs) := by
  have hne : pivot ≠ 0 := by linarith
  induction rest generalizing pivot rhs x xs with
  | nil =>
    cases hrest
    rw [List.headD_nil, add_zero] at hfirst
    simp only [sweep, ← hfirst, mul_div_cancel_left₀ _ hne]
  | cons next rest ih =>
    cases hrest with
    | @cons _ _ y _ ys hnext tail =>
      rw [List.headD_cons] at hfirst
      have hx : x = (rhs - y) / pivot := by
        rw [eq_div_iff hne]
        linear_combination hfirst
      have hpivot := three_lt_next h
      have hnext' : (4 - 1 / pivot) * y + ys.headD 0 = next - 1 / pivot * rhs := by
        linear_combination hnext - hx
      have hswept := ih hpivot hnext' tail (by linarith)
      simp only [sweep, Number.real_one, hswept, ← hx]

theorem solve_unique {rs xs : List ℝ} (h : Solves 0 0 rs xs) : solve rs = xs := by
  cases h with
  | nil => rfl
  | cons hfirst tail =>
    rw [zero_add] at hfirst
    rw [solve, sweep_unique (by norm_num : (3 : ℝ) < 4) hfirst tail]

theorem three_lt_stages (r : ℝ) (rest : List ℝ) :
    ∀ {t : Nat}, t ≤ rest.length → 3 < (stages r rest t).1
  | 0, _ => by
    change (3 : ℝ) < 4
    norm_num
  | t + 1, ht => by
    rw [stages_succ ht]
    change 3 < (@OfNat.ofNat ℝ 4 (Number.instOfNat 4)) - _ / (stages r rest t).1
    rw [Number.real_one]
    exact three_lt_next (three_lt_stages r rest (Nat.le_of_succ_le ht))

theorem sweep_defined {pivot : ℝ} (h : 3 < pivot) (rhs : ℝ) (rest : List ℝ) :
    sweep (some pivot) (some rhs) (rest.map some) =
      Prod.map some (List.map some) (sweep pivot rhs rest) := by
  have hne : pivot ≠ 0 := by linarith
  induction rest generalizing pivot rhs with
  | nil => simp [sweep, Number.some_div _ hne]
  | cons next rest ih =>
    have hnext := three_lt_next h
    have hw : (1 / some pivot : Option ℝ) = some (1 / pivot) := by
      rw [← Number.some_div 1 hne]
      exact congrArg (fun one => some one / some pivot) Nat.cast_one
    have hrest := ih hnext (next - 1 / pivot * rhs) (by linarith)
    simp only [List.map_cons, sweep, Number.real_one, hw, Number.some_ofNat, Number.some_sub,
      Number.some_mul, hrest, Prod.map]
    rw [Number.some_div _ hne]

theorem solve_defined (rs : List ℝ) : solve (rs.map some) = (solve rs).map some := by
  cases rs with
  | nil => rfl
  | cons r rest =>
    exact congrArg (fun x => x.1 :: x.2) (sweep_defined (by norm_num : (3 : ℝ) < 4) r rest)

end Tridiagonal

namespace Checked

open Tridiagonal

variable {ε : Type}

theorem three_lt_pivots (rhs : Array ℝ) {t : Nat} (ht : t < rhs.size) :
    ∃ pivots swept, ((List.range t).foldlM eliminate (Array.replicate rhs.size 4, rhs) :
      Checked ε _) = .ok (pivots, swept) ∧ pivots.size = rhs.size ∧ ∀ p ∈ pivots, 3 < p := by
  obtain ⟨_ | ⟨r, rest⟩⟩ := rhs
  · cases ht
  have hle : t ≤ rest.length := Nat.le_of_lt_succ ht
  refine ⟨_, _, eliminate_upto r rest hle, size_table .., ?_⟩
  intro p hp
  obtain ⟨i, hi, rfl⟩ := Array.mem_iff_getElem.mp hp
  rw [size_table] at hi
  simp only [table, Array.getElem_ofFn]
  by_cases hit : i < t + 1
  · rw [upto_of_lt hit]
    exact three_lt_stages r rest (Nat.le_of_lt_succ hi)
  · rw [upto_of_le (Nat.not_lt.mp hit)]
    change (3 : ℝ) < 4
    norm_num

/-- For right sides of every length the in-place solver stays in its arrays and comes to the one
solution of the system. No quotient by zero is taken on the way, and all pivots stay above three. -/
theorem solve_solution (rhs : Array ℝ) :
    ∃ xs : Array ℝ, (solve rhs : Checked ε (Array ℝ)) = .ok xs ∧
      xs.toList = Tridiagonal.solve rhs.toList ∧ (∀ ys, Solution rhs ys ↔ ys = xs) ∧
      (solve (rhs.map some) : Checked ε (Array (Option ℝ))) = .ok (xs.map some) ∧
      ∀ t < rhs.size, ∃ pivots swept,
        ((List.range t).foldlM eliminate (Array.replicate rhs.size 4, rhs) : Checked ε _) =
          .ok (pivots, swept) ∧ pivots.size = rhs.size ∧ ∀ p ∈ pivots, 3 < p := by
  obtain ⟨rs⟩ := rhs
  refine ⟨(Tridiagonal.solve rs).toArray, solve_eq rs, rfl, fun ys => ?_, ?_,
    fun t ht => three_lt_pivots _ ht⟩
  · rw [solution_iff]
    constructor
    · intro h
      rw [solve_unique h, Array.toArray_toList]
    · rintro rfl
      exact solve_solves rs
  · rw [List.map_toArray, List.map_toArray, solve_eq, solve_defined]

end Checked

end Synoptic
