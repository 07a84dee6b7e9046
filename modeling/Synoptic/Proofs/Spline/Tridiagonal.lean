import Mathlib.Tactic.LinearCombination
import Synoptic.Proofs.Reals
import Synoptic.Spline.Fit

namespace Synoptic.Tridiagonal

/-- Four times each unknown and its two neighbours add up to the right side. The unknowns stand
between `left` and `right`. -/
inductive Solves (right : ℝ) : ℝ → List ℝ → List ℝ → Prop
  | nil (left : ℝ) : Solves right left [] []
  | cons {left r x : ℝ} {rs xs : List ℝ} (h : left + 4 * x + xs.headD right = r)
    (tail : Solves right x rs xs) : Solves right left (r :: rs) (x :: xs)

theorem three_lt_next {pivot : ℝ} (h : 3 < pivot) : 3 < 4 - 1 / pivot := by
  have hpos : 0 < pivot := by linarith
  have hinv : 1 / pivot < 1 := (div_lt_one hpos).mpr (by linarith)
  linarith

theorem sweep_solves {pivot : ℝ} (h : 3 < pivot) (rhs : ℝ) (rest : List ℝ) :
    pivot * (sweep pivot rhs rest).1 + (sweep pivot rhs rest).2.headD 0 = rhs ∧
      Solves 0 (sweep pivot rhs rest).1 rest (sweep pivot rhs rest).2 := by
  have hne : pivot ≠ 0 := by linarith
  induction rest generalizing pivot rhs with
  | nil =>
    simp only [sweep, List.headD_nil, add_zero]
    exact ⟨mul_div_cancel₀ rhs hne, .nil _⟩
  | cons next rest ih =>
    have hnext := three_lt_next h
    obtain ⟨hfirst, hrest⟩ := ih hnext (next - 1 / pivot * rhs) (by linarith)
    simp only [sweep, Number.real_one, List.headD_cons]
    generalize hx : sweep (4 - 1 / pivot) (next - 1 / pivot * rhs) rest = x at hfirst hrest ⊢
    constructor
    · rw [mul_div_cancel₀ _ hne, sub_add_cancel]
    · exact .cons (by linear_combination hfirst) hrest

theorem solve_solves (rs : List ℝ) : Solves 0 0 rs (solve rs) := by
  cases rs with
  | nil => exact .nil 0
  | cons r rest =>
    have hpivot : (3 : ℝ) < 4 := by norm_num
    obtain ⟨hfirst, hrest⟩ := sweep_solves hpivot r rest
    refine .cons ?_ hrest
    rw [zero_add]
    exact hfirst

namespace Solves

variable {left right : ℝ} {rs xs : List ℝ}

theorem of_modifyHead (h : Solves right 0 (rs.modifyHead (· - left)) xs) :
    Solves right left rs xs := by
  cases rs with
  | nil =>
    cases h
    exact .nil left
  | cons r rs =>
    cases h with
    | cons h tail => exact .cons (by linear_combination h) tail

theorem of_modifyLast (h : Solves 0 left (Spline.modifyLast (· - right) rs) xs) :
    Solves right left rs xs := by
  induction rs generalizing left xs with
  | nil =>
    cases h
    exact .nil left
  | cons r rest ih =>
    cases rest with
    | nil =>
      cases h with
      | cons h tail =>
        cases tail
        rw [List.headD_nil] at h
        exact .cons (by rw [List.headD_nil]; linear_combination h) (.nil _)
    | cons next rest =>
      cases h with
      | cons h tail =>
        -- The next unknown is the right neighbour, whatever stands beyond the end.
        cases ih tail with
        | cons hnext hrest => exact .cons h (.cons hnext hrest)

end Solves

end Synoptic.Tridiagonal
