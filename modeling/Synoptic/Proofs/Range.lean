import Synoptic.Operator.Range
import Synoptic.Proofs.Alignment.Stability

namespace Synoptic

namespace Number

theorem real_maximum (a b : ℝ) : maximum a b = max a b := by
  change (if a ≤ b then b else if decide (a = a) then a else b) = _
  rw [if_pos (decide_eq_true rfl), max_def]

theorem real_minimum (a b : ℝ) : minimum a b = min a b := by
  change (if b ≤ a then b else if decide (a = a) then a else b) = _
  rw [if_pos (decide_eq_true rfl), min_comm, min_def]

end Number

/-- What a number is clamped to. Nothing is asked of bounds in the wrong order. -/
def Clamped (l u x y : ℝ) : Prop := l ≤ u → l ≤ y ∧ y ≤ u ∧ (l ≤ x → x ≤ u → y = x)

/-- Where a number ends up that may not lie strictly between two bounds. -/
structure Expelled (l u x y : ℝ) : Prop where
  not_inside : ¬ (l < y ∧ y < u)
  eq_of_not_inside : ¬ (l < x ∧ x < u) → y = x
  nearer : l < x → x < u → y = l ∧ |x - l| ≤ |x - u| ∨ y = u ∧ |x - u| ≤ |x - l|

theorem between_eq (x l u : ℝ) : between x l u = min (max x l) u := by
  rw [between, Number.real_maximum, Number.real_minimum]

theorem between_clamped (x l u : ℝ) : Clamped l u x (between x l u) := by
  intro h
  rw [between_eq]
  refine ⟨le_min (le_max_right x l) h, min_le_right _ _, fun hl hu => ?_⟩
  rw [max_eq_left hl, min_eq_left hu]

theorem between_between (x l u : ℝ) : between (between x l u) l u = between x l u := by
  simp only [between_eq]
  rcases le_total l u with h | h
  · rw [max_eq_left (le_min (le_max_right x l) h), min_eq_left (min_le_right _ _)]
  · -- With the bounds in the wrong order everything goes to the upper one.
    have hupper (y : ℝ) : min (max y l) u = u := min_eq_right (h.trans (le_max_right y l))
    rw [hupper, hupper]

theorem outside_eq (x l u : ℝ) :
    outside x l u = if l < x ∧ x < u then if x < (l + u) / 2 then l else u else x := by
  have htwo : (@OfNat.ofNat ℝ 2 (Number.instOfNat 2)) = 2 := Nat.cast_ofNat
  rw [outside, htwo]

theorem outside_expelled (x l u : ℝ) : Expelled l u x (outside x l u) := by
  rw [outside_eq]
  by_cases hinside : l < x ∧ x < u
  · have hlower : |x - l| = x - l := abs_of_pos (sub_pos.mpr hinside.1)
    have hupper : |x - u| = u - x := by rw [abs_sub_comm, abs_of_pos (sub_pos.mpr hinside.2)]
    rw [if_pos hinside]
    by_cases hmid : x < (l + u) / 2
    · rw [if_pos hmid]
      exact ⟨fun h => h.1.false, fun h => absurd hinside h,
        fun _ _ => .inl ⟨rfl, by rw [hlower, hupper]; linarith⟩⟩
    · rw [if_neg hmid]
      exact ⟨fun h => h.2.false, fun h => absurd hinside h,
        fun _ _ => .inr ⟨rfl, by rw [hlower, hupper]; linarith⟩⟩
  · rw [if_neg hinside]
    exact ⟨hinside, fun _ => rfl, fun hl hu => absurd ⟨hl, hu⟩ hinside⟩

theorem outside_outside (x l u : ℝ) : outside (outside x l u) l u = outside x l u :=
  (outside_expelled _ l u).eq_of_not_inside (outside_expelled x l u).not_inside

def Elementwise (name : String) (ctx : Context ℝ) (x lo hi r : Value ℝ)
    (P : ℝ → ℝ → ℝ → ℝ → Prop) : Prop :=
  ∃ aligned, align name [x, lo, hi] ctx = .ok aligned ∧ aligned.layout.Holds r ∧
    r.elements.size = aligned.layout.size ∧
    ∀ i (hi : i < r.elements.size), ∃ a l u, aligned.row i = [a, l, u] ∧ P l u a r.elements[i]

section Ternary

variable {name : String} {f : ℝ → ℝ → ℝ → ℝ} {x lo hi r : Value ℝ} {ctx : Context ℝ}

theorem runTernary_ok (h : runTernary name f [x, lo, hi] ctx = .ok r) :
    ∃ layout, ∃ operands : Fin 3 → Operand ℝ,
      align name [x, lo, hi] ctx = .ok ⟨layout, List.ofFn operands⟩ ∧
        r = Aligned.apply ⟨layout, List.ofFn operands⟩ fun xs =>
          f (xs.getD 0 Number.absent) (xs.getD 1 Number.absent) (xs.getD 2 Number.absent) := by
  obtain ⟨⟨layout, _⟩, halign, h⟩ := ok_of_bind h
  replace halign : align name (List.ofFn ![x, lo, hi]) ctx = _ := halign
  obtain ⟨operands, rfl, _⟩ := align_laid halign
  cases h
  exact ⟨layout, operands, halign, rfl⟩

theorem runTernary_elementwise {P : ℝ → ℝ → ℝ → ℝ → Prop} (hf : ∀ a l u, P l u a (f a l u))
    (h : runTernary name f [x, lo, hi] ctx = .ok r) : Elementwise name ctx x lo hi r P := by
  obtain ⟨layout, operands, halign, rfl⟩ := runTernary_ok h
  refine ⟨_, halign, Aligned.holds_apply _ _, by simp [Aligned.elements_apply], fun i hi => ?_⟩
  refine ⟨(operands 0).elem i, (operands 1).elem i, (operands 2).elem i, rfl, ?_⟩
  simp only [Aligned.elements_apply, Array.getElem_map, Array.getElem_range]
  exact hf _ _ _

theorem runTernary_again (hf : ∀ a l u, f (f a l u) l u = f a l u)
    (h : runTernary name f [x, lo, hi] ctx = .ok r) :
    runTernary name f [r, lo, hi] ctx = .ok r := by
  obtain ⟨layout, operands, halign, hr⟩ := runTernary_ok h
  have hholds : layout.Holds r := hr ▸ Aligned.holds_apply ⟨layout, List.ofFn operands⟩ _
  have hlaid : align name (List.ofFn ![x, lo, hi]) ctx = _ := halign
  have hupdate := align_update (i := 0) hlaid hholds
  have hvalues : Function.update ![x, lo, hi] 0 r = ![r, lo, hi] := by
    funext k
    fin_cases k <;> rfl
  rw [hvalues] at hupdate
  have halign' : align name [r, lo, hi] ctx = _ := hupdate
  rw [runTernary, halign', ok_bind]
  refine congrArg Except.ok (Eq.trans ?_ hr.symm)
  refine Aligned.apply_congr fun i hi => ?_
  have helem : r.operand.elem i = f ((operands 0).elem i) ((operands 1).elem i)
      ((operands 2).elem i) := hr ▸ Aligned.elem_operand_apply _ _ hi
  change f (r.operand.elem i) ((operands 1).elem i) ((operands 2).elem i) =
    f ((operands 0).elem i) ((operands 1).elem i) ((operands 2).elem i)
  rw [helem]
  exact hf _ _ _

end Ternary

/-- Moving numbers into a range or out of it gives a value that is not changed by doing so again, and
each of its elements is the number asked for. -/
theorem range_settles (x lo hi : Value ℝ) (ctx : Context ℝ) :
    (∀ r, runTernary "between" between [x, lo, hi] ctx = .ok r →
      runTernary "between" between [r, lo, hi] ctx = .ok r ∧
        Elementwise "between" ctx x lo hi r Clamped) ∧
    ∀ r, runTernary "outside" outside [x, lo, hi] ctx = .ok r →
      runTernary "outside" outside [r, lo, hi] ctx = .ok r ∧
        Elementwise "outside" ctx x lo hi r Expelled :=
  ⟨fun _ h => ⟨runTernary_again between_between h, runTernary_elementwise between_clamped h⟩,
    fun _ h => ⟨runTernary_again outside_outside h, runTernary_elementwise outside_expelled h⟩⟩

namespace Ranged

noncomputable def context : Context ℝ := .standard ⟨.mercator 0, .standard, none⟩ .epoch

noncomputable def values : Value ℝ := .grid ⟨2, 2, 1, #[-1, 0, 1, 1 + 1]⟩

end Ranged

open Ranged in
theorem range_settles_grid :
    (∃ r, runTernary "between" between [values, .scalar 0, .scalar 1] context = .ok r ∧
      runTernary "between" between [r, .scalar 0, .scalar 1] context = .ok r) ∧
    ∃ r, runTernary "outside" outside [values, .scalar 0, .scalar 1] context = .ok r ∧
      runTernary "outside" outside [r, .scalar 0, .scalar 1] context = .ok r := by
  obtain ⟨hbetween, houtside⟩ := range_settles values (.scalar 0) (.scalar 1) context
  exact ⟨⟨_, rfl, (hbetween _ rfl).1⟩, _, rfl, (houtside _ rfl).1⟩

end Synoptic
