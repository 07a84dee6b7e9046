import Mathlib.Analysis.SpecialFunctions.Complex.Arg
import Mathlib.Analysis.SpecialFunctions.Log.Base
import Mathlib.Analysis.SpecialFunctions.Pow.Real
import Mathlib.Analysis.SpecialFunctions.Trigonometric.Arctan
import Synoptic.Decimal.Literal
import Synoptic.Number

namespace Synoptic

noncomputable def Decimal.Literal.toReal? : Literal → Option ℝ
  | .decimal negative coefficient exponent =>
    some ((if negative then -1 else 1) * coefficient * (10 : ℝ) ^ exponent)
  | _ => none

/-- Real numbers have no texts of their own. -/
noncomputable instance : Number ℝ where
  add := (· + ·)
  sub := (· - ·)
  mul := (· * ·)
  div := (· / ·)
  neg := (- ·)
  lt := (· < ·)
  le := (· ≤ ·)
  beq x y := decide (x = y)
  natCast n := n
  decLT := inferInstance
  decLE := inferInstance
  ofScientific m negative e := OfScientific.ofScientific m negative e
  pi := Real.pi
  abs x := |x|
  sqrt := Real.sqrt
  exp := Real.exp
  log := Real.log
  log10 := Real.logb 10
  sin := Real.sin
  cos := Real.cos
  tan := Real.tan
  asin := Real.arcsin
  acos := Real.arccos
  atan := Real.arctan
  sinh := Real.sinh
  cosh := Real.cosh
  tanh := Real.tanh
  pow := (· ^ ·)
  hypot x y := Real.sqrt (x ^ 2 + y ^ 2)
  atan2 y x := Complex.arg ⟨x, y⟩
  rem x y := x - y * (if 0 ≤ x / y then (⌊x / y⌋ : ℝ) else ⌈x / y⌉)
  floor x := ⌊x⌋
  toIndex x := ⌊x⌋₊
  round x := if 0 ≤ x then ⌊x + 1 / 2⌋ else ⌈x - 1 / 2⌉
  totalLE x y := decide (x ≤ y)
  absent := 0
  text _ := ""
  ofChars? text := (Decimal.Literal.ofChars? text).bind Decimal.Literal.toReal?

namespace Number

-- Numerals are counted up from nothing in the interface; the reals have a zero and a one of their
-- own.
@[simp] theorem real_zero : (@OfNat.ofNat ℝ 0 (instOfNat 0)) = 0 := Nat.cast_zero

@[simp] theorem real_one : (@OfNat.ofNat ℝ 1 (instOfNat 1)) = 1 := Nat.cast_one

@[simp] theorem real_natCast (n : Nat) : (natCast n : ℝ) = n := rfl

@[simp] theorem real_beq (x y : ℝ) : (@BEq.beq ℝ instBEq x y) = decide (x = y) := rfl

@[simp] theorem real_pi : (pi : ℝ) = Real.pi := rfl

@[simp] theorem real_sin (x : ℝ) : sin x = Real.sin x := rfl

@[simp] theorem real_cos (x : ℝ) : cos x = Real.cos x := rfl

@[simp] theorem real_floor (x : ℝ) : floor x = ⌊x⌋ := rfl

@[simp] theorem real_toIndex (x : ℝ) : toIndex x = ⌊x⌋₊ := rfl

theorem real_clamp {lo hi : ℝ} (h : lo ≤ hi) (x : ℝ) : clamp x lo hi = max lo (min x hi) := by
  simp only [clamp]
  split
  · rename_i hx
    rw [if_neg (not_lt.mpr h), min_eq_left (hx.le.trans h), max_eq_left hx.le]
  · rename_i hx
    split
    · rename_i hy
      rw [min_eq_right hy.le, max_eq_right h]
    · rename_i hy
      rw [min_eq_left (not_lt.mp hy), max_eq_right (not_lt.mp hx)]

end Number

end Synoptic
