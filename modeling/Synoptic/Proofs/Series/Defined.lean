import Mathlib.Data.Option.NAry
import Synoptic.Proofs.Series.Curve

namespace Synoptic

/-- Numbers of which some are undefined: a quotient by zero, what is read outside an array, and
whatever is computed from these. They compare false with everything. -/
noncomputable instance : Number (Option ℝ) where
  add := Option.map₂ (· + ·)
  sub := Option.map₂ (· - ·)
  mul := Option.map₂ (· * ·)
  div x y := y.bind fun y => if y = 0 then none else x.map (· / y)
  neg := Option.map (- ·)
  lt x y := ∃ a ∈ x, ∃ b ∈ y, a < b
  le x y := ∃ a ∈ x, ∃ b ∈ y, a ≤ b
  beq x y := (Option.map₂ Number.beq x y).getD false
  natCast n := some n
  decLT _ _ := Classical.dec _
  decLE _ _ := Classical.dec _
  ofScientific m negative e := some (OfScientific.ofScientific m negative e)
  pi := some Number.pi
  abs := Option.map Number.abs
  sqrt := Option.map Number.sqrt
  exp := Option.map Number.exp
  log := Option.map Number.log
  log10 := Option.map Number.log10
  sin := Option.map Number.sin
  cos := Option.map Number.cos
  tan := Option.map Number.tan
  asin := Option.map Number.asin
  acos := Option.map Number.acos
  atan := Option.map Number.atan
  sinh := Option.map Number.sinh
  cosh := Option.map Number.cosh
  tanh := Option.map Number.tanh
  pow := Option.map₂ Number.pow
  hypot := Option.map₂ Number.hypot
  atan2 := Option.map₂ Number.atan2
  rem x y := y.bind fun y => if y = 0 then none else x.map (Number.rem · y)
  floor := Option.map Number.floor
  toIndex x := (x.map Number.toIndex).getD 0
  round x := (x.map Number.round).getD 0
  totalLE x y := y.all fun b => x.any fun a => Number.totalLE a b
  absent := none
  text _ := ""
  ofChars? text := (Number.ofChars? text).map some

namespace Number

@[simp] theorem some_add (x y : ℝ) : (some x + some y : Option ℝ) = some (x + y) := rfl

@[simp] theorem some_sub (x y : ℝ) : (some x - some y : Option ℝ) = some (x - y) := rfl

@[simp] theorem some_mul (x y : ℝ) : (some x * some y : Option ℝ) = some (x * y) := rfl

@[simp] theorem some_neg (x : ℝ) : (-some x : Option ℝ) = some (-x) := rfl

@[simp] theorem some_ofNat (n : Nat) [n.AtLeastTwo] :
    (@OfNat.ofNat (Option ℝ) n (instOfNat n)) = some (OfNat.ofNat n) := rfl

theorem some_div (x : ℝ) {y : ℝ} (h : y ≠ 0) : (some x / some y : Option ℝ) = some (x / y) :=
  if_neg h

theorem some_lt (x y : ℝ) : (@LT.lt (Option ℝ) instLT (some x) (some y)) ↔ x < y := by
  constructor
  · rintro ⟨_, ⟨⟩, _, ⟨⟩, h⟩
    exact h
  · exact fun h => ⟨x, rfl, y, rfl, h⟩

end Number

namespace Series

open Number

def Equation.defined (e : Equation ℝ) : Equation (Option ℝ) :=
  ⟨some e.before, some e.pivot, some e.rhs⟩

def Knot.defined (k : Knot ℝ) : Knot (Option ℝ) := ⟨some k.time, some k.value, some k.bend⟩

theorem equations_defined : ∀ {samples : List (ℝ × ℝ)}, Ascending samples →
    equations (samples.map (Prod.map some some)) = (equations samples).map Equation.defined
  | [], _ => rfl
  | [_], _ => rfl
  | [_, _], _ => rfl
  | (t0, v0) :: (t1, v1) :: (t2, v2) :: rest, h => by
    obtain ⟨h01, htail⟩ := List.isChain_cons_cons.mp h
    obtain ⟨h12, _⟩ := List.isChain_cons_cons.mp htail
    have hne : t1 - t0 ≠ 0 := (sub_pos.mpr h01).ne'
    have hne' : t2 - t1 ≠ 0 := (sub_pos.mpr h12).ne'
    have ih := equations_defined htail
    simp only [List.map_cons, Prod.map] at ih ⊢
    simp [equations, Equation.defined, some_div _ hne, some_div _ hne', ih]

theorem sweep_defined {pivot : ℝ} {es : List (Equation ℝ)} (h : ∀ p ∈ pivotsFrom pivot es, p ≠ 0)
    (rhs : ℝ) : sweep (some pivot) (some rhs) (es.map Equation.defined) =
      Prod.map some (List.map some) (sweep pivot rhs es) := by
  induction es generalizing pivot rhs with
  | nil =>
    have hpivot : pivot ≠ 0 := h pivot (List.mem_singleton_self _)
    simp [sweep, some_div _ hpivot]
  | cons e es ih =>
    obtain ⟨hpivot, hrest⟩ := List.forall_mem_cons.mp h
    simp [sweep, Equation.defined, some_div _ hpivot, ih hrest]

theorem solve_defined {es : List (Equation ℝ)} (h : ∀ p ∈ pivots es, p ≠ 0) :
    solve (es.map Equation.defined) = (solve es).map some := by
  cases es with
  | nil => rfl
  | cons e es => exact congrArg (fun x => x.1 :: x.2) (sweep_defined h e.rhs)

theorem knots_defined {samples : List (ℝ × ℝ)} (h : Ascending samples) :
    knots (samples.map (Prod.map some some)) = (knots samples).map Knot.defined := by
  have hpivots := fun p hp => (pivots_pos (dominant_equations h) p hp).ne'
  have hzero : (@OfNat.ofNat (Option ℝ) 0 (instOfNat 0)) = some (@OfNat.ofNat ℝ 0 (instOfNat 0)) :=
    rfl
  have hbends (x : ℝ) (xs : List ℝ) :
      some x :: xs.map some ++ [some x] = (x :: xs ++ [x]).map some := by simp
  rw [knots, knots, equations_defined h, solve_defined hpivots, hzero, hbends, List.zipWith_map,
    List.map_zipWith]
  rfl

theorem pieceSlope_defined {p q : Knot ℝ} (h : p.time < q.time) (t : ℝ) :
    pieceSlope p.defined q.defined (some t) = some (pieceSlope p q t) := by
  have hne : q.time - p.time ≠ 0 := (sub_pos.mpr h).ne'
  have hne' : 2 * (q.time - p.time) ≠ 0 := mul_ne_zero two_ne_zero hne
  simp [pieceSlope, Knot.defined, some_div _ hne, some_div _ hne', some_div _ (OfNat.ofNat_ne_zero 6)]

theorem slopeOn_defined (t : ℝ) : ∀ {ks : List (Knot ℝ)}, 2 ≤ ks.length → Ordered ks →
    slopeOn (some t) (ks.map Knot.defined) = some (slopeOn t ks)
  | [p, q], _, h => pieceSlope_defined (List.isChain_cons_cons.mp h).1 t
  | p :: q :: r :: rest, _, h => by
    obtain ⟨hpq, htail⟩ := List.isChain_cons_cons.mp h
    by_cases hlt : t < q.time
    · exact (if_pos ((some_lt t q.time).mpr hlt)).trans
        ((pieceSlope_defined hpq t).trans (congrArg some (if_pos hlt).symm))
    · exact (if_neg fun h => hlt ((some_lt t q.time).mp h)).trans
        ((slopeOn_defined t (by simp) htail).trans (congrArg some (if_neg hlt).symm))

theorem slopeAt_defined {times values : List ℝ} (hn : 2 ≤ (times.zip values).length)
    (h : Ascending (times.zip values)) (t : ℝ) :
    slopeAt (times.map some) (values.map some) (some t) = some (slopeAt times values t) := by
  rw [slopeAt, slopeAt, List.zip_map, knots_defined h]
  exact slopeOn_defined t (by rwa [length_knots hn]) (ordered_knots h)

end Series

end Synoptic
