import Synoptic.Proofs.Spline.Calculus
import Synoptic.Proofs.Spline.Tridiagonal

namespace Synoptic

/-- Three neighbouring coefficients, the middle one four times, add up to six times the value at
their node. -/
inductive Collocates : List ℝ → List ℝ → Prop
  | nil (a b : ℝ) : Collocates [] [a, b]
  | cons {a b c v : ℝ} {cs vs : List ℝ} (h : a + 4 * b + c = 6 * v)
    (tail : Collocates vs (b :: c :: cs)) : Collocates (v :: vs) (a :: b :: c :: cs)

namespace Collocates

variable {vs cs : List ℝ}

theorem length_eq (h : Collocates vs cs) : cs.length = vs.length + 2 := by
  induction h with
  | nil a b => rfl
  | cons h tail ih => rw [List.length_cons, ih, List.length_cons]

theorem cons_headD {a b v : ℝ} (h : a + 4 * b + cs.headD 0 = 6 * v) (tail : Collocates vs (b :: cs)) :
    Collocates (v :: vs) (a :: b :: cs) := by
  cases cs with
  | nil => cases tail
  | cons c cs => exact .cons h tail

theorem getD_eq (h : Collocates vs cs) {i : Nat} (hi : i < vs.length) :
    cs.getD i 0 + 4 * cs.getD (i + 1) 0 + cs.getD (i + 2) 0 = 6 * vs.getD i 0 := by
  induction h generalizing i with
  | nil a b => cases hi
  | cons h tail ih =>
    cases i with
    | zero => simpa using h
    | succ i =>
      have hi' := Nat.lt_of_succ_lt_succ hi
      simpa using ih hi'

end Collocates

namespace Spline

theorem headD_append (xs : List ℝ) (y : ℝ) (ys : List ℝ) :
    (xs ++ y :: ys).headD 0 = xs.headD y := by
  cases xs <;> rfl

theorem head_append (xs : List ℝ) (y : ℝ) (h : xs ++ [y] ≠ []) : (xs ++ [y]).head h = xs.headD y := by
  cases xs <;> rfl

theorem collocates_inner {first last : ℝ} {inner xs : List ℝ}
    (h : Tridiagonal.Solves last first (inner.map (6 * ·)) xs) :
    Collocates (inner ++ [last])
      (first :: xs ++ [last, 2 * last - (first :: xs).getLast (List.cons_ne_nil first xs)]) := by
  induction inner generalizing first xs with
  | nil =>
    cases h
    exact .cons (by rw [List.getLast_singleton]; ring) (.nil _ _)
  | cons v inner ih =>
    cases h with
    | cons h tail =>
      rw [List.getLast_cons (List.cons_ne_nil _ _)]
      simp only [List.cons_append]
      exact .cons_headD (by rw [headD_append]; exact h) (ih tail)

theorem collocates_lineCoeffs (first last : ℝ) (inner : List ℝ) :
    Collocates (first :: inner ++ [last]) (lineCoeffs first inner last) := by
  have hsolved := Tridiagonal.solve_solves
    (modifyLast (· - last) ((inner.map (6 * ·)).modifyHead (· - first)))
  have hinner := collocates_inner hsolved.of_modifyLast.of_modifyHead
  simp only [lineCoeffs, List.cons_append]
  refine .cons_headD ?_ hinner
  rw [headD_append, head_append]
  ring

theorem collocates_fitLine {vs : List ℝ} (h : 2 ≤ vs.length) : Collocates vs (fitLine vs) := by
  match vs, h with
  | first :: next :: rest, _ =>
    have hne : next :: rest ≠ [] := List.cons_ne_nil next rest
    rw [fitLine, dif_neg hne]
    have hline := collocates_lineCoeffs first ((next :: rest).getLast hne) (next :: rest).dropLast
    rwa [List.cons_append, List.dropLast_append_getLast] at hline

theorem read_toArray (vs : List ℝ) (i : Nat) : Number.read vs.toArray i = vs.getD i 0 := by
  simp only [Number.read, Array.getD_eq_getD_getElem?, List.getElem?_toArray, List.getD_eq_getElem?_getD]
  rfl

section Grid

variable {α : Type} [Number α]

def fitted (g : Grid α) (origin : Point α) (orientation : α) (projection : Projection α) :
    Spline α :=
  ⟨g.nx + 2, g.ny + 2, fitCoeffs g, origin, orientation, g.cell, projection⟩

theorem fit_of_fittable {g : Grid α} (h : Fittable g) (origin : Point α)
    (projection : Projection α) : fit g origin projection = .ok (fitted g origin 0 projection) :=
  if_pos h

def rowCoeff (g : Grid α) (iy j : Nat) : α := Number.read (fitLine (gridRow g iy)).toArray j

theorem coeff_fitted (g : Grid α) (origin : Point α) (orientation : α) (projection : Projection α)
    {j k : Nat} (hj : j < g.nx + 2) (hk : k < g.ny + 2) :
    (fitted g origin orientation projection).coeff j k =
      Number.read (fitLine ((List.range g.ny).map fun iy => rowCoeff g iy j)).toArray k := by
  simp only [coeff, fitted, fitCoeffs]
  rw [read_tabulate _ (Grid.index_lt hj hk), Grid.index_mod hj, Grid.index_div hj]
  simp [columnFits, rowFits, hj, rowCoeff, Function.comp_def]

variable {g : Grid ℝ}

theorem rowCoeff_collocates {ix : Nat} (hx : 2 ≤ g.nx) (hix : ix < g.nx) (iy : Nat) :
    rowCoeff g iy ix + 4 * rowCoeff g iy (ix + 1) + rowCoeff g iy (ix + 2) = 6 * g.get ix iy := by
  have hlength : (gridRow g iy).length = g.nx := by simp [gridRow]
  have h := (collocates_fitLine (hlength ▸ hx)).getD_eq (hlength.symm ▸ hix)
  simp only [rowCoeff, read_toArray]
  rw [h]
  simp [gridRow, hix]

theorem coeff_collocates {j iy : Nat} (hy : 2 ≤ g.ny) (hj : j < g.nx + 2) (hiy : iy < g.ny)
    (origin : Point ℝ) (orientation : ℝ) (projection : Projection ℝ) :
    let s := fitted g origin orientation projection
    s.coeff j iy + 4 * s.coeff j (iy + 1) + s.coeff j (iy + 2) = 6 * rowCoeff g iy j := by
  have hlength : ((List.range g.ny).map fun iy => rowCoeff g iy j).length = g.ny := by simp
  have h := (collocates_fitLine (hlength ▸ hy)).getD_eq (hlength.symm ▸ hiy)
  intro s
  rw [coeff_fitted _ _ _ _ hj (by omega), coeff_fitted _ _ _ _ hj (by omega),
    coeff_fitted _ _ _ _ hj (by omega)]
  simp only [read_toArray]
  rw [h]
  simp [hiy]

end Grid

section Node

theorem basis_node {i n : Nat} (hn : 2 ≤ n) (hi : i < n) (f : Nat → ℝ) :
    let cell := (locate (i : ℝ) n).1
    let w := basis (locate (i : ℝ) n).2
    f cell * w.w0 + f (cell + 1) * w.w1 + f (cell + 2) * w.w2 + f (cell + 3) * w.w3 =
      (f i + 4 * f (i + 1) + f (i + 2)) / 6 := by
  intro cell w
  obtain ⟨m, hm⟩ : ∃ m, (locate (i : ℝ) n).1 = m := ⟨_, rfl⟩
  by_cases hlast : i ≤ n - 2
  · have hcell : (locate (i : ℝ) n).1 = i :=
      locate_eq_iff.mpr ⟨hlast, .inr le_rfl, .inr (lt_add_one _)⟩
    have ht : (locate (i : ℝ) n).2 = 0 := by rw [locate_snd, hcell, sub_self]
    simp only [cell, w, hcell, ht, basis_eq]
    ring
  · -- The last node closes the last cell.
    obtain ⟨k, rfl⟩ : ∃ k, n = k + 2 := ⟨n - 2, by omega⟩
    obtain rfl : i = k + 1 := by omega
    have hcell : (locate ((k + 1 : Nat) : ℝ) (k + 2)).1 = k := by
      refine locate_eq_iff.mpr ⟨le_rfl, .inr ?_, .inl rfl⟩
      push_cast
      linarith
    have ht : (locate ((k + 1 : Nat) : ℝ) (k + 2)).2 = 1 := by
      rw [locate_snd, hcell]
      push_cast
      ring
    simp only [cell, w, hcell, ht, basis_eq]
    ring

theorem valueAt_of_toNodes {s : Spline ℝ} {ix iy : Nat} {p : Point ℝ} (hc : 2 ≤ s.columns - 2)
    (hr : 2 ≤ s.rows - 2) (hix : ix < s.columns - 2) (hiy : iy < s.rows - 2)
    (hp : s.toNodes p = ((ix : ℝ), (iy : ℝ))) :
    let along j := (s.coeff ix j + 4 * s.coeff (ix + 1) j + s.coeff (ix + 2) j) / 6
    s.valueAt p = (along iy + 4 * along (iy + 1) + along (iy + 2)) / 6 := by
  have hrow (j : Nat) := basis_node hc hix fun i => s.coeff i j
  have hcolumn := basis_node hr hiy fun j => s.rowSum (locate (ix : ℝ) (s.columns - 2)).1 j
    (basis (locate (ix : ℝ) (s.columns - 2)).2)
  simp only [valueAt, hp, weighted, Number.real_zero]
  simp only [rowSum] at hcolumn ⊢
  simp only [hrow] at hcolumn ⊢
  rw [← hcolumn]
  ring

end Node

end Spline

def GridSpec.placed {α : Type} [Number α] (g : GridSpec α) (origin : Point α) (orientation : α)
    (ix iy : Nat) : Point α :=
  let p := g.node ix iy
  let c := Number.cos (Number.toRadians orientation)
  let sn := Number.sin (Number.toRadians orientation)
  ⟨origin.x + (p.x * c - p.y * sn), origin.y + (p.x * sn + p.y * c)⟩

namespace Spline

variable {g : Grid ℝ}

theorem toNodes_placed (hcell : g.cell ≠ 0) (origin : Point ℝ) (orientation : ℝ)
    (projection : Projection ℝ) (ix iy : Nat) :
    (fitted g origin orientation projection).toNodes (g.spec.placed origin orientation ix iy) =
      ((ix : ℝ), (iy : ℝ)) := by
  have hunit := Real.sin_sq_add_cos_sq (Number.toRadians orientation)
  simp only [toNodes, fitted, GridSpec.placed, GridSpec.node, Grid.spec, Number.real_sin,
    Number.real_cos, Number.real_natCast, Prod.mk.injEq, add_sub_cancel_left]
  constructor
  · rw [div_eq_iff hcell]
    linear_combination (ix : ℝ) * g.cell * hunit
  · rw [div_eq_iff hcell]
    linear_combination (iy : ℝ) * g.cell * hunit

theorem fittable_of_pos (hx : 2 ≤ g.nx) (hy : 2 ≤ g.ny) (hcell : 0 < g.cell)
    (hdata : g.data.size = g.nx * g.ny) : Fittable g := by
  rintro (h | h | h | h)
  · exact absurd h (not_lt.mpr hx)
  · exact absurd h (not_lt.mpr hy)
  · rw [Number.real_zero] at h
    exact absurd h (not_le.mpr hcell)
  · exact h hdata

theorem fitted_usable (hx : 2 ≤ g.nx) (hy : 2 ≤ g.ny) (hcell : 0 < g.cell) (origin : Point ℝ)
    (orientation : ℝ) (projection : Projection ℝ) :
    (fitted g origin orientation projection).Usable := by
  rw [← Number.real_zero] at hcell
  exact ⟨Nat.add_le_add_right hx 2, Nat.add_le_add_right hy 2, hcell, size_tabulate ..⟩

theorem valueAt_fitted_placed (hx : 2 ≤ g.nx) (hy : 2 ≤ g.ny) (hcell : 0 < g.cell)
    (origin : Point ℝ) (orientation : ℝ) (projection : Projection ℝ) {ix iy : Nat}
    (hix : ix < g.nx) (hiy : iy < g.ny) :
    (fitted g origin orientation projection).valueAt (g.spec.placed origin orientation ix iy) =
      g.get ix iy := by
  have hcolumn (j : Nat) (hj : j < g.nx + 2) :=
    coeff_collocates hy hj hiy origin orientation projection
  have hrow := rowCoeff_collocates hx hix iy
  have hvalue := valueAt_of_toNodes (s := fitted g origin orientation projection) hx hy hix hiy
    (toNodes_placed hcell.ne' origin orientation projection ix iy)
  refine hvalue.trans ?_
  linear_combination (1 / 36 : ℝ) * (hcolumn ix (by omega) + 4 * hcolumn (ix + 1) (by omega) +
    hcolumn (ix + 2) (by omega)) + 1 / 6 * hrow

/-- Every grid of two nodes or more either way can be fitted, and however the surface is turned
afterwards it takes the values of the grid at all its nodes. -/
theorem valueAt_fit_placed (hx : 2 ≤ g.nx) (hy : 2 ≤ g.ny) (hcell : 0 < g.cell)
    (hdata : g.data.size = g.nx * g.ny) (origin : Point ℝ) (orientation : ℝ)
    (projection : Projection ℝ) :
    ∃ s, fit g origin projection = .ok s ∧ ({ s with orientation } : Spline ℝ).Usable ∧
      ∀ ix < g.nx, ∀ iy < g.ny,
        ({ s with orientation } : Spline ℝ).valueAt (g.spec.placed origin orientation ix iy) =
          g.get ix iy := by
  have hfit := fit_of_fittable (fittable_of_pos hx hy hcell hdata) origin projection
  refine ⟨_, hfit, ?_, ?_⟩
  · exact fitted_usable hx hy hcell origin orientation projection
  · intro ix hix iy hiy
    exact valueAt_fitted_placed hx hy hcell origin orientation projection hix hiy

noncomputable def Doubling.grid : Grid ℝ :=
  ⟨3, 2, 1, tabulate 3 2 fun ix iy => ((2 ^ (iy * 3 + ix) : Nat) : ℝ)⟩

theorem valueAt_fit_placed_doubling :
    2 ≤ Doubling.grid.nx ∧ 2 ≤ Doubling.grid.ny ∧ 0 < Doubling.grid.cell ∧
      Doubling.grid.data.size = Doubling.grid.nx * Doubling.grid.ny ∧
      ∃ s, fit Doubling.grid ⟨5, 7⟩ .standard = .ok s ∧
        ({ s with orientation := 90 } : Spline ℝ).valueAt
          (Doubling.grid.spec.placed ⟨5, 7⟩ 90 2 1) = 32 := by
  have hcell : 0 < Doubling.grid.cell := by norm_num [Doubling.grid]
  refine ⟨by decide, by decide, hcell, rfl, ?_⟩
  obtain ⟨s, hs, _, h⟩ := valueAt_fit_placed (g := Doubling.grid) (by decide) (by decide) hcell rfl
    ⟨5, 7⟩ 90 .standard
  refine ⟨s, hs, ?_⟩
  rw [h 2 (by decide) 1 (by decide)]
  rfl

end Spline

end Synoptic
