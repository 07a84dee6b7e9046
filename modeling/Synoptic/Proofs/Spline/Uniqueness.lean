import Mathlib.Data.List.GetD
import Synoptic.Proofs.Spline.Interpolation

namespace Synoptic

/-- Coefficients of a line through the values at `n` nodes. Three neighbours, the middle one four
times, add up to six times the value at their node, and the line is straight at both ends. -/
structure LineFit (n : Nat) (v c : Nat → ℝ) : Prop where
  weighs : ∀ i < n, c i + 4 * c (i + 1) + c (i + 2) = 6 * v i
  first : c 0 + c 2 = 2 * c 1
  last : c (n - 1) + c (n + 1) = 2 * c n

namespace LineFit

variable {n : Nat} {v w c d : Nat → ℝ}

theorem const (n : Nat) (x : ℝ) : LineFit n (fun _ => x) fun _ => x where
  weighs _ _ := by ring
  first := by ring
  last := by ring

theorem line (hn : 1 ≤ n) (a b : ℝ) :
    LineFit n (fun i => a + b * i) fun i => a + b * ((i : ℝ) - 1) where
  weighs i _ := by
    push_cast
    ring
  first := by
    push_cast
    ring
  last := by
    obtain ⟨m, rfl⟩ := Nat.exists_eq_add_of_le' hn
    rw [Nat.add_sub_cancel]
    push_cast
    ring

theorem linear (hc : LineFit n v c) (hd : LineFit n w d) (a b : ℝ) :
    LineFit n (fun i => a * v i + b * w i) fun i => a * c i + b * d i where
  weighs i hi := by linear_combination a * hc.weighs i hi + b * hd.weighs i hi
  first := by linear_combination a * hc.first + b * hd.first
  last := by linear_combination a * hc.last + b * hd.last

theorem congr (h : LineFit n v c) (hv : ∀ i < n, v i = w i) : LineFit n w c where
  weighs i hi := by rw [h.weighs i hi, hv i hi]
  first := h.first
  last := h.last

theorem congr_coeff (h : LineFit n v c) (hn : 1 ≤ n) (hc : ∀ i < n + 2, d i = c i) :
    LineFit n v d where
  weighs i hi := by
    rw [hc i (by omega), hc (i + 1) (by omega), hc (i + 2) (by omega), h.weighs i hi]
  first := by rw [hc 0 (by omega), hc 1 (by omega), hc 2 (by omega), h.first]
  last := by rw [hc (n - 1) (by omega), hc n (by omega), hc (n + 1) (by omega), h.last]

section Zero

variable {m : Nat} (h : LineFit (m + 1) (fun _ => 0) d)

include h

theorem first_eq_zero : d 1 = 0 := by linarith [h.weighs 0 (Nat.succ_pos m), h.first]

theorem last_eq_zero : d (m + 1) = 0 := by
  have hlast := h.last
  rw [Nat.add_sub_cancel] at hlast
  linarith [h.weighs m (Nat.lt_succ_self m)]

theorem abs_le_abs_succ {i : Nat} (hi : i < m) : |d (i + 1)| ≤ |d (i + 2)| := by
  induction i with
  | zero => simp [h.first_eq_zero]
  | succ i ih =>
    have hbefore := ih (by omega)
    have hnext : d (i + 1 + 2) = -(4 * d (i + 2) + d (i + 1)) := by
      linear_combination h.weighs (i + 1) (by omega)
    have htriangle := abs_sub_abs_le_abs_sub (4 * d (i + 2)) (-d (i + 1))
    rw [abs_neg, sub_neg_eq_add, abs_mul, abs_of_pos (four_pos : (0 : ℝ) < 4)] at htriangle
    rw [hnext, abs_neg]
    linarith [abs_nonneg (d (i + 2))]

theorem inner_eq_zero {i : Nat} (hi : i ≤ m) : d (i + 1) = 0 := by
  have hgrows : ∀ j, i ≤ j → j ≤ m → |d (i + 1)| ≤ |d (j + 1)| := by
    intro j hij
    induction j, hij using Nat.le_induction with
    | base => exact fun _ => le_rfl
    | succ j _ ih => exact fun hj => (ih (by omega)).trans (h.abs_le_abs_succ (by omega))
  have hlast := hgrows m hi le_rfl
  rw [h.last_eq_zero, abs_zero] at hlast
  exact abs_nonpos_iff.mp hlast

theorem eq_zero (hm : 1 ≤ m) : ∀ i < m + 3, d i = 0
  -- Only the flat line goes through zeros: its inner coefficients grow towards an end where they
  -- vanish.
  | 0, _ => by linarith [h.first, h.inner_eq_zero (Nat.zero_le m), h.inner_eq_zero hm]
  | i + 1, hi => by
    obtain hle | rfl : i ≤ m ∨ i = m + 1 := by omega
    · exact h.inner_eq_zero hle
    · obtain ⟨k, rfl⟩ := Nat.exists_eq_add_of_le' hm
      have hlast := h.last
      rw [Nat.add_sub_cancel, h.inner_eq_zero le_rfl, h.inner_eq_zero (Nat.le_succ k)] at hlast
      linarith

end Zero

theorem unique (hn : 2 ≤ n) (hc : LineFit n v c) (hd : LineFit n v d) : ∀ i < n + 2, c i = d i := by
  obtain ⟨m, rfl⟩ := Nat.exists_eq_add_of_le' (Nat.le_of_succ_le hn)
  have h : LineFit (m + 1) (fun _ => 0) fun i => 1 * c i + -1 * d i :=
    (hc.linear hd 1 (-1)).congr fun i _ => by ring
  intro i hi
  linarith [h.eq_zero (Nat.le_of_succ_le_succ hn) i hi]

end LineFit

namespace Spline

theorem getD_getLast (xs : List ℝ) (h : xs ≠ []) : xs.getD (xs.length - 1) 0 = xs.getLast h := by
  rw [List.getLast_eq_getElem, List.getD_eq_getElem]

theorem lineFit_lineCoeffs (first last : ℝ) (inner : List ℝ) :
    LineFit (inner.length + 2) ((first :: inner ++ [last]).getD · 0)
      ((lineCoeffs first inner last).getD · 0) := by
  have hcollocates := collocates_lineCoeffs first last inner
  have hlength := hcollocates.length_eq
  generalize hsolved : Tridiagonal.solve
    (modifyLast (· - last) ((inner.map (6 * ·)).modifyHead (· - first))) = solved
  have hcoeffs : lineCoeffs first inner last =
      (2 * first - (solved ++ [last]).head (by simp)) :: (first :: solved ++
        [last, 2 * last - (first :: solved).getLast (List.cons_ne_nil _ _)]) := by
    subst hsolved
    rfl
  rw [hcoeffs] at hlength
  have hcount : solved.length = inner.length := by simpa using hlength
  refine ⟨fun i hi => hcollocates.getD_eq (by simpa [Nat.lt_succ_iff] using hi), ?_, ?_⟩
  · rw [hcoeffs, head_append]
    cases solved <;> simp
  · rw [hcoeffs]
    have hbefore : (first :: solved).getD (inner.length) 0 =
        (first :: solved).getLast (List.cons_ne_nil _ _) := by
      rw [← getD_getLast, List.length_cons, hcount, Nat.add_sub_cancel]
    have hsize : (first :: solved).length = inner.length + 1 := by rw [List.length_cons, hcount]
    rw [Nat.add_succ_sub_one, List.getD_cons_succ, List.getD_cons_succ, List.getD_cons_succ,
      List.getD_append _ _ _ _ (by omega), List.getD_append_right _ _ _ _ (by omega),
      List.getD_append_right _ _ _ _ (by omega), hbefore, hsize]
    simp

theorem lineFit_fitLine {vs : List ℝ} (h : 2 ≤ vs.length) :
    LineFit vs.length (vs.getD · 0) ((fitLine vs).getD · 0) := by
  match vs, h with
  | first :: next :: rest, _ =>
    have hne : next :: rest ≠ [] := List.cons_ne_nil next rest
    rw [fitLine, dif_neg hne]
    have hline := lineFit_lineCoeffs first ((next :: rest).getLast hne) (next :: rest).dropLast
    rwa [List.cons_append, List.dropLast_append_getLast, List.length_dropLast] at hline

/-- Coefficients of a surface through the values of `nx` columns and `ny` rows of nodes: those of each
row, and through these along each column. -/
def SurfaceFit (nx ny : Nat) (v c : Nat → Nat → ℝ) : Prop :=
  ∃ rows : Nat → Nat → ℝ, (∀ iy < ny, LineFit nx (v · iy) (rows iy)) ∧
    ∀ j < nx + 2, LineFit ny (rows · j) (c j)

namespace SurfaceFit

variable {nx ny : Nat} {v w c d : Nat → Nat → ℝ}

theorem const (nx ny : Nat) (x : ℝ) : SurfaceFit nx ny (fun _ _ => x) fun _ _ => x :=
  ⟨fun _ _ => x, fun _ _ => LineFit.const nx x, fun _ _ => LineFit.const ny x⟩

theorem linear (hc : SurfaceFit nx ny v c) (hd : SurfaceFit nx ny w d) (a b : ℝ) :
    SurfaceFit nx ny (fun i j => a * v i j + b * w i j) fun i j => a * c i j + b * d i j := by
  obtain ⟨rows, hrows, hc⟩ := hc
  obtain ⟨rows', hrows', hd⟩ := hd
  exact ⟨fun iy j => a * rows iy j + b * rows' iy j,
    fun iy hiy => (hrows iy hiy).linear (hrows' iy hiy) a b,
    fun j hj => (hc j hj).linear (hd j hj) a b⟩

theorem congr (h : SurfaceFit nx ny v c) (hv : ∀ i < nx, ∀ j < ny, v i j = w i j) :
    SurfaceFit nx ny w c := by
  obtain ⟨rows, hrows, hc⟩ := h
  exact ⟨rows, fun iy hiy => (hrows iy hiy).congr fun ix hix => hv ix hix iy hiy, hc⟩

theorem unique (hx : 2 ≤ nx) (hy : 2 ≤ ny) (hc : SurfaceFit nx ny v c) (hd : SurfaceFit nx ny v d) :
    ∀ j < nx + 2, ∀ k < ny + 2, c j k = d j k := by
  obtain ⟨rows, hrows, hc⟩ := hc
  obtain ⟨rows', hrows', hd⟩ := hd
  intro j hj k hk
  have hsame : ∀ iy < ny, rows iy j = rows' iy j :=
    fun iy hiy => (hrows iy hiy).unique hx (hrows' iy hiy) j hj
  exact ((hc j hj).congr hsame).unique hy (hd j hj) k hk

end SurfaceFit

section Grid

variable {g h k : Grid ℝ}

theorem rowCoeff_lineFit (hx : 2 ≤ g.nx) (iy : Nat) :
    LineFit g.nx (g.get · iy) (rowCoeff g iy) := by
  have hlength : (gridRow g iy).length = g.nx := by simp [gridRow]
  have hfit := lineFit_fitLine (hlength.symm ▸ hx)
  rw [hlength] at hfit
  have hrow : rowCoeff g iy = ((fitLine (gridRow g iy)).getD · 0) := by
    funext j
    rw [rowCoeff, read_toArray]
  rw [hrow]
  exact hfit.congr fun ix hix => by simp [gridRow, hix]

theorem columnCoeff_lineFit (hy : 2 ≤ g.ny) {j : Nat} (hj : j < g.nx + 2) (origin : Point ℝ)
    (orientation : ℝ) (projection : Projection ℝ) :
    LineFit g.ny (rowCoeff g · j) ((fitted g origin orientation projection).coeff j) := by
  have hlength : ((List.range g.ny).map (rowCoeff g · j)).length = g.ny := by simp
  have hfit := lineFit_fitLine (hlength.symm ▸ hy)
  rw [hlength] at hfit
  apply (hfit.congr fun iy hiy => by simp [hiy]).congr_coeff (Nat.le_of_succ_le hy)
  intro k hk
  rw [coeff_fitted _ _ _ _ hj hk, read_toArray]

theorem surfaceFit_fitted (hx : 2 ≤ g.nx) (hy : 2 ≤ g.ny) (origin : Point ℝ) (orientation : ℝ)
    (projection : Projection ℝ) :
    SurfaceFit g.nx g.ny g.get (fitted g origin orientation projection).coeff :=
  ⟨rowCoeff g, fun iy _ => rowCoeff_lineFit hx iy,
    fun _ hj => columnCoeff_lineFit hy hj origin orientation projection⟩

theorem eq_tabulate_of_read {α : Type} [Number α] {xs : Array α} {nx ny : Nat}
    {f : Nat → Nat → α} (hsize : xs.size = nx * ny)
    (hread : ∀ i < nx, ∀ j < ny, Number.read xs (j * nx + i) = f i j) : xs = tabulate nx ny f := by
  apply Array.ext (by rw [hsize, size_tabulate])
  intro i hi _
  rw [getElem_tabulate]
  have hlt : i < nx * ny := hsize ▸ hi
  have hpos : 0 < nx := Nat.pos_of_mul_pos_right (Nat.zero_lt_of_lt hlt)
  have hindex := hread (i % nx) (Nat.mod_lt i hpos) (i / nx) (Nat.div_lt_of_lt_mul hlt)
  rw [Nat.div_add_mod'] at hindex
  rw [← hindex, Number.read, Array.getD_eq_getD_getElem?, Array.getElem?_eq_getElem hi]
  rfl

theorem zipWith_tabulate {α β γ : Type} {nx ny : Nat} (f : α → β → γ) (v : Nat → Nat → α)
    (w : Nat → Nat → β) : Array.zipWith f (tabulate nx ny v) (tabulate nx ny w) =
      tabulate nx ny fun i j => f (v i j) (w i j) := by
  apply Array.ext (by simp)
  simp [getElem_tabulate]

theorem fitCoeffs_eq {c : Nat → Nat → ℝ} (hx : 2 ≤ g.nx) (hy : 2 ≤ g.ny)
    (hc : SurfaceFit g.nx g.ny g.get c) : fitCoeffs g = tabulate (g.nx + 2) (g.ny + 2) c :=
  eq_tabulate_of_read (size_tabulate ..)
    ((surfaceFit_fitted hx hy .origin 0 .standard).unique hx hy hc)

theorem fitCoeffs_const {x : ℝ} (hx : 2 ≤ g.nx) (hy : 2 ≤ g.ny)
    (hg : ∀ ix < g.nx, ∀ iy < g.ny, g.get ix iy = x) :
    fitCoeffs g = Array.replicate ((g.nx + 2) * (g.ny + 2)) x := by
  rw [fitCoeffs_eq hx hy ((SurfaceFit.const g.nx g.ny x).congr fun i hi j hj => (hg i hi j hj).symm)]
  apply Array.ext (by simp)
  simp [getElem_tabulate]

variable {a b : ℝ} {origin : Point ℝ} {orientation : ℝ} {projection : Projection ℝ}

theorem valueAt_fitted_const {x : ℝ} (hx : 2 ≤ g.nx) (hy : 2 ≤ g.ny) (hcell : 0 < g.cell)
    (hg : ∀ ix < g.nx, ∀ iy < g.ny, g.get ix iy = x) (p : Point ℝ) :
    (fitted g origin orientation projection).valueAt p = x := by
  have hflat : (fitted g origin orientation projection).mapCoeffs (fun c => 0 * c + x) =
      fitted g origin orientation projection := by
    simp only [mapCoeffs, fitted, fitCoeffs_const hx hy hg, Array.map_replicate, zero_mul, zero_add]
  have hvalue := valueAt_mapCoeffs (fitted_usable hx hy hcell origin orientation projection) 0 x p
  rwa [hflat, zero_mul, zero_add] at hvalue

/-- A surface through combined values combines the surfaces, also beyond their nodes. -/
theorem valueAt_fitted_linear (hx : 2 ≤ g.nx) (hy : 2 ≤ g.ny) (hcell : 0 < g.cell)
    (hh : h.spec = g.spec) (hk : k.spec = g.spec)
    (hget : ∀ ix < g.nx, ∀ iy < g.ny, k.get ix iy = a * g.get ix iy + b * h.get ix iy)
    (p : Point ℝ) :
    (fitted k origin orientation projection).valueAt p =
      a * (fitted g origin orientation projection).valueAt p +
        b * (fitted h origin orientation projection).valueAt p := by
  obtain ⟨hhx, hhy, hhcell⟩ := GridSpec.mk.inj hh
  obtain ⟨hkx, hky, hkcell⟩ := GridSpec.mk.inj hk
  have hsurface := surfaceFit_fitted hx hy origin orientation projection
  have hsurface' := surfaceFit_fitted (hhx ▸ hx) (hhy ▸ hy) origin orientation projection (g := h)
  have hcoeffs : fitCoeffs k =
      Array.zipWith (fun x y => a * x + b * y) (fitCoeffs g) (fitCoeffs h) := by
    have hsum := (hsurface.linear (hhx ▸ hhy ▸ hsurface') a b).congr
      fun i hi j hj => (hget i hi j hj).symm
    rw [fitCoeffs_eq hx hy hsurface, fitCoeffs_eq (hhx ▸ hx) (hhy ▸ hy) hsurface',
      fitCoeffs_eq (hkx ▸ hx) (hky ▸ hy) (hkx ▸ hky ▸ hsum), hhx, hhy, hkx, hky, zipWith_tabulate]
  have hfitted : fitted k origin orientation projection =
      zipCoeffs (fun x y => a * x + b * y) (fitted g origin orientation projection)
        (fitted h origin orientation projection) := by
    simp only [fitted, zipCoeffs, hcoeffs, hkx, hky, hkcell]
  rw [hfitted]
  apply valueAt_zipCoeffs (fitted_usable hx hy hcell origin orientation projection)
    (fitted_usable (hhx ▸ hx) (hhy ▸ hy) (hhcell ▸ hcell) origin orientation projection)
    ⟨by simp only [fitted, hhx], by simp only [fitted, hhy]⟩ a b
  funext q
  simp only [toNodes, fitted, hhcell]

end Grid

end Spline

end Synoptic
