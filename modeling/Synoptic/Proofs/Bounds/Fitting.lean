import Synoptic.Proofs.Bounds.Elimination

namespace Synoptic

variable {ε α : Type}

theorem exists_append_of_length {l : List α} {n : Nat} (h : l.length = n + 1) :
    ∃ u z, l = u ++ [z] ∧ u.length = n := by
  have hne : l ≠ [] := List.ne_nil_of_length_eq_add_one h
  refine ⟨l.dropLast, l.getLast hne, (List.dropLast_append_getLast hne).symm, ?_⟩
  rw [List.length_dropLast, h, Nat.add_sub_cancel]

namespace Spline

theorem modifyLast_append (f : α → α) (x : α) :
    ∀ l : List α, modifyLast f (l ++ [x]) = l ++ [f x]
  | [] => rfl
  | [_] => rfl
  | y :: z :: l => congrArg (y :: ·) (modifyLast_append f x (z :: l))

theorem length_modifyLast (f : α → α) : ∀ l : List α, (modifyLast f l).length = l.length
  | [] => rfl
  | [_] => rfl
  | _ :: z :: l => congrArg (· + 1) (length_modifyLast f (z :: l))

end Spline

variable [Number α]

namespace Checked

def fitInner (samples c : Array α) : Checked ε (Array α) :=
  let n := samples.size
  if 2 < n then do
    let rhs := ((← slice samples 1 (n - 1)).map (6 * ·)).toArray
    let rhs ← write rhs 0 ((← read rhs 0) - (← read c 1))
    let last := rhs.size - 1
    let rhs ← write rhs last ((← read rhs last) - (← read c n))
    let rhs ← solve rhs
    copy c 2 n rhs
  else .ok c

def fitLine (samples : Array α) : Checked ε (Array α) := do
  let n := samples.size
  let c ← write (Array.replicate (n + 2) 0) 1 (← read samples 0)
  let c ← write c n (← read samples (n - 1))
  let c ← fitInner samples c
  let c ← write c 0 (2 * (← read c 1) - (← read c 2))
  write c (n + 1) (2 * (← read c n) - (← read c (n - 1)))

section Line

variable (first last : α) (inner : List α)

def innerRhs : List α :=
  Spline.modifyLast (· - last) ((inner.map (6 * ·)).modifyHead (· - first))

theorem length_solve_innerRhs :
    (Tridiagonal.solve (innerRhs first last inner)).length = inner.length := by
  rw [Tridiagonal.length_solve, innerRhs, Spline.length_modifyLast, List.length_modifyHead,
    List.length_map]

theorem fitInner_eq :
    (fitInner (first :: inner ++ [last]).toArray
      (0 :: first :: List.replicate inner.length 0 ++ [last, 0]).toArray : Checked ε (Array α)) =
      .ok (0 :: first :: Tridiagonal.solve (innerRhs first last inner) ++ [last, 0]).toArray := by
  cases inner with
  | nil => rfl
  | cons v vs =>
    have hslice : (slice (first :: (v :: vs) ++ [last]).toArray 1 (vs.length + 2) :
        Checked ε (List α)) = .ok (v :: vs) :=
      slice_append [first] rfl (by simp; omega)
    have hfirst : (write ((v :: vs).map (6 * ·)).toArray 0 (6 * v - first) :
        Checked ε (Array α)) = .ok (((v :: vs).map (6 * ·)).modifyHead (· - first)).toArray :=
      write_append [] rfl
    obtain ⟨u, z, hz, hu⟩ : ∃ u z, ((v :: vs).map (6 * ·)).modifyHead (· - first) = u ++ [z] ∧
        u.length = vs.length := exists_append_of_length (by simp)
    have hrhs : u ++ [z - last] = innerRhs first last (v :: vs) := by
      rw [innerRhs, hz, Spline.modifyLast_append]
    have hsize : (first :: (v :: vs) ++ [last]).toArray.size = vs.length + 3 := by simp
    have hzsize : (u ++ [z]).toArray.size - 1 = vs.length := by simp [hu]
    let c := (0 :: first :: List.replicate (vs.length + 1) 0 ++ [last, 0]).toArray
    have hleft : (read c 1 : Checked ε α) = .ok first := read_append [0] rfl
    have hright : (read c (vs.length + 3) : Checked ε α) = .ok last :=
      read_append (0 :: first :: List.replicate (vs.length + 1) 0) (by simp)
    have hcopy : (copy c 2 (vs.length + 3)
        (Tridiagonal.solve (innerRhs first last (v :: vs))).toArray : Checked ε (Array α)) =
        .ok (0 :: first :: Tridiagonal.solve (innerRhs first last (v :: vs)) ++ [last, 0]).toArray :=
      copy_append [0, first] (List.replicate (vs.length + 1) 0) rfl
        (by simp; omega)
        ((length_solve_innerRhs first last (v :: vs)).trans (by simp))
    have hhead : (read ((v :: vs).map (6 * ·)).toArray 0 : Checked ε α) = .ok (6 * v) := rfl
    change (fitInner (first :: (v :: vs) ++ [last]).toArray c : Checked ε (Array α)) = _
    simp only [fitInner, hsize]
    rw [if_pos (by omega), show vs.length + 3 - 1 = vs.length + 2 from rfl, hslice, ok_bind, hhead,
      ok_bind, hleft, ok_bind, hfirst, ok_bind, hz, hzsize, read_append u hu, ok_bind, hright,
      ok_bind, write_append u hu, ok_bind, hrhs, solve_eq, ok_bind,
      hcopy]

omit [Number α] in
theorem read_second (x y : α) (solved : List α) :
    (read (x :: first :: solved ++ [last, y]).toArray 2 : Checked ε α) =
      .ok ((solved ++ [last]).head (by simp)) := by
  cases solved <;> rfl

omit [Number α] in
theorem read_beforeLast (x y : α) (solved : List α) :
    (read (x :: first :: solved ++ [last, y]).toArray (solved.length + 1) : Checked ε α) =
      .ok ((first :: solved).getLast (by simp)) := by
  obtain ⟨u, z, hz, hu⟩ := exists_append_of_length (show (first :: solved).length = _ from rfl)
  have hline : x :: first :: solved ++ [last, y] = x :: u ++ z :: [last, y] := by
    rw [List.cons_append, hz, List.append_assoc]
    rfl
  rw [hline, read_append _ (by simp [hu])]
  congr 1
  simp only [hz, List.getLast_append_singleton]

theorem fitLine_ends :
    (fitLine (first :: inner ++ [last]).toArray : Checked ε (Array α)) =
      .ok (Spline.lineCoeffs first inner last).toArray := by
  let n := inner.length + 2
  let solved := Tridiagonal.solve (innerRhs first last inner)
  let x := 2 * first - (solved ++ [last]).head (by simp)
  let y := 2 * last - (first :: solved).getLast (by simp)
  let zeros := List.replicate inner.length (0 : α)
  have hlength : solved.length = inner.length := length_solve_innerRhs first last inner
  have hsize : (first :: inner ++ [last]).toArray.size = n := by simp [n]
  have hzeros : Array.replicate (n + 2) (0 : α) = (0 :: 0 :: zeros ++ [0, 0]).toArray := by
    rw [← List.toArray_replicate]
    exact congrArg _ List.replicate_append_replicate.symm
  have hfirst : (read (first :: inner ++ [last]).toArray 0 : Checked ε α) = .ok first := rfl
  have hlast : (read (first :: inner ++ [last]).toArray (n - 1) : Checked ε α) = .ok last :=
    read_append (first :: inner) rfl
  have hwrite₁ : (write (0 :: 0 :: zeros ++ [0, 0]).toArray 1 first : Checked ε (Array α)) =
      .ok (0 :: first :: zeros ++ [0, 0]).toArray := write_append [0] rfl
  have hwrite₂ : (write (0 :: first :: zeros ++ [0, 0]).toArray n last : Checked ε (Array α)) =
      .ok (0 :: first :: zeros ++ [last, 0]).toArray :=
    write_append (0 :: first :: zeros) (by simp [zeros, n])
  have hread₁ : (read (0 :: first :: solved ++ [last, 0]).toArray 1 : Checked ε α) = .ok first :=
    read_append [0] rfl
  have hwrite₃ : (write (0 :: first :: solved ++ [last, 0]).toArray 0 x : Checked ε (Array α)) =
      .ok (x :: first :: solved ++ [last, 0]).toArray := write_append [] rfl
  have hread₂ : (read (x :: first :: solved ++ [last, 0]).toArray n : Checked ε α) = .ok last :=
    read_append (x :: first :: solved) (by simp [hlength, n])
  have hread₃ := read_beforeLast (ε := ε) first last x 0 solved
  have hwrite₄ : (write (x :: first :: solved ++ [last, 0]).toArray (n + 1) y :
      Checked ε (Array α)) = .ok (x :: first :: solved ++ [last, y]).toArray := by
    have hsplit (z : α) : x :: first :: solved ++ [last, z] =
        (x :: first :: solved ++ [last]) ++ z :: [] := by simp
    rw [hsplit, hsplit, write_append _ (by simp [hlength, n])]
  simp only [fitLine, hsize]
  rw [hfirst, ok_bind, hzeros, hwrite₁, ok_bind, hlast, ok_bind, hwrite₂, ok_bind, fitInner_eq,
    ok_bind, hread₁, ok_bind, read_second, ok_bind, hwrite₃, ok_bind, hread₂, ok_bind,
    show n - 1 = solved.length + 1 by omega, hread₃, ok_bind]
  exact hwrite₄

end Line

theorem fitLine_eq {samples : List α} (h : 2 ≤ samples.length) :
    (fitLine samples.toArray : Checked ε (Array α)) = .ok (Spline.fitLine samples).toArray := by
  match samples, h with
  | first :: next :: rest, _ =>
    have hne : next :: rest ≠ [] := List.cons_ne_nil next rest
    have hline := fitLine_ends (ε := ε) first ((next :: rest).getLast hne) (next :: rest).dropLast
    rw [List.cons_append, List.dropLast_append_getLast] at hline
    rw [hline, Spline.fitLine, dif_neg hne]

theorem length_lineCoeffs (first last : α) (inner : List α) :
    (Spline.lineCoeffs first inner last).length = inner.length + 4 := by
  have h := length_solve_innerRhs first last inner
  simp only [innerRhs] at h
  simp [Spline.lineCoeffs, h]

theorem length_fitLine {samples : List α} (h : 2 ≤ samples.length) :
    (Spline.fitLine samples).length = samples.length + 2 := by
  match samples, h with
  | first :: next :: rest, _ =>
    rw [Spline.fitLine, dif_neg (List.cons_ne_nil next rest), length_lineCoeffs]
    simp

def gridRow (g : Grid α) (iy : Nat) : Checked ε (List α) :=
  slice g.data (iy * g.nx) (iy * g.nx + g.nx)

def rowFits (g : Grid α) : Checked ε (List (Array α)) :=
  (List.range g.ny).mapM fun iy => do fitLine (← gridRow g iy).toArray

def gather (rows : List (Array α)) (j : Nat) (column : Array α) : Checked ε (Array α) :=
  rows.zipIdx.foldlM (fun column (row, iy) => do write column iy (← read row j)) column

def scatter (m j : Nat) (column coeffs : Array α) : Checked ε (Array α) :=
  column.toList.zipIdx.foldlM (fun coeffs (c, k) => write coeffs (k * m + j) c) coeffs

def fitColumn (rows : List (Array α)) (m : Nat) (arrays : Array α × Array α) (j : Nat) :
    Checked ε (Array α × Array α) := do
  let column ← gather rows j arrays.1
  let coeffs ← scatter m j (← fitLine column) arrays.2
  return (column, coeffs)

def fitCoeffs (g : Grid α) : Checked ε (Array α) := do
  let m := g.nx + 2
  let rows ← rowFits g
  let (_, coeffs) ← (List.range m).foldlM (fitColumn rows m)
    (Array.replicate g.ny 0, Array.replicate (m * (g.ny + 2)) 0)
  return coeffs

def fit (g : Grid α) (origin : Point α) (projection : Projection α) :
    Checked (ValueError α) (Spline α) :=
  if Spline.Fittable g then do
    return {
      columns := g.nx + 2
      rows := g.ny + 2
      coeffs := ← fitCoeffs g
      origin
      orientation := 0
      cell := g.cell
      projection }
  else .error (.error (.shape "spline fit" (.unfittable g.nx g.ny g.cell)))

theorem gridRow_eq {g : Grid α} {iy : Nat} (hdata : g.data.size = g.nx * g.ny) (h : iy < g.ny) :
    (gridRow g iy : Checked ε (List α)) = .ok (Spline.gridRow g iy) := by
  apply slice_eq
  rw [hdata]
  calc
    iy * g.nx + g.nx = (iy + 1) * g.nx := (Nat.succ_mul _ _).symm
    _ ≤ g.ny * g.nx := Nat.mul_le_mul_right _ h
    _ = g.nx * g.ny := Nat.mul_comm _ _

theorem rowFits_eq {g : Grid α} (hx : 2 ≤ g.nx) (hdata : g.data.size = g.nx * g.ny) :
    (rowFits g : Checked ε (List (Array α))) = .ok (Spline.rowFits g) := by
  apply mapM_of_mem
  intro iy hiy
  have hlength : (Spline.gridRow g iy).length = g.nx := by simp [Spline.gridRow]
  rw [gridRow_eq hdata (List.mem_range.mp hiy), ok_bind, fitLine_eq (hlength ▸ hx)]

theorem gather_table {rows : List (Array α)} {j : Nat} (h : ∀ row ∈ rows, j < row.size)
    (F : Nat → α) :
    (gather rows j (table rows.length F) : Checked ε (Array α)) =
      .ok (rows.map fun row => Number.read row j).toArray := by
  let V := fun i => (rows.map fun row => Number.read row j).getD i 0
  have hloop := foldlM_zipIdx (ε := Stop ε) (s := fun t => table rows.length (upto t V F))
    (f := fun column (row, iy) => do write column iy (← read row j)) rows 0
    (by
      intro i hi
      have hV : V i = Number.read rows[i] j := by simp [V, hi]
      rw [Nat.zero_add, ← update_upto, hV]
      dsimp only
      rw [read_array (h _ (List.getElem_mem hi)), ok_bind, write_table hi])
  have hV := table_getD (rows.map fun row => Number.read row j) (0 : α)
  rw [List.length_map] at hV
  rw [table_upto_zero, Nat.zero_add, table_upto_self, hV] at hloop
  exact hloop

theorem scatter_table {m n j : Nat} (hj : j < m) {column : List α} (hlength : column.length = n)
    (F : Nat → α) :
    (scatter m j column.toArray (table (m * n) F) : Checked ε (Array α)) =
      .ok (table (m * n) fun i =>
        if i % m = j then Number.read column.toArray (i / m) else F i) := by
  let G := fun t i => if i % m = j ∧ i / m < t then Number.read column.toArray (i / m) else F i
  have hloop := foldlM_zipIdx (ε := Stop ε) (s := fun t => table (m * n) (G t))
    (f := fun coeffs (c, k) => write coeffs (k * m + j) c) column 0
    (by
      intro k hk
      rw [Nat.zero_add]
      dsimp only
      rw [write_table (Grid.index_lt hj (hlength ▸ hk))]
      congr 1
      apply table_congr
      intro i _
      by_cases hi : i = k * m + j
      · subst hi
        have hread : Number.read column.toArray k = column[k] := by simp [Number.read, hk]
        simp [G, Grid.index_mod hj, Grid.index_div hj, hread]
      · rw [Function.update_of_ne hi]
        have hne : i % m = j → i / m ≠ k := by
          rintro rfl rfl
          exact hi (Nat.div_add_mod' i m).symm
        grind)
  rw [Nat.zero_add, hlength] at hloop
  have hzero : table (m * n) (G 0) = table (m * n) F := table_congr fun i _ => by simp [G]
  have hend : table (m * n) (G n) = table (m * n) fun i =>
      if i % m = j then Number.read column.toArray (i / m) else F i := by
    apply table_congr
    intro i hi
    simp [G, Nat.div_lt_of_lt_mul hi]
  rw [hzero, hend] at hloop
  exact hloop

theorem fitColumn_table {g : Grid α} (hy : 2 ≤ g.ny) {rows : List (Array α)}
    (hrows : rows.length = g.ny) {j : Nat} (hj : j < g.nx + 2)
    (hsize : ∀ row ∈ rows, j < row.size) {F : Nat → Nat → α}
    (hF : ∀ k, F j k =
      Number.read (Spline.fitLine (rows.map fun row => Number.read row j)).toArray k)
    (C : Nat → α) :
    (fitColumn rows (g.nx + 2) (table g.ny C,
        table ((g.nx + 2) * (g.ny + 2)) fun i =>
          if i % (g.nx + 2) < j then F (i % (g.nx + 2)) (i / (g.nx + 2)) else 0) j :
      Checked ε (Array α × Array α)) =
      .ok (table g.ny fun i => (rows.map fun row => Number.read row j).getD i 0,
        table ((g.nx + 2) * (g.ny + 2)) fun i =>
          if i % (g.nx + 2) < j + 1 then F (i % (g.nx + 2)) (i / (g.nx + 2)) else 0) := by
  have hlength : (rows.map fun row => Number.read row j).length = g.ny := by simp [hrows]
  have hfit : (Spline.fitLine (rows.map fun row => Number.read row j)).length = g.ny + 2 := by
    rw [length_fitLine (hlength ▸ hy), hlength]
  have hcolumn := table_getD (rows.map fun row => Number.read row j) (0 : α)
  rw [hlength] at hcolumn
  simp only [fitColumn]
  rw [← hrows, gather_table hsize, ok_bind, fitLine_eq (hlength ▸ hy), ok_bind, hrows,
    scatter_table hj hfit, ok_bind, hcolumn]
  congr 2
  apply table_congr
  intro i _
  rw [← hF]
  grind

theorem size_of_mem_rowFits {g : Grid α} (hx : 2 ≤ g.nx) {row : Array α}
    (h : row ∈ Spline.rowFits g) : row.size = g.nx + 2 := by
  obtain ⟨iy, _, rfl⟩ := List.mem_map.mp h
  have hlength : (Spline.gridRow g iy).length = g.nx := by simp [Spline.gridRow]
  rw [List.size_toArray, length_fitLine (hlength ▸ hx), hlength]

theorem fitCoeffs_eq {g : Grid α} (hx : 2 ≤ g.nx) (hy : 2 ≤ g.ny)
    (hdata : g.data.size = g.nx * g.ny) :
    (fitCoeffs g : Checked ε (Array α)) = .ok (Spline.fitCoeffs g) := by
  let m := g.nx + 2
  let n := g.ny + 2
  let rows := Spline.rowFits g
  let F := fun j k => Number.read ((Spline.columnFits g).getD j #[]) k
  let C : Nat → Nat → α
    | 0, _ => 0
    | j + 1, i => (rows.map fun row => Number.read row j).getD i 0
  have hloop := foldlM_range (ε := Stop ε) (f := fitColumn rows m)
    (s := fun j => (table g.ny (C j), table (m * n) fun i => if i % m < j then F (i % m) (i / m) else 0))
    m fun j hj => by
      apply fitColumn_table hy (by simp [rows, Spline.rowFits]) hj
      · intro row hrow
        rw [size_of_mem_rowFits hx hrow]
        exact hj
      · intro k
        simp only [F, Spline.columnFits]
        rw [Array.getD_eq_getD_getElem?, Array.getElem?_ofFn, dif_pos hj]
        rfl
  have hzeros (k : Nat) : Array.replicate k (0 : α) = table k fun _ => 0 := by
    apply Array.ext <;> simp [table]
  have hend : table (m * n) (fun i => if i % m < m then F (i % m) (i / m) else 0) =
      Spline.fitCoeffs g := table_congr fun i _ => if_pos (Nat.mod_lt _ (Nat.succ_pos _))
  simp only [fitCoeffs, rowFits_eq hx hdata, ok_bind, hzeros]
  have hstart : (List.range m).foldlM (fitColumn rows m)
      (table g.ny fun _ => 0, table (m * n) fun _ => 0) =
      (.ok (table g.ny (C m), Spline.fitCoeffs g) : Checked ε (Array α × Array α)) :=
    hend ▸ hloop
  rw [hstart]
  rfl

theorem fit_eq (g : Grid α) (origin : Point α) (projection : Projection α) :
    fit g origin projection = inRange (Spline.fit g origin projection) := by
  rw [fit, Spline.fit]
  split
  · rename_i h
    simp only [Spline.Fittable, not_or, Nat.not_lt, Decidable.not_not] at h
    obtain ⟨hx, hy, _, hdata⟩ := h
    rw [fitCoeffs_eq hx hy hdata]
    rfl
  · rfl

end Checked

end Synoptic
