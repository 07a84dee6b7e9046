import Mathlib.Data.List.GetD
import Synoptic.Proofs.Bounds.Elimination
import Synoptic.Proofs.Series.System

namespace Synoptic

variable {ε α : Type} [Number α]

namespace Series

def elimination : Elimination (Equation α) (α × α) α where
  step := fun (pivot, rhs) e =>
    (e.pivot - e.before / pivot * e.before, e.rhs - e.before / pivot * rhs)
  last := fun (pivot, rhs) => rhs / pivot
  back := fun (pivot, rhs) e x => (rhs - e.before * x) / pivot

theorem sweep_eq : ∀ (pivot rhs : α) (es : List (Equation α)),
    sweep pivot rhs es = elimination.run (pivot, rhs) es
  | _, _, [] => rfl
  | pivot, rhs, e :: es => by
    rw [sweep, Elimination.run]
    dsimp only
    rw [sweep_eq]
    rfl

theorem solve_cons (e : Equation α) (es : List (Equation α)) :
    solve (e :: es) = elimination.unknowns (e.pivot, e.rhs) es := by
  rw [solve, sweep_eq]
  rfl

def equationAt (F : Nat → α × α) (i : Nat) : Equation α :=
  let h0 := (F (i + 1)).1 - (F i).1
  let h1 := (F (i + 2)).1 - (F (i + 1)).1
  ⟨h0, 2 * (h0 + h1),
    6 * (((F (i + 2)).2 - (F (i + 1)).2) / h1 - ((F (i + 1)).2 - (F i).2) / h0)⟩

def allBends (k : Nat) (F : Nat → α × α) : List α :=
  0 :: solve ((List.range k).map (equationAt F)) ++ [0]

def bendAt (k : Nat) (F : Nat → α × α) (i : Nat) : α := (allBends k F).getD i 0

def sampleKnot (k : Nat) (F : Nat → α × α) (i : Nat) : Knot α := ⟨(F i).1, (F i).2, bendAt k F i⟩

omit [Number α] in
theorem map_range_succ {β : Type} (f : Nat → β) (n : Nat) :
    (List.range (n + 1)).map f = f 0 :: (List.range n).map fun i => f (i + 1) := by
  rw [List.range_succ_eq_map, List.map_cons, List.map_map]
  rfl

theorem equations_range : ∀ (k : Nat) (F : Nat → α × α),
    equations ((List.range (k + 2)).map F) = (List.range k).map (equationAt F)
  | 0, _ => rfl
  | k + 1, F => by
    have ih := equations_range k fun i => F (i + 1)
    rw [map_range_succ, map_range_succ] at ih
    rw [map_range_succ, map_range_succ, map_range_succ, equations, ih, map_range_succ]
    rfl

theorem length_allBends (k : Nat) (F : Nat → α × α) : (allBends k F).length = k + 2 := by
  simp [allBends, length_solve]

theorem bendAt_zero (k : Nat) (F : Nat → α × α) : bendAt k F 0 = 0 := rfl

theorem bendAt_inner {k i : Nat} (F : Nat → α × α) (hi : i < k) :
    bendAt k F (i + 1) = (solve ((List.range k).map (equationAt F))).getD i 0 := by
  have hlength : (solve ((List.range k).map (equationAt F))).length = k := by simp [length_solve]
  rw [bendAt, allBends, List.cons_append, List.getD_cons_succ, List.getD_append _ _ _ _ (by omega)]

theorem bendAt_last (k : Nat) (F : Nat → α × α) : bendAt k F (k + 1) = 0 := by
  have hlength : (solve ((List.range k).map (equationAt F))).length = k := by simp [length_solve]
  rw [bendAt, allBends, List.cons_append, List.getD_cons_succ, List.getD_append_right _ _ _ _ (by omega),
    hlength, Nat.sub_self]
  rfl

theorem knots_range (k : Nat) (F : Nat → α × α) :
    knots ((List.range (k + 2)).map F) = (List.range (k + 2)).map (sampleKnot k F) := by
  have hlength := length_allBends k F
  have hknots : knots ((List.range (k + 2)).map F) =
      List.zipWith (fun (t, v) bend => ⟨t, v, bend⟩) ((List.range (k + 2)).map F) (allBends k F) := by
    rw [knots, equations_range]
    rfl
  rw [hknots]
  apply List.ext_getElem
  · simp [hlength]
  · intro i hi hi'
    have hlt : i < (allBends k F).length := by simpa [hlength] using hi'
    simp [sampleKnot, bendAt, List.getElem?_eq_getElem hlt]

theorem slopeOn_range (t : α) : ∀ (n : Nat) (K : Nat → Knot α),
    slopeOn t ((List.range (n + 2)).map K) =
      let seg := (((List.range n).map fun k => (K (1 + k)).time).findIdx? fun time =>
        decide (t < time)).getD n
      pieceSlope (K seg) (K (seg + 1)) t
  | 0, _ => rfl
  | n + 1, K => by
    have ih := slopeOn_range t n fun i => K (i + 1)
    rw [map_range_succ, map_range_succ] at ih
    rw [map_range_succ, map_range_succ, map_range_succ, slopeOn, ih, map_range_succ,
      List.findIdx?_cons]
    · by_cases hlt : t < (K 1).time
      · simp [hlt]
      · simp only [hlt, decide_false, Bool.false_eq_true, if_false, Option.getD_map]
        rfl
    · exact List.cons_ne_nil _ _

def reduced (F : Nat → α × α) : Nat → α × α
  | 0 => ((equationAt F 0).pivot, (equationAt F 0).rhs)
  | i + 1 => elimination.step (reduced F i) (equationAt F (i + 1))

theorem stage_eq_reduced (k : Nat) (F : Nat → α × α) : ∀ t ≤ k,
    elimination.stage (reduced F 0) ((List.range k).map fun i => equationAt F (i + 1)) t =
      reduced F t
  | 0, _ => rfl
  | t + 1, ht => by
    have hlt : t < ((List.range k).map fun i => equationAt F (i + 1)).length := by simpa using ht
    rw [elimination.stage_succ hlt, stage_eq_reduced k F t (Nat.le_of_succ_le ht),
      List.getElem_map, List.getElem_range, reduced]

theorem bendAt_unknowns {k t : Nat} (F : Nat → α × α) (ht : t ≤ k) :
    bendAt (k + 1) F (t + 1) = (elimination.unknowns (reduced F 0)
      ((List.range k).map fun i => equationAt F (i + 1))).getD t 0 := by
  rw [bendAt_inner F (Nat.lt_succ_of_le ht), map_range_succ, solve_cons]
  rfl

theorem bendAt_before_last (k : Nat) (F : Nat → α × α) :
    bendAt (k + 1) F (k + 1) = elimination.last (reduced F k) := by
  have h := elimination.getD_unknowns_length 0 (reduced F 0)
    ((List.range k).map fun i => equationAt F (i + 1))
  rw [List.length_map, List.length_range, stage_eq_reduced k F k (Nat.le_refl k)] at h
  rw [bendAt_unknowns F (Nat.le_refl k), h]

theorem bendAt_back {k t : Nat} (F : Nat → α × α) (ht : t < k) :
    bendAt (k + 1) F (t + 1) = elimination.back (reduced F t) (equationAt F (t + 1))
      (bendAt (k + 1) F (t + 2)) := by
  have h := elimination.getD_unknowns 0 (reduced F 0)
    ((List.range k).map fun i => equationAt F (i + 1)) t (by simpa using ht)
  rw [stage_eq_reduced k F t ht.le, List.getElem_map, List.getElem_range] at h
  rw [bendAt_unknowns F ht.le, bendAt_unknowns F ht, h]

end Series

namespace Checked

def steps (times : Array α) : Checked ε (Array α) := do
  let h ← (List.range (times.size - 1)).mapM fun i => do
    return (← read times (i + 1)) - (← read times i)
  return h.toArray

def setEquation (h values : Array α) (arrays : Array α × Array α) (i : Nat) :
    Checked ε (Array α × Array α) := do
  let (diag, rhs) := arrays
  let diag ← write diag i (2 * ((← read h i) + (← read h (i + 1))))
  let rhs ← write rhs i
    (6 * (((← read values (i + 2)) - (← read values (i + 1))) / (← read h (i + 1)) -
      ((← read values (i + 1)) - (← read values i)) / (← read h i)))
  return (diag, rhs)

def eliminateStep (h : Array α) (arrays : Array α × Array α) (i : Nat) :
    Checked ε (Array α × Array α) := do
  let (diag, rhs) := arrays
  let w := (← read h (i + 1)) / (← read diag i)
  let diag ← write diag (i + 1) ((← read diag (i + 1)) - w * (← read h (i + 1)))
  let rhs ← write rhs (i + 1) ((← read rhs (i + 1)) - w * (← read rhs i))
  return (diag, rhs)

def substituteBend (h diag rhs : Array α) (i : Nat) (bends : Array α) : Checked ε (Array α) := do
  write bends (i + 1)
    (((← read rhs i) - (← read h (i + 1)) * (← read bends (i + 2))) / (← read diag i))

def bends (h values : Array α) (n : Nat) : Checked ε (Array α) := do
  let bends := Array.replicate n 0
  if n ≤ 2 then return bends
  else
    let k := n - 2
    let zeros := Array.replicate k 0
    let arrays ← (List.range k).foldlM (setEquation h values) (zeros, zeros)
    let (diag, rhs) ← (List.range (k - 1)).foldlM (eliminateStep h) arrays
    let bends ← write bends k ((← read rhs (k - 1)) / (← read diag (k - 1)))
    (List.range (k - 1)).foldrM (substituteBend h diag rhs) bends

def slopeAt (times values : Array α) (t : α) : Checked ε α := do
  let n := times.size
  let h ← steps times
  let bends ← bends h values n
  let inner ← slice times 1 (n - 1)
  let seg := (inner.findIdx? fun time => decide (t < time)).getD (n - 2)
  let hi ← read h seg
  let a := (← read times (seg + 1)) - t
  let b := t - (← read times seg)
  return (-(← read bends seg)) * a * a / (2 * hi) + (← read bends (seg + 1)) * b * b / (2 * hi) +
    ((← read values (seg + 1)) - (← read values seg)) / hi -
      ((← read bends (seg + 1)) - (← read bends seg)) * hi / 6

section Samples

variable {k : Nat} {F : Nat → α × α}

theorem setEquation_table {t : Nat} (ht : t < k) :
    (setEquation (table (k + 1) fun i => (F (i + 1)).1 - (F i).1) (table (k + 2) fun i => (F i).2)
        (table k (upto t (fun j => (Series.equationAt F j).pivot) fun _ => 0),
          table k (upto t (fun j => (Series.equationAt F j).rhs) fun _ => 0)) t : Checked ε _) =
      .ok (table k (upto (t + 1) (fun j => (Series.equationAt F j).pivot) fun _ => 0),
        table k (upto (t + 1) (fun j => (Series.equationAt F j).rhs) fun _ => 0)) := by
  have h₁ : t < k + 1 := by omega
  have h₂ : t + 1 < k + 1 := by omega
  have h₃ : t < k + 2 := by omega
  have h₄ : t + 1 < k + 2 := by omega
  have h₅ : t + 2 < k + 2 := by omega
  simp only [setEquation, read_table h₁, read_table h₂, read_table h₃, read_table h₄,
    read_table h₅, write_table ht, ok_bind]
  rw [← update_upto t, ← update_upto t]
  rfl

theorem eliminateStep_table {t : Nat} (ht : t + 1 < k) :
    (eliminateStep (table (k + 1) fun i => (F (i + 1)).1 - (F i).1)
        (table k (upto (t + 1) (fun j => (Series.reduced F j).1)
            fun j => (Series.equationAt F j).pivot),
          table k (upto (t + 1) (fun j => (Series.reduced F j).2)
            fun j => (Series.equationAt F j).rhs)) t : Checked ε _) =
      .ok (table k (upto (t + 2) (fun j => (Series.reduced F j).1)
            fun j => (Series.equationAt F j).pivot),
          table k (upto (t + 2) (fun j => (Series.reduced F j).2)
            fun j => (Series.equationAt F j).rhs)) := by
  have hlt : t < k := Nat.lt_of_succ_lt ht
  have hh : t + 1 < k + 1 := by omega
  simp only [eliminateStep, read_table hlt, read_table ht, read_table hh, write_table ht, ok_bind,
    upto_of_lt (Nat.lt_succ_self t), upto_of_le (Nat.le_refl (t + 1))]
  rw [← update_upto (t + 1), ← update_upto (t + 1)]
  rfl

theorem substituteBend_table {t : Nat} (ht : t < k) :
    (substituteBend (table (k + 2) fun i => (F (i + 1)).1 - (F i).1)
        (table (k + 1) fun j => (Series.reduced F j).1)
        (table (k + 1) fun j => (Series.reduced F j).2) t
        (table (k + 3) (upto (t + 2) (fun _ => 0) (Series.bendAt (k + 1) F))) : Checked ε _) =
      .ok (table (k + 3) (upto (t + 1) (fun _ => 0) (Series.bendAt (k + 1) F))) := by
  have h₁ : t < k + 1 := by omega
  have h₂ : t + 1 < k + 2 := by omega
  have h₃ : t + 1 < k + 3 := by omega
  have h₄ : t + 2 < k + 3 := by omega
  simp only [substituteBend, read_table h₁, read_table h₂, read_table h₄, write_table h₃, ok_bind,
    upto_of_le (Nat.le_refl (t + 2))]
  rw [← update_upto_succ (t + 1), Series.bendAt_back F ht]
  rfl

theorem setEquations_eq (k : Nat) (F : Nat → α × α) :
    (List.range k).foldlM (setEquation (table (k + 1) fun i => (F (i + 1)).1 - (F i).1)
        (table (k + 2) fun i => (F i).2)) (Array.replicate k 0, Array.replicate k 0) =
      (.ok (table k fun j => (Series.equationAt F j).pivot,
        table k fun j => (Series.equationAt F j).rhs) : Checked ε (Array α × Array α)) := by
  have h := foldlM_range (ε := Stop ε) (s := fun t =>
    (table k (upto t (fun j => (Series.equationAt F j).pivot) fun _ => 0),
      table k (upto t (fun j => (Series.equationAt F j).rhs) fun _ => 0))) k
    fun t ht => setEquation_table ht
  rw [table_upto_self, table_upto_self, table_upto_zero, table_upto_zero,
    ← replicate_eq_table] at h
  exact h

theorem eliminateSteps_eq (k : Nat) (F : Nat → α × α) :
    (List.range k).foldlM (eliminateStep (table (k + 2) fun i => (F (i + 1)).1 - (F i).1))
        (table (k + 1) fun j => (Series.equationAt F j).pivot,
          table (k + 1) fun j => (Series.equationAt F j).rhs) =
      (.ok (table (k + 1) fun j => (Series.reduced F j).1,
        table (k + 1) fun j => (Series.reduced F j).2) : Checked ε (Array α × Array α)) := by
  have hdiag : upto (0 + 1) (fun j => (Series.reduced F j).1) (fun j =>
    (Series.equationAt F j).pivot) = fun j => (Series.equationAt F j).pivot := upto_one rfl
  have hrhs : upto (0 + 1) (fun j => (Series.reduced F j).2) (fun j =>
    (Series.equationAt F j).rhs) = fun j => (Series.equationAt F j).rhs := upto_one rfl
  have h := foldlM_range (ε := Stop ε) (s := fun t =>
    (table (k + 1) (upto (t + 1) (fun j => (Series.reduced F j).1)
        fun j => (Series.equationAt F j).pivot),
      table (k + 1) (upto (t + 1) (fun j => (Series.reduced F j).2)
        fun j => (Series.equationAt F j).rhs))) k
    fun t ht => eliminateStep_table (Nat.succ_lt_succ ht)
  rw [table_upto_self, table_upto_self, hdiag, hrhs] at h
  exact h

theorem substituteBends_eq (k : Nat) (F : Nat → α × α) :
    (List.range k).foldrM (substituteBend (table (k + 2) fun i => (F (i + 1)).1 - (F i).1)
        (table (k + 1) fun j => (Series.reduced F j).1)
        (table (k + 1) fun j => (Series.reduced F j).2))
        (table (k + 3) (upto (k + 1) (fun _ => 0) (Series.bendAt (k + 1) F))) =
      (.ok (table (k + 3) (Series.bendAt (k + 1) F)) : Checked ε (Array α)) := by
  have h := foldrM_range (ε := Stop ε)
    (s := fun t => table (k + 3) (upto (t + 1) (fun _ => 0) (Series.bendAt (k + 1) F))) k
    fun t ht => substituteBend_table ht
  rw [h, Nat.zero_add, upto_one (F := fun _ => 0) (Series.bendAt_zero _ F).symm]

theorem bends_eq : ∀ (k : Nat) (F : Nat → α × α),
    (bends (table (k + 1) fun i => (F (i + 1)).1 - (F i).1) (table (k + 2) fun i => (F i).2)
      (k + 2) : Checked ε (Array α)) = .ok (table (k + 2) (Series.bendAt k F))
  | 0, F => rfl
  | k + 1, F => by
    have hk : k < k + 1 := Nat.lt_succ_self k
    have hk' : k + 1 < k + 3 := by omega
    have hlast : (Series.reduced F k).2 / (Series.reduced F k).1 = Series.bendAt (k + 1) F (k + 1) :=
      (Series.bendAt_before_last k F).symm
    have hzero : Array.replicate (k + 3) 0 =
        table (k + 3) (upto (k + 2) (fun _ => 0) (Series.bendAt (k + 1) F)) := by
      rw [replicate_eq_table]
      apply table_congr
      intro i hi
      by_cases hlt : i < k + 2
      · rw [upto_of_lt hlt]
      · rw [upto_of_le (Nat.not_lt.mp hlt), show i = k + 2 by omega, Series.bendAt_last]
    rw [bends, if_neg (by omega), hzero]
    simp only [Nat.add_sub_cancel, setEquations_eq, eliminateSteps_eq, ok_bind, read_table hk,
      write_table hk', hlast, update_upto_succ]
    exact substituteBends_eq k F

theorem steps_eq (k : Nat) (T : Nat → α) :
    (steps (table (k + 2) T) : Checked ε (Array α)) =
      .ok (table (k + 1) fun i => T (i + 1) - T i) := by
  have hstep : ∀ i ∈ List.range (k + 1),
      (do return (← read (table (k + 2) T) (i + 1)) - (← read (table (k + 2) T) i)) =
        (.ok (T (i + 1) - T i) : Checked ε α) := by
    intro i hi
    have hlt : i < k + 2 := by have := List.mem_range.mp hi; omega
    have hlt' : i + 1 < k + 2 := Nat.succ_lt_succ (List.mem_range.mp hi)
    rw [read_table hlt, read_table hlt']
    rfl
  rw [steps, size_table, show k + 2 - 1 = k + 1 from rfl, mapM_of_mem hstep, ok_bind]
  congr 1
  apply Array.ext <;> simp [table]

theorem slopeAt_table (k : Nat) (F : Nat → α × α) (t : α) :
    (slopeAt (table (k + 2) fun i => (F i).1) (table (k + 2) fun i => (F i).2) t : Checked ε α) =
      .ok (Series.slopeOn t (Series.knots ((List.range (k + 2)).map F))) := by
  have hslice : (slice (table (k + 2) fun i => (F i).1) 1 (k + 1) : Checked ε (List α)) =
      .ok ((List.range k).map fun i => (Series.sampleKnot k F (1 + i)).time) := by
    rw [Nat.add_comm k 1]
    exact slice_table (by omega)
  rw [Series.knots_range, Series.slopeOn_range, slopeAt, size_table, steps_eq, ok_bind, bends_eq,
    ok_bind]
  generalize hseg : (((List.range k).map fun i => (Series.sampleKnot k F (1 + i)).time).findIdx?
    fun time => decide (t < time)).getD k = seg
  have hle : seg ≤ k := by
    rw [← hseg]
    cases hfound : ((List.range k).map fun i => (Series.sampleKnot k F (1 + i)).time).findIdx?
      fun time => decide (t < time) with
    | none => exact Nat.le_refl k
    | some i =>
      have hlt := (List.findIdx?_eq_some_iff_findIdx_eq.mp hfound).1
      rw [List.length_map, List.length_range] at hlt
      exact hlt.le
  have h₁ : seg < k + 1 := by omega
  have h₂ : seg < k + 2 := by omega
  have h₃ : seg + 1 < k + 2 := by omega
  simp only [Nat.add_sub_cancel, show k + 2 - 1 = k + 1 from rfl, hslice, ok_bind, hseg,
    read_table h₁, read_table h₂, read_table h₃]
  rfl

end Samples

theorem slopeAt_eq {times values : List α} (hn : 2 ≤ times.length)
    (hlength : values.length = times.length) (t : α) :
    (slopeAt times.toArray values.toArray t : Checked ε α) =
      .ok (Series.slopeAt times values t) := by
  obtain ⟨k, hk⟩ := Nat.exists_eq_add_of_le' hn
  have hzip := zip_eq_map_range hlength (0 : α) (0 : α)
  have h := slopeAt_table (ε := ε) k (fun i => (times.getD i 0, values.getD i 0)) t
  rw [← hk, ← hzip, table_getD] at h
  rw [Series.slopeAt, ← h, ← table_getD values 0, hlength]

end Checked

end Synoptic
