import Synoptic.Spline.Fit
import Synoptic.Proofs.Bounds.Access

/-!
Elimination in place. A tridiagonal system is swept by what an equation becomes when the one before
it is eliminated, and by how an unknown is found from the next one; arrays that are rewritten place
by place come to the same unknowns.
-/

namespace Synoptic

variable {ε ι σ α : Type}

/-- A sweep: what the next equation becomes, the last unknown, and any other one from the next. -/
structure Elimination (ι σ α : Type) where
  step : σ → ι → σ
  last : σ → α
  back : σ → ι → α → α

namespace Elimination

variable (m : Elimination ι σ α)

def run : σ → List ι → α × List α
  | s, [] => (m.last s, [])
  | s, e :: es =>
    let (x, xs) := run (m.step s e) es
    (m.back s e x, x :: xs)

def unknowns (s : σ) (es : List ι) : List α := (m.run s es).1 :: (m.run s es).2

def stage (s : σ) (es : List ι) (i : Nat) : σ := (es.take i).foldl m.step s

theorem stage_succ {s : σ} {es : List ι} {i : Nat} (h : i < es.length) :
    m.stage s es (i + 1) = m.step (m.stage s es i) es[i] := by
  rw [stage, List.take_add_one, List.getElem?_eq_getElem h, List.foldl_append]
  rfl

theorem length_unknowns : ∀ (s : σ) (es : List ι), (m.unknowns s es).length = es.length + 1
  | _, [] => rfl
  | s, e :: es => congrArg (· + 1) (length_unknowns (m.step s e) es)

theorem getD_unknowns_length (d : α) :
    ∀ (s : σ) (es : List ι),
      (m.unknowns s es).getD es.length d = m.last (m.stage s es es.length)
  | _, [] => rfl
  | s, e :: es => getD_unknowns_length d (m.step s e) es

theorem getD_unknowns (d : α) :
    ∀ (s : σ) (es : List ι) (i : Nat) (h : i < es.length), (m.unknowns s es).getD i d =
      m.back (m.stage s es i) es[i] ((m.unknowns s es).getD (i + 1) d)
  | _, _ :: _, 0, _ => rfl
  | s, e :: es, i + 1, h => getD_unknowns d (m.step s e) es i (Nat.lt_of_succ_lt_succ h)

end Elimination

namespace Tridiagonal

variable [Number α]

def uniform : Elimination α (α × α) α where
  step := fun (pivot, rhs) next => (4 - 1 / pivot, next - 1 / pivot * rhs)
  last := fun (pivot, rhs) => rhs / pivot
  back := fun (pivot, rhs) _ x => (rhs - x) / pivot

theorem sweep_eq : ∀ (pivot rhs : α) (rest : List α),
    sweep pivot rhs rest = uniform.run (pivot, rhs) rest
  | _, _, [] => rfl
  | pivot, rhs, next :: rest => by
    rw [sweep, Elimination.run]
    dsimp only
    rw [sweep_eq]
    rfl

theorem solve_cons (rhs : α) (rest : List α) :
    solve (rhs :: rest) = uniform.unknowns (4, rhs) rest := by
  rw [solve, sweep_eq]
  rfl

theorem length_solve (rhs : List α) : (solve rhs).length = rhs.length := by
  cases rhs with
  | nil => rfl
  | cons rhs rest => rw [solve_cons, Elimination.length_unknowns, List.length_cons]

section Stages

variable (rhs : α) (rest : List α)

def stages : Nat → α × α := uniform.stage (4, rhs) rest

variable {rhs rest} {t : Nat}

theorem stages_succ (h : t < rest.length) :
    stages rhs rest (t + 1) =
      uniform.step (stages rhs rest t) ((rhs :: rest).getD (t + 1) 0) := by
  rw [stages, Elimination.stage_succ _ h, List.getD_cons_succ, List.getD_eq_getElem?_getD,
    List.getElem?_eq_getElem h]
  rfl

theorem getD_solve (h : t < rest.length) :
    (solve (rhs :: rest)).getD t 0 =
      ((stages rhs rest t).2 - (solve (rhs :: rest)).getD (t + 1) 0) / (stages rhs rest t).1 := by
  rw [solve_cons]
  exact uniform.getD_unknowns 0 _ _ t h

theorem getD_solve_last :
    (solve (rhs :: rest)).getD rest.length 0 =
      (stages rhs rest rest.length).2 / (stages rhs rest rest.length).1 := by
  rw [solve_cons]
  exact uniform.getD_unknowns_length 0 _ _

end Stages

end Tridiagonal

namespace Checked

variable [Number α]

def eliminate (arrays : Array α × Array α) (i : Nat) : Checked ε (Array α × Array α) := do
  let (diag, rhs) := arrays
  let w := 1 / (← read diag i)
  let diag ← write diag (i + 1) ((← read diag (i + 1)) - w)
  let rhs ← write rhs (i + 1) ((← read rhs (i + 1)) - w * (← read rhs i))
  return (diag, rhs)

def substitute (diag : Array α) (i : Nat) (rhs : Array α) : Checked ε (Array α) := do
  write rhs i (((← read rhs i) - (← read rhs (i + 1))) / (← read diag i))

def solve (rhs : Array α) : Checked ε (Array α) :=
  let k := rhs.size
  if k = 0 then .ok rhs
  else do
    let (diag, rhs) ← (List.range (k - 1)).foldlM eliminate (Array.replicate k 4, rhs)
    let rhs ← write rhs (k - 1) ((← read rhs (k - 1)) / (← read diag (k - 1)))
    (List.range (k - 1)).foldrM (substitute diag) rhs

/-- Before the place `t` the arrays hold what the equations have become, from there on what they
were. -/
theorem eliminate_table {k t : Nat} {S : Nat → α × α} {R : Nat → α} (ht : t + 1 < k)
    (hS : S (t + 1) = Tridiagonal.uniform.step (S t) (R (t + 1))) :
    (eliminate (table k (upto (t + 1) (fun j => (S j).1) fun _ => 4),
        table k (upto (t + 1) (fun j => (S j).2) R)) t : Checked ε _) =
      .ok (table k (upto (t + 2) (fun j => (S j).1) fun _ => 4),
        table k (upto (t + 2) (fun j => (S j).2) R)) := by
  have hp : (S (t + 1)).1 = 4 - 1 / (S t).1 := by rw [hS]; rfl
  have hq : (S (t + 1)).2 = R (t + 1) - 1 / (S t).1 * (S t).2 := by rw [hS]; rfl
  have hlt : t < k := Nat.lt_of_succ_lt ht
  simp only [eliminate, read_table hlt, read_table ht, write_table ht, ok_bind,
    upto_of_lt (Nat.lt_succ_self t), upto_of_le (Nat.le_refl (t + 1)), ← hp, ← hq]
  rw [← update_upto (t + 1), ← update_upto (t + 1)]
  rfl

theorem substitute_table {k t : Nat} {S : Nat → α × α} {X : Nat → α} (ht : t + 1 < k)
    (hX : X t = ((S t).2 - X (t + 1)) / (S t).1) :
    (substitute (table k fun j => (S j).1) t (table k (upto (t + 1) (fun j => (S j).2) X)) :
        Checked ε _) = .ok (table k (upto t (fun j => (S j).2) X)) := by
  have hlt : t < k := Nat.lt_of_succ_lt ht
  simp only [substitute, read_table hlt, read_table ht, write_table hlt, ok_bind,
    upto_of_lt (Nat.lt_succ_self t), upto_of_le (Nat.le_refl (t + 1)), ← hX]
  rw [update_upto_succ]

section Sweeps

open Tridiagonal

variable (r : α) (rest : List α)

theorem eliminate_upto {t : Nat} (ht : t ≤ rest.length) :
    ((List.range t).foldlM eliminate
      (Array.replicate (rest.length + 1) 4, (r :: rest).toArray) : Checked ε _) =
      .ok (table (rest.length + 1) (upto (t + 1) (fun j => (stages r rest j).1) fun _ => 4),
        table (rest.length + 1) (upto (t + 1) (fun j => (stages r rest j).2)
          fun j => (r :: rest).getD j 0)) := by
  let k := rest.length + 1
  have hdiag : table k (upto 1 (fun j => (stages r rest j).1) fun _ => 4) =
      Array.replicate k 4 := by
    rw [replicate_eq_table]
    exact congrArg _ (upto_one rfl)
  have hrhs : table k (upto 1 (fun j => (stages r rest j).2) fun j => (r :: rest).getD j 0) =
      (r :: rest).toArray := by
    rw [← table_getD (r :: rest) (0 : α)]
    exact congrArg _ (upto_one rfl)
  have hloop := foldlM_range (ε := Stop ε) (f := eliminate)
    (s := fun t => (table k (upto (t + 1) (fun j => (stages r rest j).1) fun _ => 4),
      table k (upto (t + 1) (fun j => (stages r rest j).2) fun j => (r :: rest).getD j 0)))
    t fun i hi => eliminate_table (Nat.succ_lt_succ (Nat.lt_of_lt_of_le hi ht))
      (stages_succ (Nat.lt_of_lt_of_le hi ht))
  rw [hdiag, hrhs] at hloop
  exact hloop

theorem eliminate_forward :
    ((List.range rest.length).foldlM eliminate
      (Array.replicate (rest.length + 1) 4, (r :: rest).toArray) : Checked ε _) =
      .ok (table (rest.length + 1) fun j => (stages r rest j).1,
        table (rest.length + 1) fun j => (stages r rest j).2) := by
  rw [eliminate_upto r rest (Nat.le_refl _), table_upto_self, table_upto_self]

theorem substitute_backward :
    ((List.range rest.length).foldrM
      (substitute (table (rest.length + 1) fun j => (stages r rest j).1))
      (table (rest.length + 1) (upto rest.length (fun j => (stages r rest j).2)
        fun j => (Tridiagonal.solve (r :: rest)).getD j 0)) : Checked ε _) =
      .ok (Tridiagonal.solve (r :: rest)).toArray := by
  have hloop := foldrM_range (ε := Stop ε)
    (f := substitute (table (rest.length + 1) fun j => (stages r rest j).1))
    (s := fun t => table (rest.length + 1) (upto t (fun j => (stages r rest j).2)
      fun j => (Tridiagonal.solve (r :: rest)).getD j 0))
    rest.length fun t ht => substitute_table (Nat.succ_lt_succ ht) (getD_solve ht)
  have hlength : (Tridiagonal.solve (r :: rest)).length = rest.length + 1 := length_solve _
  rw [hloop, table_upto_zero, ← hlength, table_getD]

end Sweeps

theorem solve_eq (rhs : List α) :
    (solve rhs.toArray : Checked ε (Array α)) = .ok (Tridiagonal.solve rhs).toArray := by
  cases rhs with
  | nil => rfl
  | cons r rest =>
    have hlast : rest.length < rest.length + 1 := Nat.lt_succ_self _
    simp only [solve, List.size_toArray, List.length_cons, Nat.add_sub_cancel]
    rw [if_neg (Nat.succ_ne_zero _), eliminate_forward, ok_bind, read_table hlast,
      read_table hlast, ok_bind, ok_bind, ← Tridiagonal.getD_solve_last, write_table hlast, ok_bind,
      table_update_last _ _ fun j => (Tridiagonal.solve (r :: rest)).getD j 0]
    exact substitute_backward r rest

end Checked

end Synoptic
