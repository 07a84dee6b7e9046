import Synoptic.Operator.Arithmetic
import Synoptic.Proofs.Spline.Linear
import Synoptic.Proofs.Transfer
import Synoptic.Proofs.Typing.Alignment

/-!
Sums and products with their operands swapped, in exact arithmetic. Where one order succeeds so does
the other, with the same elements. Surfaces that combine on their coefficients take the place of the
left one, so the results are equal just if such surfaces lie at the same place.
-/

namespace Synoptic

theorem Samples.points_of_samePoints {s t : Samples ℝ} (h : s.samePoints t = true) :
    s.points = t.points := by
  obtain ⟨hsize, heq⟩ := Array.isEqv_iff_rel.mp h
  exact Array.ext hsize fun i hi _ => (Point.beq_iff _ _).mp (heq i hi)

theorem Spline.sameShape_comm {α : Type} (s t : Spline α) : s.sameShape t = t.sameShape s := by
  rw [sameShape, sameShape, BEq.comm, @BEq.comm _ _ _ s.rows]

inductive Aligned.Swapped {α : Type} : Aligned α → Aligned α → Prop
  | intro (layout : Layout α) (x y : Operand α) : Swapped ⟨layout, [x, y]⟩ ⟨layout, [y, x]⟩

theorem mapM_swap {ε β γ : Type} {f : β → Except ε γ} {a b : β} {l : List γ}
    (h : [a, b].mapM f = .ok l) :
    ∃ x y, f a = .ok x ∧ f b = .ok y ∧ l = [x, y] ∧ [b, a].mapM f = .ok [y, x] := by
  rw [List.mapM_cons] at h
  obtain ⟨x, hx, h⟩ := ok_of_bind h
  obtain ⟨l', hl', h⟩ := ok_of_bind h
  rw [List.mapM_cons] at hl'
  obtain ⟨y, hy, hl'⟩ := ok_of_bind hl'
  cases hl'
  cases h
  refine ⟨x, y, hx, hy, rfl, ?_⟩
  rw [List.mapM_cons, hy, ok_bind, List.mapM_cons, hx]
  rfl

section Align

variable {ctx : Context ℝ} {op : String} {a b : Value ℝ} {r : Aligned ℝ}

theorem spec_of_normalizeGrid {g g' : Grid ℝ} (h : normalizeGrid g ctx = .ok g') :
    ctx.defaultGrid = .ok g'.spec := by
  obtain ⟨isDefault, hdefault, h⟩ := ok_of_bind h
  obtain ⟨spec, hspec, hdefault⟩ := ok_of_bind hdefault
  cases hdefault
  split at h
  · rename_i heq
    cases h
    rw [hspec]
    simp only [Bool.and_eq_true, beq_iff_eq, Number.real_beq, decide_eq_true_eq] at heq
    obtain ⟨⟨hx, hy⟩, hcell⟩ := heq
    rw [Grid.spec, hx, hy, hcell]
  · obtain ⟨s, _, h⟩ := ok_of_bind h
    have hs := splineToGrid_yields s ctx
    rw [h] at hs
    exact hs.1

theorem spec_of_normalizeGrid? {g : Option (Grid ℝ)} {g' : Grid ℝ}
    (h : normalizeGrid? ctx g = .ok (some g')) : ctx.defaultGrid = .ok g'.spec := by
  cases g with
  | none => cases h
  | some g =>
    cases hn : normalizeGrid g ctx with
    | error e =>
      rw [normalizeGrid?, hn] at h
      cases h
    | ok g₁ =>
      rw [normalizeGrid?, hn] at h
      cases h
      exact spec_of_normalizeGrid hn

def SameSpec {α : Type} (g h : Option (Grid α)) : Prop :=
  ∀ g₁ h₁, g = some g₁ → h = some h₁ → g₁.spec = h₁.spec

theorem sameSpec_of_normalizeGrid? {g h g' h' : Option (Grid ℝ)}
    (hg : normalizeGrid? ctx g = .ok g') (hh : normalizeGrid? ctx h = .ok h') :
    SameSpec g' h' := by
  rintro g₁ h₁ rfl rfl
  exact Except.ok.inj ((spec_of_normalizeGrid? hg).symm.trans (spec_of_normalizeGrid? hh))

theorem uniform_pair (g h : Grid ℝ) :
    uniform ([some g, some h].filterMap id) = true ↔ g.spec = h.spec := by
  change ((h.spec == g.spec) && true) = true ↔ _
  rw [Bool.and_true, GridSpec.beq_iff]
  exact eq_comm

theorem uniform_swap (g h : Option (Grid ℝ)) :
    uniform ([h, g].filterMap id) = uniform ([g, h].filterMap id) := by
  cases g with
  | none => cases h <;> rfl
  | some g =>
    cases h with
    | none => rfl
    | some h =>
      rw [Bool.eq_iff_iff, uniform_pair, uniform_pair]
      exact eq_comm

theorem commonShape_swap {g h : Option (Grid ℝ)} {gs : List (Option (Grid ℝ))}
    (hgs : commonShape ctx [g, h] = .ok gs) :
    ∃ g' h', gs = [g', h'] ∧ commonShape ctx [h, g] = .ok [h', g'] ∧ SameSpec g' h' := by
  rw [commonShape] at hgs ⊢
  rw [uniform_swap]
  split at hgs
  · rename_i huniform
    cases hgs
    refine ⟨g, h, rfl, if_pos huniform, ?_⟩
    rintro g h rfl rfl
    exact (uniform_pair g h).mp huniform
  · rename_i huniform
    obtain ⟨g', h', hg', hh', rfl, hswap⟩ := mapM_swap hgs
    exact ⟨g', h', rfl, (if_neg huniform).trans hswap, sameSpec_of_normalizeGrid? hg' hh'⟩

theorem alignGrids_swap (h : alignGrids op [a, b] ctx = .ok r) :
    ∃ r', alignGrids op [b, a] ctx = .ok r' ∧ r.Swapped r' := by
  obtain ⟨grids, hgrids, h⟩ := ok_of_bind h
  obtain ⟨g, k, _, _, rfl, hgrids'⟩ := mapM_swap hgrids
  obtain ⟨shaped, hshaped, h⟩ := ok_of_bind h
  obtain ⟨g', k', rfl, hshaped', hspec⟩ := commonShape_swap hshaped
  simp only [alignGrids, hgrids', ok_bind, hshaped']
  rcases g' with _ | g' <;> rcases k' with _ | k'
  · cases h
  · cases h
    exact ⟨_, rfl, .intro ..⟩
  · cases h
    exact ⟨_, rfl, .intro ..⟩
  · cases h
    -- Each order takes the layout of its first grid.
    rw [hspec g' k' rfl rfl]
    exact ⟨_, rfl, .intro ..⟩

theorem pointOperand_congr {s t : Samples ℝ} (h : s.points = t.points) :
    pointOperand op s = pointOperand op t := by
  funext v
  cases v with
  | samples u => rw [pointOperand, pointOperand, Samples.samePoints, Samples.samePoints, h]
  | _ => rfl

theorem pointOperands_swap {first : Samples ℝ}
    (h : (do
      let operands ← [a, b].mapM (pointOperand op first)
      .ok { layout := .points first.points, operands }) = Except.ok r) :
    ∃ r', (do
      let operands ← [b, a].mapM (pointOperand op first)
      .ok { layout := .points first.points, operands }) = Except.ok r' ∧ r.Swapped r' := by
  obtain ⟨operands, hoperands, h⟩ := ok_of_bind h
  obtain ⟨x, y, _, _, rfl, hswap⟩ := mapM_swap hoperands
  cases h
  exact ⟨_, congrArg (· >>= _) hswap, .intro ..⟩

theorem points_of_pointOperand {s t : Samples ℝ} {x : Operand ℝ}
    (h : pointOperand op s (.samples t) = .ok x) : t.points = s.points := by
  rw [pointOperand] at h
  split at h
  · rename_i hsame
    exact Samples.points_of_samePoints hsame
  · cases h

theorem align_swap (h : align op [a, b] ctx = .ok r) :
    ∃ r', align op [b, a] ctx = .ok r' ∧ r.Swapped r' := by
  cases a with
  | scalar x =>
    cases b with
    | scalar y =>
      cases h
      exact ⟨_, rfl, .intro ..⟩
    | samples t => exact pointOperands_swap h
    | _ => exact alignGrids_swap h
  | samples s =>
    cases b with
    | scalar y => exact pointOperands_swap h
    | samples t =>
      -- Each order takes the points of its first operand.
      obtain ⟨_, hoperands, _⟩ := ok_of_bind h
      obtain ⟨_, _, _, ht, _⟩ := mapM_swap hoperands
      have hpoints := points_of_pointOperand ht
      have hswap := pointOperands_swap h
      rwa [← pointOperand_congr hpoints, ← hpoints] at hswap
    | _ => cases h
  | _ =>
    cases b with
    | samples t => cases h
    | _ => exact alignGrids_swap h

end Align

namespace Value

variable {α : Type}

def placedAs : Value α → Value α → Value α
  | .spline s, .spline t => .spline { t with coeffs := s.coeffs }
  | v, _ => v

/-- Surfaces with as many coefficients lie at the same place of the same projection. -/
def PlacedAlike : Value α → Value α → Prop
  | .spline s, .spline t => s.sameShape t = true →
    s.origin = t.origin ∧ s.orientation = t.orientation ∧ s.cell = t.cell ∧
      s.projection = t.projection
  | _, _ => True

theorem placedAs_apply [Number α] (r : Aligned α) (f : List α → α) (b : Value α) :
    (r.apply f).placedAs b = r.apply f := by
  obtain ⟨layout, operands⟩ := r
  cases layout <;> rfl

end Value

namespace BinaryOp

variable {op : BinaryOp} {a b v : Value ℝ} {ctx : Context ℝ}

theorem checkDivisor_ok (h : op.rejectsZero = false) (divisor : Operand ℝ) :
    op.checkDivisor divisor = .ok () := by
  rw [checkDivisor, h]
  rfl

theorem combineAligned_swap (hcomm : ∀ x y : ℝ, op.eval x y = op.eval y x)
    (hzero : op.rejectsZero = false) (h : combine.combineAligned op ctx a b = .ok v) :
    combine.combineAligned op ctx b a = .ok (v.placedAs b) ∧ v.placedAs b = v := by
  obtain ⟨r, hr, h⟩ := ok_of_bind h
  obtain ⟨r', hr', hswap⟩ := align_swap hr
  obtain ⟨_, _, h⟩ := ok_of_bind h
  cases h
  rw [Value.placedAs_apply]
  refine ⟨?_, rfl⟩
  simp only [combine.combineAligned, hr', ok_bind, checkDivisor_ok hzero]
  cases hswap with
  | intro layout x y =>
    have hrow (i : Nat) :
        op.eval ((Aligned.row ⟨layout, [y, x]⟩ i).getD 0 Number.absent)
            ((Aligned.row ⟨layout, [y, x]⟩ i).getD 1 Number.absent) =
          op.eval ((Aligned.row ⟨layout, [x, y]⟩ i).getD 0 Number.absent)
            ((Aligned.row ⟨layout, [x, y]⟩ i).getD 1 Number.absent) := hcomm _ _
    simp only [Aligned.apply, hrow]

theorem combine_splines_swap (hcomm : ∀ x y : ℝ, op.eval x y = op.eval y x)
    (hzero : op.rejectsZero = false) {s t : Spline ℝ} (hshape : s.sameShape t = true)
    (h : op.combine (.spline s) (.spline t) ctx = .ok v) :
    op.combine (.spline t) (.spline s) ctx = .ok (v.placedAs (.spline t)) ∧
      (v.placedAs (.spline t) = v ↔ (Value.spline s).PlacedAlike (.spline t)) := by
  obtain ⟨hcolumns, hrows⟩ := Spline.sameShape_iff.mp hshape
  have hcoeffs : Array.zipWith op.eval t.coeffs s.coeffs =
      Array.zipWith op.eval s.coeffs t.coeffs := by
    rw [Array.zipWith_comm]
    congr 1
    funext x y
    exact hcomm y x
  simp only [combine, Spline.sameShape_comm t s, hshape, if_true, checkDivisor_ok hzero, ok_bind]
    at h ⊢
  cases h
  constructor
  · rw [Spline.zipCoeffs, hcoeffs]
    rfl
  · -- Only the place is left to compare.
    simp only [Value.placedAs, Value.PlacedAlike, Spline.zipCoeffs, Value.spline.injEq,
      Spline.mk.injEq, hcolumns, hrows, hshape, true_and, true_implies]
    exact ⟨fun h => ⟨h.1.symm, h.2.1.symm, h.2.2.1.symm, h.2.2.2.symm⟩,
      fun h => ⟨h.1.symm, h.2.1.symm, h.2.2.1.symm, h.2.2.2.symm⟩⟩

/-- If a sum or a product succeeds then so does the swapped one, and they are equal just if surfaces
that combine on their coefficients lie at the same place. -/
theorem combine_swap (hop : op = .plus ∨ op = .multiply) (h : op.combine a b ctx = .ok v) :
    op.combine b a ctx = .ok (v.placedAs b) ∧ (v.placedAs b = v ↔ a.PlacedAlike b) := by
  have hcomm : ∀ x y : ℝ, op.eval x y = op.eval y x := by
    obtain rfl | rfl := hop
    · exact add_comm
    · exact mul_comm
  have hzero : op.rejectsZero = false := by
    obtain rfl | rfl := hop <;> rfl
  have aligned (hplaced : a.PlacedAlike b) (h : combine.combineAligned op ctx a b = .ok v) :
      combine.combineAligned op ctx b a = .ok (v.placedAs b) ∧
        (v.placedAs b = v ↔ a.PlacedAlike b) := by
    obtain ⟨hswap, hsame⟩ := combineAligned_swap hcomm hzero h
    exact ⟨hswap, iff_of_true hsame hplaced⟩
  cases a with
  | scalar x =>
    cases b with
    | spline t =>
      simp only [combine, checkDivisor_ok hzero, ok_bind] at h ⊢
      cases h
      simp only [hcomm x]
      exact ⟨rfl, iff_of_true rfl trivial⟩
    | _ => exact aligned trivial h
  | spline s =>
    cases b with
    | scalar y =>
      simp only [combine, checkDivisor_ok hzero, ok_bind] at h ⊢
      cases h
      simp only [hcomm y]
      exact ⟨rfl, iff_of_true rfl trivial⟩
    | spline t =>
      by_cases hshape : s.sameShape t = true
      · exact combine_splines_swap hcomm hzero hshape h
      · simp only [combine, Spline.sameShape_comm t s, if_neg hshape] at h ⊢
        exact aligned (fun h' => absurd h' hshape) h
    | _ => exact aligned trivial h
  | _ => cases b <;> exact aligned trivial h

namespace Stretched

noncomputable def narrow : Spline ℝ := .ramp .standard

noncomputable def wide : Spline ℝ := { narrow with cell := narrow.cell + narrow.cell }

noncomputable def context : Context ℝ := .standard .standard .epoch

theorem narrow_usable : narrow.Usable := Spline.ramp_usable _

theorem wide_usable : wide.Usable :=
  have hcell := narrow_usable.2.2.1
  ⟨narrow_usable.1, narrow_usable.2.1, by simpa [wide] using hcell, narrow_usable.2.2.2⟩

theorem cell_ne : narrow.cell ≠ wide.cell := by simp [narrow, wide, Spline.ramp]

end Stretched

theorem combine_swap_stretched :
    plus.combine (.spline Stretched.narrow) (.spline Stretched.wide) Stretched.context =
        .ok (.spline (Spline.zipCoeffs plus.eval Stretched.narrow Stretched.wide)) ∧
      plus.combine (.spline Stretched.wide) (.spline Stretched.narrow) Stretched.context =
        .ok (.spline { Spline.zipCoeffs plus.eval Stretched.narrow Stretched.wide with
          cell := Stretched.wide.cell }) := by
  have h : plus.combine (.spline Stretched.narrow) (.spline Stretched.wide) Stretched.context =
      .ok (.spline (Spline.zipCoeffs plus.eval Stretched.narrow Stretched.wide)) := rfl
  exact ⟨h, (combine_swap (.inl rfl) h).1⟩

/-- A sum of two surfaces has the distance of nodes of the left one. -/
theorem combine_ne_swapped :
    Stretched.narrow.Usable ∧ Stretched.wide.Usable ∧
      ∃ v, plus.combine (.spline Stretched.narrow) (.spline Stretched.wide) Stretched.context =
          .ok v ∧
        plus.combine (.spline Stretched.wide) (.spline Stretched.narrow) Stretched.context ≠
          .ok v := by
  refine ⟨Stretched.narrow_usable, Stretched.wide_usable, _, rfl, fun h => ?_⟩
  obtain ⟨_, _, _, _, _, hcell, _⟩ := Spline.mk.inj (Value.spline.inj (Except.ok.inj h))
  exact Stretched.cell_ne hcell.symm

end BinaryOp

end Synoptic
