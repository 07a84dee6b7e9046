import Synoptic.Proofs.Bounds.Alignment
import Synoptic.Proofs.Bounds.Series
import Synoptic.Proofs.Typing.Operators

namespace Synoptic

variable {ε α : Type} [Number α]

structure Context.Within (N : Nat) (ctx : Context α) : Prop where
  projection : ctx.projection.Within N
  series : 2 ≤ ctx.seriesMin

/-- A value of the forms of a context, with at most `N` coefficients. -/
def Value.Proper (N : Nat) (ctx : Context α) (v : Value α) : Prop := v.Fits ctx ∧ v.Within N

theorem Yields.proper {N : Nat} {ctx : Context α} {r : Except (ValueError α) (Value α)}
    {Q Q' : ValueError α → Prop} (h : Yields r (·.Fits ctx) Q) (h' : Yields r (·.Within N) Q') :
    Yields r (·.Proper N ctx) fun _ => True :=
  (h.mono (fun _ => id) fun _ _ => True.intro).and h'

namespace Aligned

theorem apply_within (N : Nat) (a : Aligned α) (f : List α → α) : (a.apply f).Within N := by
  rw [apply_eq_hold]
  cases a.layout <;> trivial

end Aligned

theorem sample_within (N : Nat) (ctx : Context α) (f : Point α → α) :
    Yields (sample ctx f) (·.Within N) fun _ => True := by
  rw [sample]
  split
  · trivial
  · exact Yields.bind (Yields.trivial _) fun _ _ => trivial

namespace Checked

def combineAligned (op : BinaryOp) (ctx : Context α) (left right : Value α) :
    Checked (ValueError α) (Value α) := do
  let aligned ← align op.name [left, right] ctx
  inRange (op.checkDivisor (← read aligned.operands 1))
  apply aligned fun xs => do return op.eval (← read xs 0) (← read xs 1)

/-- Coefficients are combined without asking for one by its place. -/
def combine (op : BinaryOp) (left right : Value α) (ctx : Context α) :
    Checked (ValueError α) (Value α) :=
  match left, right with
  | .scalar _, .spline _ => inRange (op.combine left right ctx)
  | .spline _, .scalar _ => inRange (op.combine left right ctx)
  | .spline p, .spline q =>
    if p.sameShape q then inRange (op.combine left right ctx) else combineAligned op ctx left right
  | _, _ => combineAligned op ctx left right

end Checked

namespace BinaryOp

theorem combineAligned_within (N : Nat) (op : BinaryOp) (ctx : Context α) (left right : Value α) :
    Yields (combine.combineAligned op ctx left right) (·.Within N) fun _ => True := by
  apply Yields.bind (Yields.trivial _)
  intro aligned _
  apply Yields.bind (Yields.trivial _)
  intro _ _
  exact aligned.apply_within N _

theorem combine_within {N : Nat} (op : BinaryOp) {left right : Value α} (hl : left.Within N)
    (hr : right.Within N) (ctx : Context α) :
    Yields (op.combine left right ctx) (·.Within N) fun _ => True := by
  have hsize {s : Spline α} (h : s.Within N) (f : α → α) : (s.mapCoeffs f).Within N := by
    simpa [Spline.Within, Spline.mapCoeffs] using h
  simp only [combine]
  split
  · exact Yields.bind (Yields.trivial _) fun _ _ => hsize hr _
  · exact Yields.bind (Yields.trivial _) fun _ _ => hsize hl _
  · rename_i p q
    split
    · apply Yields.bind (Yields.trivial _)
      intro _ _
      have hp : p.coeffs.size ≤ N := hl
      change (Array.zipWith op.eval p.coeffs q.coeffs).size ≤ N
      rw [Array.size_zipWith]
      exact Nat.le_trans (Nat.min_le_left ..) hp
    · exact op.combineAligned_within N ctx _ _
  · exact op.combineAligned_within N ctx _ _

end BinaryOp

namespace Checked

section Bounded

variable {N : Nat} (hN : Number.Counts α N) {ctx : Context α} (hctx : ctx.Within N)

include hN hctx

theorem combineAligned_eq (op : BinaryOp) {left right : Value α} (hl : left.Proper N ctx)
    (hr : right.Proper N ctx) :
    combineAligned op ctx left right =
      inRange (BinaryOp.combine.combineAligned op ctx left right) := by
  have hv : ∀ v ∈ [left, right], v.Fits ctx := by simp [hl.1, hr.1]
  have hw : ∀ v ∈ [left, right], v.Within N := by simp [hl.2, hr.2]
  apply inRange_bind (align_eq hN hctx.projection hv hw) (align_covers hv)
  intro aligned h
  have hcount : 1 < aligned.operands.length := by rw [h.count]; exact Nat.one_lt_two
  rw [read_list hcount (.const 1), ok_bind]
  apply inRange_bind rfl (Yields.trivial _)
  intro _ _
  apply apply_eq h
  intro xs hxs
  have hlength : xs.length = 2 := hxs
  rw [read_list (by omega) Number.absent, read_list (by omega) Number.absent]
  rfl

theorem combine_eq (op : BinaryOp) {left right : Value α} (hl : left.Proper N ctx)
    (hr : right.Proper N ctx) : combine op left right ctx = inRange (op.combine left right ctx) := by
  have haligned := combineAligned_eq hN hctx op hl hr
  cases left with
  | spline p =>
    cases right with
    | scalar b => rfl
    | spline q =>
      by_cases hshape : p.sameShape q = true
      · rw [combine, if_pos hshape]
      · rw [combine, if_neg hshape, haligned, BinaryOp.combine, if_neg hshape]
    | _ => exact haligned
  | scalar a =>
    cases right with
    | spline s => rfl
    | _ => exact haligned
  | _ => exact haligned

end Bounded

end Checked

namespace Checked

def differentiand (op : String) (value : Value α) (ctx : Context α) :
    Checked (ValueError α) (Differentiand α) :=
  match value with
  | .grid g => .surface <$> gridToSpline g ctx
  | value => inRange (Synoptic.differentiand op value ctx)

def differentiate (op : String) (value : Value α) (ctx : Context α) (f : Derivatives α → α) :
    Checked (ValueError α) (Value α) := do
  match ← differentiand op value ctx with
  | .zero zero => .ok zero
  | .surface s =>
    sample ctx fun p => do
      return f (← derivativesAt s (ctx.projection.transfer p s.projection))

def ddx (value : Value α) (ctx : Context α) : Checked (ValueError α) (Value α) :=
  differentiate "ddx" value ctx fun d => d.fx * ctx.unitFactor

def ddy (value : Value α) (ctx : Context α) : Checked (ValueError α) (Value α) :=
  differentiate "ddy" value ctx fun d => d.fy * ctx.unitFactor

def divergence (u v : Value α) (ctx : Context α) : Checked (ValueError α) (Value α) := do
  let du ← ddx u ctx
  let dv ← ddy v ctx
  combine .plus du dv ctx

def advection (f u v : Value α) (ctx : Context α) : Checked (ValueError α) (Value α) := do
  let dx ← ddx f ctx
  let alongX ← combine .multiply u dx ctx
  let dy ← ddy f ctx
  let alongY ← combine .multiply v dy ctx
  let total ← combine .plus alongX alongY ctx
  combine .multiply total (.scalar (-1)) ctx

end Checked

theorem Spline.fit_usable {g : Grid α} (h : g.spec.Valid) (origin : Point α)
    (projection : Projection α) :
    Yields (fit g origin projection) (·.Usable) fun _ => True := by
  rw [fit]
  split
  · exact ⟨Nat.add_le_add_right h.1 2, Nat.add_le_add_right h.2.1 2, h.2.2, size_tabulate ..⟩
  · trivial

def Differentiand.Ready (N : Nat) : Differentiand α → Prop
  | .zero value => value.Within N
  | .surface s => s.Usable ∧ s.Within N

section Derivatives

variable {N : Nat} {ctx : Context α} {value : Value α}

theorem differentiand_ready (op : String) (hctx : ctx.Within N)
    (h : value.Proper N ctx.withoutPoints) :
    Yields (differentiand op value ctx) (·.Ready N) fun _ => True := by
  cases value with
  | scalar x => trivial
  | samples s => trivial
  | spline s =>
    simp only [differentiand]
    split
    · exact ⟨by assumption, h.2⟩
    · trivial
  | grid g =>
    have hspec : ctx.defaultGrid = .ok g.spec := h.1.2.1
    apply Yields.map
    apply Yields.bind (Yields.trivial _)
    intro _ _
    exact (Spline.fit_usable (Context.valid_of_defaultGrid hspec) ..).and
      (Spline.fit_within (defaultGrid_within hctx.projection hspec) ..)

theorem differentiate_within (op : String) (hctx : ctx.Within N)
    (h : value.Proper N ctx.withoutPoints) (f : Derivatives α → α) :
    Yields (differentiate op value ctx f) (·.Within N) fun _ => True := by
  apply Yields.bind (differentiand_ready op hctx h)
  intro d hd
  cases d with
  | zero value => exact hd
  | surface s => exact sample_within N ctx _

theorem differentiate_proper (op : String) (hctx : ctx.Within N)
    (h : value.Proper N ctx.withoutPoints) (f : Derivatives α → α) :
    Yields (differentiate op value ctx f) (·.Proper N ctx) fun _ => True :=
  (differentiate_yields op h.1 f).proper (differentiate_within op hctx h f)

theorem ddx_proper (hctx : ctx.Within N) (h : value.Proper N ctx.withoutPoints) :
    Yields (ddx value ctx) (·.Proper N ctx) fun _ => True := by
  rw [ddx_eq]
  exact differentiate_proper "ddx" hctx h _

theorem ddy_proper (hctx : ctx.Within N) (h : value.Proper N ctx.withoutPoints) :
    Yields (ddy value ctx) (·.Proper N ctx) fun _ => True := by
  rw [ddy_eq]
  exact differentiate_proper "ddy" hctx h _

theorem BinaryOp.combine_proper (op : BinaryOp) {left right : Value α} (hl : left.Proper N ctx)
    (hr : right.Proper N ctx) :
    Yields (op.combine left right ctx) (·.Proper N ctx) fun _ => True :=
  (op.combine_yields hl.1 hr.1).proper (op.combine_within hl.2 hr.2 ctx)

theorem divergence_within {u v : Value α} (hctx : ctx.Within N) (hu : u.Proper N ctx.withoutPoints)
    (hv : v.Proper N ctx.withoutPoints) :
    Yields (divergence u v ctx) (·.Within N) fun _ => True := by
  apply Yields.bind (ddx_proper hctx hu)
  intro du hdu
  apply Yields.bind (ddy_proper hctx hv)
  intro dv hdv
  exact BinaryOp.plus.combine_within hdu.2 hdv.2 ctx

theorem advection_within {f u v : Value α} (hctx : ctx.Within N)
    (hf : f.Proper N ctx.withoutPoints) (hu : u.Proper N ctx) (hv : v.Proper N ctx) :
    Yields (advection f u v ctx) (·.Within N) fun _ => True := by
  apply Yields.bind (ddx_proper hctx hf)
  intro dx hdx
  apply Yields.bind (BinaryOp.combine_within _ hu.2 hdx.2 ctx)
  intro alongX hx
  apply Yields.bind (ddy_proper hctx hf)
  intro dy hdy
  apply Yields.bind (BinaryOp.combine_within _ hv.2 hdy.2 ctx)
  intro alongY hy
  apply Yields.bind (BinaryOp.combine_within _ hx hy ctx)
  intro total ht
  exact BinaryOp.combine_within _ ht (by trivial) ctx

end Derivatives

namespace Checked

section Bounded

variable {N : Nat} (hN : Number.Counts α N) {ctx : Context α} (hctx : ctx.Within N)

theorem differentiand_eq (op : String) (value : Value α) (ctx : Context α) :
    differentiand op value ctx = inRange (Synoptic.differentiand op value ctx) := by
  cases value with
  | grid g => exact inRange_map (gridToSpline_eq g ctx)
  | _ => rfl

include hN hctx

theorem differentiate_eq (op : String) {value : Value α} (h : value.Proper N ctx.withoutPoints)
    (f : Derivatives α → α) :
    differentiate op value ctx f = inRange (Synoptic.differentiate op value ctx f) := by
  apply inRange_bind (differentiand_eq op value ctx) (differentiand_ready op hctx h)
  intro d hd
  cases d with
  | zero value => rfl
  | surface s =>
    apply sample_eq
    intro p
    rw [derivativesAt_eq hN hd.1 hd.2]
    rfl

theorem ddx_eq {value : Value α} (h : value.Proper N ctx.withoutPoints) :
    ddx value ctx = inRange (Synoptic.ddx value ctx) := differentiate_eq hN hctx _ h _

theorem ddy_eq {value : Value α} (h : value.Proper N ctx.withoutPoints) :
    ddy value ctx = inRange (Synoptic.ddy value ctx) := differentiate_eq hN hctx _ h _

theorem divergence_eq {u v : Value α} (hu : u.Proper N ctx.withoutPoints)
    (hv : v.Proper N ctx.withoutPoints) :
    divergence u v ctx = inRange (Synoptic.divergence u v ctx) := by
  apply inRange_bind (ddx_eq hN hctx hu) (ddx_proper hctx hu)
  intro du hdu
  apply inRange_bind (ddy_eq hN hctx hv) (ddy_proper hctx hv)
  intro dv hdv
  exact combine_eq hN hctx .plus hdu hdv

theorem advection_eq {f u v : Value α} (hf : f.Proper N ctx.withoutPoints) (hu : u.Proper N ctx)
    (hv : v.Proper N ctx) : advection f u v ctx = inRange (Synoptic.advection f u v ctx) := by
  apply inRange_bind (ddx_eq hN hctx hf) (ddx_proper hctx hf)
  intro dx hdx
  apply inRange_bind (combine_eq hN hctx .multiply hu hdx) (BinaryOp.combine_proper _ hu hdx)
  intro alongX hx
  apply inRange_bind (ddy_eq hN hctx hf) (ddy_proper hctx hf)
  intro dy hdy
  apply inRange_bind (combine_eq hN hctx .multiply hv hdy) (BinaryOp.combine_proper _ hv hdy)
  intro alongY hy
  apply inRange_bind (combine_eq hN hctx .plus hx hy) (BinaryOp.combine_proper _ hx hy)
  intro total ht
  exact combine_eq hN hctx .multiply ht ⟨trivial, trivial⟩

end Bounded

end Checked

namespace Checked

def runTernary (name : String) (f : α → α → α → α) (args : List (Value α)) (ctx : Context α) :
    Checked (ValueError α) (Value α) :=
  match args with
  | [_, _, _] => do
    let aligned ← align name args ctx
    apply aligned fun xs => do return f (← read xs 0) (← read xs 1) (← read xs 2)
  | _ => .error (.error (.arity name 3 args.length))

def vapourPressure (args : List (Value α)) (ctx : Context α) : Checked (ValueError α) (Value α) :=
  match args with
  | [_] => do
    let aligned ← align "svprs" args ctx
    match (← read aligned.operands 0).find? (· ≤ 0) with
    | some value => .error (.error (.outOfDomain "svprs" value))
    | none => apply aligned fun xs => do return saturationVapourPressure (← read xs 0)
  | _ => .error (.error (.arity "svprs" 1 args.length))

section Bounded

variable {N : Nat} (hN : Number.Counts α N) {ctx : Context α} (hctx : ctx.Within N)
  {args : List (Value α)} (hargs : ∀ v ∈ args, v.Proper N ctx)

include hN hctx hargs

theorem runTernary_eq (name : String) (f : α → α → α → α) :
    runTernary name f args ctx = inRange (Synoptic.runTernary name f args ctx) := by
  match args, hargs with
  | [x, lo, hi], hargs =>
    apply apply_align_eq hN hctx.projection (fun v hm => (hargs v hm).1) fun v hm => (hargs v hm).2
    intro xs hxs
    have hlength : xs.length = 3 := hxs
    rw [read_list (by omega) Number.absent, read_list (by omega) Number.absent,
      read_list (by omega) Number.absent]
    rfl
  | [], _ | [_], _ | [_, _], _ | _ :: _ :: _ :: _ :: _, _ => rfl

theorem vapourPressure_eq :
    vapourPressure args ctx = inRange (Synoptic.vapourPressure args ctx) := by
  match args, hargs with
  | [t], hargs =>
    have hv : ∀ v ∈ [t], v.Fits ctx := fun v hm => (hargs v hm).1
    apply inRange_bind (align_eq hN hctx.projection hv fun v hm => (hargs v hm).2) (align_covers hv)
    intro aligned h
    have hcount : 0 < aligned.operands.length := by rw [h.count]; exact Nat.one_pos
    rw [read_list hcount (.const 1), ok_bind]
    cases (aligned.operands.getD 0 (.const 1)).find? (· ≤ 0) with
    | some value => rfl
    | none =>
      apply apply_eq h
      intro xs hxs
      have hlength : xs.length = 1 := hxs
      rw [read_list (by omega) Number.absent]
      rfl
  | [], _ | _ :: _ :: _, _ => rfl

end Bounded

end Checked

end Synoptic
