import Synoptic.Proofs.Catalogue
import Synoptic.Proofs.Sampling.Arithmetic
import Synoptic.Proofs.Typing.Operators

namespace Synoptic

namespace BinaryOp

def isSurface {α : Type} : Value α → Bool
  | .spline _ => true
  | _ => false

theorem commutesWithSampling {α : Type} [Number α] {op : BinaryOp} {a b : Value α}
    (hop : op = .plus ∨ op = .multiply) (h : (isSurface a && isSurface b) = false) :
    op.CommutesWithSampling a b := by
  rcases hop with rfl | rfl <;> cases a <;> cases b <;> simp_all [CommutesWithSampling, isSurface]

theorem isSurface_of_combineAligned {α : Type} [Number α] {op : BinaryOp} {a b v : Value α}
    {ctx : Context α} (h : combine.combineAligned op ctx a b = .ok v) : isSurface v = false := by
  obtain ⟨aligned, _, h⟩ := ok_of_bind h
  obtain ⟨_, _, h⟩ := ok_of_bind h
  cases h
  simp only [Aligned.apply]
  cases aligned.layout <;> rfl

end BinaryOp

def inOrder {α β : Type} [Number α] (times : List α) (members : List β) : List (α × β) :=
  (times.zip members).mergeSort fun a b => Number.totalLE a.1 b.1

theorem tendency_ok {α : Type} [Number α] {times : List α} {members : List (Value α)}
    {ctx : Context α} {v : Value α} (h : tendency times members ctx = .ok v) :
    ∃ values, (inOrder times members).mapM (fun m => onGrid ctx m.2) = .ok values ∧
      (do
        let aligned ← align "ddt" values ctx
        .ok (aligned.apply fun xs =>
          Series.slopeAt ((inOrder times members).map Prod.fst) xs 0 / 60)) = .ok v := by
  simp only [tendency] at h
  split at h
  · cases h
  split at h
  · cases h
  split at h
  · cases h
  split at h
  · cases h
  exact ok_of_bind h

namespace Agrees

variable {ctx : Context ℝ} {grid : GridSpec ℝ} {v w : Value ℝ} {vs ws : List (Value ℝ)}

theorem sample (hg : ctx.Gridded grid) {f : Point ℝ → ℝ} (hv : sample ctx f = .ok v)
    (hw : Synoptic.sample (ctx.withPoints grid.nodes) f = .ok w) : Agrees ctx grid v w := by
  simp only [Synoptic.sample, hg.points, hg.defaultGrid, ok_bind] at hv
  simp only [Synoptic.sample, Context.withPoints, Samples.ofFn, GridSpec.nodes, map_tabulate] at hw
  cases hv
  cases hw
  exact .grid _ (size_tabulate ..)

theorem differentiate (hg : ctx.Gridded grid) {op : String} {value : Value ℝ}
    {f : Derivatives ℝ → ℝ} (hvalue : value.Fits ctx) (hv : differentiate op value ctx f = .ok v)
    (hw : Synoptic.differentiate op value (ctx.withPoints grid.nodes) f = .ok w) :
    Agrees ctx grid v w := by
  obtain ⟨d, hd, hv⟩ := ok_of_bind hv
  obtain ⟨d', hd', hw⟩ := ok_of_bind hw
  have hsame : differentiand op value (ctx.withPoints grid.nodes) = differentiand op value ctx := rfl
  rw [hsame, hd] at hd'
  cases hd'
  cases d with
  | surface s => exact sample hg hv hw
  | zero value' =>
    cases hv
    cases hw
    cases value with
    | scalar x =>
      cases hd
      exact .scalar _
    | samples s =>
      have h := hvalue.1
      rw [hg.points] at h
      cases h
    | grid g =>
      simp only [differentiand] at hd
      cases hs : gridToSpline g ctx <;> rw [hs] at hd <;> cases hd
    | spline s =>
      simp only [differentiand] at hd
      split at hd <;> cases hd

theorem ddx (hg : ctx.Gridded grid) {value : Value ℝ} (hvalue : value.Fits ctx)
    (hv : ddx value ctx = .ok v) (hw : Synoptic.ddx value (ctx.withPoints grid.nodes) = .ok w) :
    Agrees ctx grid v w := by
  rw [ddx_eq] at hv hw
  exact differentiate hg hvalue hv hw

theorem ddy (hg : ctx.Gridded grid) {value : Value ℝ} (hvalue : value.Fits ctx)
    (hv : ddy value ctx = .ok v) (hw : Synoptic.ddy value (ctx.withPoints grid.nodes) = .ok w) :
    Agrees ctx grid v w := by
  rw [ddy_eq] at hv hw
  exact differentiate hg hvalue hv hw

theorem differentiate_number {op : String} {x : ℝ} {f : Derivatives ℝ → ℝ}
    (h : Synoptic.differentiate op (.scalar x) ctx f = .ok v) : v = .scalar 0 := by
  cases h
  exact congrArg Value.scalar Number.real_zero

theorem differentiate_cases (hg : ctx.Gridded grid) {op : String} {value : Value ℝ}
    {f : Derivatives ℝ → ℝ} (hvalue : value.Fits ctx)
    (h : Synoptic.differentiate op value ctx f = .ok v) :
    (∃ x, value = .scalar x) ∨ ∃ g, v = .grid g := by
  have hsample : ∀ g : Point ℝ → ℝ, Synoptic.sample ctx g = .ok v → ∃ g, v = .grid g := by
    intro g hv
    simp only [Synoptic.sample, hg.points, hg.defaultGrid, ok_bind] at hv
    exact ⟨_, (Except.ok.inj hv).symm⟩
  cases value with
  | scalar x => exact .inl ⟨x, rfl⟩
  | samples s =>
    have hp := hvalue.1
    rw [hg.points] at hp
    cases hp
  | grid g =>
    obtain ⟨d, hd, h⟩ := ok_of_bind h
    simp only [differentiand] at hd
    cases hs : gridToSpline g ctx with
    | error e => rw [hs] at hd; cases hd
    | ok s => rw [hs] at hd; cases hd; exact .inr (hsample _ h)
  | spline s =>
    obtain ⟨d, hd, h⟩ := ok_of_bind h
    simp only [differentiand] at hd
    split at hd
    · cases hd
      exact .inr (hsample _ h)
    · cases hd

theorem isSurface_of_differentiate (hg : ctx.Gridded grid) {op : String} {value : Value ℝ}
    {f : Derivatives ℝ → ℝ} (hvalue : value.Fits ctx)
    (h : Synoptic.differentiate op value ctx f = .ok v) : BinaryOp.isSurface v = false := by
  obtain ⟨x, rfl⟩ | ⟨g, rfl⟩ := differentiate_cases hg hvalue h
  · rw [differentiate_number h]
    rfl
  · rfl

theorem divergence (hg : ctx.Gridded grid) {x y : Value ℝ} (hx : x.Fits ctx) (hy : y.Fits ctx)
    (hv : divergence x y ctx = .ok v)
    (hw : Synoptic.divergence x y (ctx.withPoints grid.nodes) = .ok w) : Agrees ctx grid v w := by
  obtain ⟨dx, hdx, hv⟩ := ok_of_bind hv
  obtain ⟨dy, hdy, hv⟩ := ok_of_bind hv
  obtain ⟨dx', hdx', hw⟩ := ok_of_bind hw
  obtain ⟨dy', hdy', hw⟩ := ok_of_bind hw
  have hc : BinaryOp.plus.CommutesWithSampling dx dy := by
    apply BinaryOp.commutesWithSampling (.inl rfl)
    rw [ddx_eq] at hdx
    rw [isSurface_of_differentiate hg hx hdx, Bool.false_and]
  exact combine hg (ddx hg hx hdx hdx') (ddy hg hy hdy hdy') hc hv hw

theorem valueAt_mul_zero {s : Spline ℝ} (hs : s.Usable) (p : Point ℝ) :
    (s.mapCoeffs fun c => BinaryOp.multiply.eval c 0).valueAt p = 0 := by
  rw [BinaryOp.valueAt_surface_number (.inr (.inr (.inl rfl))) hs 0 p]
  exact mul_zero _

theorem plus_zero (hg : ctx.Gridded grid) {ctx' : Context ℝ} {s t : Spline ℝ} (hs : s.Usable)
    (ht : t.Usable) {a b : Value ℝ}
    (ha : Agrees ctx grid (.spline (s.mapCoeffs fun c => BinaryOp.multiply.eval c 0)) a)
    (hb : Agrees ctx grid (.spline (t.mapCoeffs fun c => BinaryOp.multiply.eval c 0)) b)
    (hv : BinaryOp.plus.combine (.spline (s.mapCoeffs fun c => BinaryOp.multiply.eval c 0))
      (.spline (t.mapCoeffs fun c => BinaryOp.multiply.eval c 0)) ctx = .ok v)
    (hw : BinaryOp.plus.combine a b ctx' = .ok w) : Agrees ctx grid v w := by
  cases ha with
  | spline _ hs₀ =>
  cases hb with
  | spline _ ht₀ =>
  simp only [BinaryOp.combine] at hv
  split at hv
  · rename_i hsame
    obtain ⟨_, _, hv⟩ := ok_of_bind hv
    cases hv
    have hshape := Spline.sameShape_iff.mp hsame
    have hzero : Spline.zipCoeffs BinaryOp.plus.eval
        (s.mapCoeffs fun c => BinaryOp.multiply.eval c 0)
        (t.mapCoeffs fun c => BinaryOp.multiply.eval c 0) =
          s.mapCoeffs fun c => BinaryOp.multiply.eval c 0 := by
      simp only [Spline.zipCoeffs, Spline.mapCoeffs] at hshape ⊢
      congr 1
      apply Array.ext
      · simp [hs.2.2.2, ht.2.2.2, hshape.1, hshape.2]
      · intro i hi hi'
        simp [BinaryOp.eval]
    rw [hzero]
    apply spline_of_combine hs₀ (.spline _ hs₀) (.spline _ ht₀) rfl hw
    intro i hi
    rw [atNode_spline hi, atNode_spline hi, valueAt_mul_zero hs, valueAt_mul_zero ht]
    exact add_zero _
  · exact combineAligned hg _ (.spline _ hs₀) (.spline _ ht₀) hv hw

theorem combine_number_surface {op : BinaryOp} {x : Value ℝ} {y : ℝ}
    (h : op.combine x (.scalar y) ctx = .ok v) (hv : BinaryOp.isSurface v = true) :
    ∃ s, x = .spline s ∧ v = .spline (s.mapCoeffs fun c => op.eval c y) := by
  cases x with
  | spline s =>
    obtain ⟨_, _, h⟩ := ok_of_bind h
    cases h
    exact ⟨s, rfl, rfl⟩
  | _ =>
    rw [BinaryOp.isSurface_of_combineAligned h] at hv
    cases hv

theorem advection_number (hg : ctx.Gridded grid) {x y x' y' : Value ℝ} (hx : Agrees ctx grid x x')
    (hy : Agrees ctx grid y y') {ctx' : Context ℝ} {alongX alongY alongX' alongY' : Value ℝ}
    (hv : BinaryOp.multiply.combine x (.scalar 0) ctx = .ok alongX)
    (hv' : BinaryOp.multiply.combine x' (.scalar 0) ctx' = .ok alongX')
    (hw : BinaryOp.multiply.combine y (.scalar 0) ctx = .ok alongY)
    (hw' : BinaryOp.multiply.combine y' (.scalar 0) ctx' = .ok alongY')
    (ht : BinaryOp.plus.combine alongX alongY ctx = .ok v)
    (ht' : BinaryOp.plus.combine alongX' alongY' ctx' = .ok w) : Agrees ctx grid v w := by
  have hc (u : Value ℝ) : BinaryOp.multiply.CommutesWithSampling u (.scalar 0) :=
    BinaryOp.commutesWithSampling (.inr rfl) (Bool.and_false _)
  have hX := combine hg hx (.scalar 0) (hc x) hv hv'
  have hY := combine hg hy (.scalar 0) (hc y) hw hw'
  cases hsurface : BinaryOp.isSurface alongX && BinaryOp.isSurface alongY with
  | false => exact combine hg hX hY (BinaryOp.commutesWithSampling (.inl rfl) hsurface) ht ht'
  | true =>
    obtain ⟨hsX, hsY⟩ := Bool.and_eq_true_iff.mp hsurface
    obtain ⟨s, rfl, rfl⟩ := combine_number_surface hv hsX
    obtain ⟨t, rfl, rfl⟩ := combine_number_surface hw hsY
    cases hx with
    | spline _ hs =>
    cases hy with
    | spline _ ht₀ => exact plus_zero hg hs ht₀ hX hY ht ht'

theorem advection (hg : ctx.Gridded grid) {f x y x' y' : Value ℝ} (hf : f.Fits ctx)
    (hx : Agrees ctx grid x x') (hy : Agrees ctx grid y y') (hv : advection f x y ctx = .ok v)
    (hw : Synoptic.advection f x' y' (ctx.withPoints grid.nodes) = .ok w) :
    Agrees ctx grid v w := by
  obtain ⟨dx, hdx, hv⟩ := ok_of_bind hv
  obtain ⟨alongX, hX, hv⟩ := ok_of_bind hv
  obtain ⟨dy, hdy, hv⟩ := ok_of_bind hv
  obtain ⟨alongY, hY, hv⟩ := ok_of_bind hv
  obtain ⟨total, ht, hv⟩ := ok_of_bind hv
  obtain ⟨dx', hdx', hw⟩ := ok_of_bind hw
  obtain ⟨alongX', hX', hw⟩ := ok_of_bind hw
  obtain ⟨dy', hdy', hw⟩ := ok_of_bind hw
  obtain ⟨alongY', hY', hw⟩ := ok_of_bind hw
  obtain ⟨total', ht', hw⟩ := ok_of_bind hw
  have hdxs := ddx hg hf hdx hdx'
  have hdys := ddy hg hf hdy hdy'
  have htotal : Agrees ctx grid total total' := by
    rw [ddx_eq] at hdx
    rw [ddy_eq] at hdy
    obtain ⟨c, rfl⟩ | ⟨g, rfl⟩ := differentiate_cases hg hf hdx
    · cases differentiate_number hdx
      cases differentiate_number hdy
      cases hdxs
      cases hdys
      exact advection_number hg hx hy hX hX' hY hY' ht ht'
    · have hc : BinaryOp.multiply.CommutesWithSampling x (.grid g) :=
        BinaryOp.commutesWithSampling (.inr rfl) (Bool.and_false _)
      have hc' : BinaryOp.multiply.CommutesWithSampling y dy := by
        apply BinaryOp.commutesWithSampling (.inr rfl)
        rw [isSurface_of_differentiate hg hf hdy, Bool.and_false]
      have hsurface : BinaryOp.isSurface alongX = false := by
        apply BinaryOp.isSurface_of_combineAligned (a := x) (b := .grid g)
        cases x <;> exact hX
      apply combine hg (combine hg hx hdxs hc hX hX') (combine hg hy hdys hc' hY hY') _ ht ht'
      apply BinaryOp.commutesWithSampling (.inl rfl)
      rw [hsurface, Bool.false_and]
  exact combine hg htotal (.scalar _)
    (BinaryOp.commutesWithSampling (.inr rfl) (Bool.and_false _)) hv hw

theorem onGrid (hg : ctx.Gridded grid) {ctx' : Context ℝ} {a b : Value ℝ} (h : Agrees ctx grid a b)
    (hv : onGrid ctx a = .ok v) (hw : Synoptic.onGrid ctx' b = .ok w) : Agrees ctx grid v w := by
  cases h with
  | scalar x =>
    cases hv
    cases hw
    exact .scalar x
  | grid data h =>
    have hdefault : onDefaultGrid ⟨grid.nx, grid.ny, grid.cell, data⟩ ctx = .ok true := by
      simp [onDefaultGrid, hg.defaultGrid]
    simp only [Synoptic.onGrid, normalizeGrid, hdefault, ok_bind] at hv
    cases hv
    cases hw
    exact .grid data h
  | spline s h =>
    simp only [Synoptic.onGrid, splineToGrid, hg.defaultGrid, Spline.ensureUsable, if_pos h] at hv
    cases hv
    cases hw
    exact .grid _ (size_tabulate ..)

theorem inOrder_map {β γ : Type} (times : List ℝ) (l : List β) (f : β → γ) :
    inOrder times (l.map f) = (inOrder times l).map (Prod.map id f) := by
  rw [inOrder, inOrder, List.zip_map_right]
  symm
  apply List.map_mergeSort
  intro a _ b _
  rfl

theorem inOrder_pairs (h : List.Forall₂ (Agrees ctx grid) vs ws) {times : List ℝ}
    {t : ℝ × Value ℝ × Value ℝ} (ht : t ∈ inOrder times (vs.zip ws)) :
    Agrees ctx grid t.2.1 t.2.2 := by
  have hm : t.2 ∈ vs.zip ws := (List.of_mem_zip (List.mem_mergeSort.mp ht)).2
  exact List.forall₂_zip h hm

theorem tendency (hg : ctx.Gridded grid) {times : List ℝ}
    (h : List.Forall₂ (Agrees ctx grid) vs ws) (hv : tendency times vs ctx = .ok v)
    (hw : Synoptic.tendency times ws (ctx.withPoints grid.nodes) = .ok w) :
    Agrees ctx grid v w := by
  obtain ⟨values, hvalues, hv⟩ := tendency_ok hv
  obtain ⟨values', hvalues', hw⟩ := tendency_ok hw
  have hfst : vs = (vs.zip ws).map Prod.fst := (List.map_fst_zip h.length_eq.le).symm
  have hsnd : ws = (vs.zip ws).map Prod.snd := (List.map_snd_zip h.length_eq.ge).symm
  have horder : inOrder times vs = (inOrder times (vs.zip ws)).map (Prod.map id Prod.fst) := by
    rw [← inOrder_map, ← hfst]
  have horder' : inOrder times ws = (inOrder times (vs.zip ws)).map (Prod.map id Prod.snd) := by
    rw [← inOrder_map, ← hsnd]
  have htimes : (inOrder times vs).map Prod.fst = (inOrder times ws).map Prod.fst := by
    rw [horder, horder', List.map_map, List.map_map]
    rfl
  rw [horder, List.mapM_map] at hvalues
  rw [horder', List.mapM_map] at hvalues'
  have hagree : List.Forall₂ (Agrees ctx grid) values values' := by
    apply forall₂_of_mapM _ hvalues hvalues'
    intro t ht a b ha hb
    exact onGrid hg (inOrder_pairs h ht) ha hb
  rw [htimes] at hv
  exact align_apply hg hagree hv hw

end Agrees

/-- An argument wanted as a whole field is the same on both sides, any other one agrees. -/
def ArgumentAgrees (ctx : Context ℝ) (grid : GridSpec ℝ) (whole : Bool) (v w : Value ℝ) : Prop :=
  match whole with
  | true => v = w ∧ v.Fits ctx
  | false => Agrees ctx grid v w

def ArgumentsAgree (ctx : Context ℝ) (grid : GridSpec ℝ) :
    (Nat → Bool) → List (Value ℝ) → List (Value ℝ) → Prop
  | _, [], [] => True
  | whole, v :: vs, w :: ws =>
    ArgumentAgrees ctx grid (whole 0) v w ∧ ArgumentsAgree ctx grid (fun i => whole (i + 1)) vs ws
  | _, _, _ => False

namespace ArgumentsAgree

variable {ctx : Context ℝ} {grid : GridSpec ℝ} {whole : Nat → Bool} {vs ws : List (Value ℝ)}

theorem nil_of_length (h : ArgumentsAgree ctx grid whole vs ws) (hl : vs.length = 0) :
    vs = [] ∧ ws = [] := by
  cases vs with
  | nil =>
    cases ws with
    | nil => exact ⟨rfl, rfl⟩
    | cons w ws => cases h
  | cons v vs => cases hl

theorem cons_of_length (h : ArgumentsAgree ctx grid whole vs ws) {n : Nat}
    (hl : vs.length = n + 1) :
    ∃ v vs' w ws', vs = v :: vs' ∧ ws = w :: ws' ∧ ArgumentAgrees ctx grid (whole 0) v w ∧
      ArgumentsAgree ctx grid (fun i => whole (i + 1)) vs' ws' ∧ vs'.length = n := by
  cases vs with
  | nil => cases hl
  | cons v vs =>
    cases ws with
    | nil => cases h
    | cons w ws => exact ⟨v, vs, w, ws, rfl, rfl, h.1, h.2, Nat.succ.inj hl⟩

theorem one (h : ArgumentsAgree ctx grid whole vs ws) (hl : vs.length = 1) :
    ∃ x x', vs = [x] ∧ ws = [x'] ∧ ArgumentAgrees ctx grid (whole 0) x x' := by
  obtain ⟨x, vs, x', ws, rfl, rfl, hx, h, hl⟩ := h.cons_of_length hl
  obtain ⟨rfl, rfl⟩ := h.nil_of_length hl
  exact ⟨x, x', rfl, rfl, hx⟩

theorem two (h : ArgumentsAgree ctx grid whole vs ws) (hl : vs.length = 2) :
    ∃ x x' y y', vs = [x, y] ∧ ws = [x', y'] ∧ ArgumentAgrees ctx grid (whole 0) x x' ∧
      ArgumentAgrees ctx grid (whole 1) y y' := by
  obtain ⟨x, vs, x', ws, rfl, rfl, hx, h, hl⟩ := h.cons_of_length hl
  obtain ⟨y, y', rfl, rfl, hy⟩ := h.one hl
  exact ⟨x, x', y, y', rfl, rfl, hx, hy⟩

theorem three (h : ArgumentsAgree ctx grid whole vs ws) (hl : vs.length = 3) :
    ∃ x x' y y' z z', vs = [x, y, z] ∧ ws = [x', y', z'] ∧
      ArgumentAgrees ctx grid (whole 0) x x' ∧ ArgumentAgrees ctx grid (whole 1) y y' ∧
        ArgumentAgrees ctx grid (whole 2) z z' := by
  obtain ⟨x, vs, x', ws, rfl, rfl, hx, h, hl⟩ := h.cons_of_length hl
  obtain ⟨y, y', z, z', rfl, rfl, hy, hz⟩ := h.two hl
  exact ⟨x, x', y, y', z, z', rfl, rfl, hx, hy, hz⟩

end ArgumentsAgree

namespace Operator

variable {ctx : Context ℝ} {grid : GridSpec ℝ} {v w : Value ℝ} {vs ws : List (Value ℝ)}

theorem checkArity_ok {α : Type} {op : Operator α} {got : Nat} {u : Unit}
    (h : op.checkArity got = .ok u) : got = op.arity := by
  simp only [checkArity] at h
  split at h
  · assumption
  · cases h

theorem run_of_call {α : Type} [Number α] {name signature doc : String} {pointwise : List Bool}
    {run : List (Value α) → Context α → Except (ValueError α) (Value α)} {args : List (Value α)}
    {ctx : Context α} {v : Value α}
    (h : call ⟨name, signature, doc, pointwise, .field run⟩ args ctx = .ok v) :
    args.length = pointwise.length ∧ run args ctx = .ok v := by
  obtain ⟨_, harity, h⟩ := ok_of_bind h
  exact ⟨checkArity_ok harity, h⟩

namespace Form

theorem agrees {op : Operator ℝ} (h : op.Form) (hs : op.action.class ≠ .series)
    (hg : ctx.Gridded grid) (hargs : ArgumentsAgree ctx grid (fun i => !op.acceptsPointwise i) vs ws)
    (hlinear : ∀ b : BinaryOp, op.name = b.name → ∀ x y, vs = [x, y] → b.CommutesWithSampling x y)
    (hv : op.call vs ctx = .ok v) (hw : op.call ws (ctx.withPoints grid.nodes) = .ok w) :
    Agrees ctx grid v w := by
  cases h with
  | arithmetic op signature doc =>
    obtain ⟨hlength, hv⟩ := run_of_call hv
    obtain ⟨_, hw⟩ := run_of_call hw
    obtain ⟨x, x', y, y', rfl, rfl, hx, hy⟩ := hargs.two hlength
    exact Agrees.combine hg hx hy (hlinear op rfl x y rfl) hv hw
  | range name signature doc f =>
    obtain ⟨hlength, hv⟩ := run_of_call hv
    obtain ⟨_, hw⟩ := run_of_call hw
    obtain ⟨x, x', y, y', z, z', rfl, rfl, hx, hy, hz⟩ := hargs.three hlength
    exact Agrees.align_apply hg (.cons hx (.cons hy (.cons hz .nil))) hv hw
  | derivative name signature doc f =>
    obtain ⟨hlength, hv⟩ := run_of_call hv
    obtain ⟨_, hw⟩ := run_of_call hw
    obtain ⟨x, x', rfl, rfl, ⟨rfl, hx⟩⟩ := hargs.one hlength
    exact Agrees.differentiate hg hx hv hw
  | divergence signature doc =>
    obtain ⟨hlength, hv⟩ := run_of_call hv
    obtain ⟨_, hw⟩ := run_of_call hw
    obtain ⟨x, x', y, y', rfl, rfl, ⟨rfl, hx⟩, ⟨rfl, hy⟩⟩ := hargs.two hlength
    exact Agrees.divergence hg hx hy hv hw
  | advection signature doc =>
    obtain ⟨hlength, hv⟩ := run_of_call hv
    obtain ⟨_, hw⟩ := run_of_call hw
    obtain ⟨f, f', x, x', y, y', rfl, rfl, ⟨rfl, hf⟩, hx, hy⟩ := hargs.three hlength
    exact Agrees.advection hg hf hx hy hv hw
  | tendency signature doc => cases hs rfl
  | place name signature doc f h =>
    obtain ⟨hlength, hv⟩ := run_of_call hv
    obtain ⟨_, hw⟩ := run_of_call hw
    obtain ⟨rfl, rfl⟩ := hargs.nil_of_length hlength
    have hf : f (ctx.withPoints grid.nodes) = f ctx := h ctx _
    simp only [runPlace, hf] at hw
    exact Agrees.sample hg hv hw
  | pressure name signature doc role =>
    obtain ⟨hlength, hv⟩ := run_of_call hv
    obtain ⟨_, hw⟩ := run_of_call hw
    obtain ⟨rfl, rfl⟩ := hargs.nil_of_length hlength
    have hlevel : (ctx.withPoints grid.nodes).levelFor role = ctx.levelFor role := by
      cases role <;> rfl
    simp only [runPressure, hlevel] at hv hw
    cases hv.symm.trans hw
    simp only [pressureOf] at hv
    split at hv
    · cases hv
      exact .scalar _
    · cases hv
  | elementary name f =>
    obtain ⟨_, harity, hv⟩ := ok_of_bind hv
    obtain ⟨_, _, hw⟩ := ok_of_bind hw
    obtain ⟨x, x', rfl, rfl, hx⟩ := hargs.one (checkArity_ok harity)
    exact Agrees.align_apply hg (.cons hx .nil) hv hw
  | vapour signature doc =>
    obtain ⟨hlength, hv⟩ := run_of_call hv
    obtain ⟨_, hw⟩ := run_of_call hw
    obtain ⟨x, x', rfl, rfl, hx⟩ := hargs.one hlength
    have h : List.Forall₂ (Agrees ctx grid) [x] [x'] := .cons hx .nil
    simp only [vapourPressure, Agrees.align_whole hg _ h, Agrees.align_nodes _ _ h, ok_bind] at hv hw
    split at hv
    · cases hv
    · split at hw
      · cases hw
      · cases hv
        cases hw
        exact Agrees.apply ctx grid _ _ _

theorem series_agrees {op : Operator ℝ} (h : op.Form) (hs : op.action.class = .series)
    (hg : ctx.Gridded grid) (hmembers : List.Forall₂ (Agrees ctx grid) vs ws) {times : List ℝ}
    (hv : op.callSeries times vs ctx = .ok v)
    (hw : op.callSeries times ws (ctx.withPoints grid.nodes) = .ok w) : Agrees ctx grid v w := by
  cases h with
  | tendency signature doc => exact Agrees.tendency hg hmembers hv hw
  | _ => cases hs

end Form

end Operator

end Synoptic
