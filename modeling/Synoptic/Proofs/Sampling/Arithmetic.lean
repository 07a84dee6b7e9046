import Synoptic.Operator.Arithmetic
import Synoptic.Proofs.Sampling.Agreement
import Synoptic.Proofs.Spline.Linear

namespace Synoptic

def Spline.SamePlace {α : Type} [Number α] (s t : Spline α) : Prop :=
  s.origin = t.origin ∧ s.orientation = t.orientation ∧ s.cell = t.cell ∧
    s.projection.sameMap t.projection = true

/-- Arithmetic of two values that is done on coefficients is linear in the values of surfaces. -/
def BinaryOp.CommutesWithSampling {α : Type} [Number α] (op : BinaryOp) : Value α → Value α → Prop
  | .scalar _, .spline _ => op = .plus ∨ op = .minus ∨ op = .multiply
  | .spline _, .scalar _ => op = .plus ∨ op = .minus ∨ op = .multiply ∨ op = .divide
  | .spline s, .spline t => s.sameShape t = true → (op = .plus ∨ op = .minus) ∧ s.SamePlace t
  | _, _ => True

namespace Spline

theorem usable_mapCoeffs {s : Spline ℝ} (hs : s.Usable) (f : ℝ → ℝ) : (s.mapCoeffs f).Usable := by
  obtain ⟨hc, hr, hcell, hsize⟩ := hs
  exact ⟨hc, hr, hcell, by simp [mapCoeffs, hsize]⟩

theorem usable_zipCoeffs {s t : Spline ℝ} (hs : s.Usable) (ht : t.Usable)
    (hshape : s.columns = t.columns ∧ s.rows = t.rows) (f : ℝ → ℝ → ℝ) :
    (zipCoeffs f s t).Usable := by
  obtain ⟨hc, hr, hcell, hsize⟩ := hs
  exact ⟨hc, hr, hcell, by simp [zipCoeffs, hsize, ht.2.2.2, hshape.1, hshape.2]⟩

theorem toNodes_of_samePlace {s t : Spline ℝ} (h : s.SamePlace t) : s.toNodes = t.toNodes := by
  obtain ⟨horigin, horientation, hcell, _⟩ := h
  funext p
  simp only [toNodes, horigin, horientation, hcell]

end Spline

namespace BinaryOp

variable {op : BinaryOp}

theorem valueAt_number_surface (h : op = .plus ∨ op = .minus ∨ op = .multiply) {s : Spline ℝ}
    (hs : s.Usable) (x : ℝ) (p : Point ℝ) :
    (s.mapCoeffs fun c => op.eval x c).valueAt p = op.eval x (s.valueAt p) := by
  have affine (a b : ℝ) (hab : ∀ c, op.eval x c = a * c + b) :
      (s.mapCoeffs fun c => op.eval x c).valueAt p = op.eval x (s.valueAt p) := by
    rw [funext hab, Spline.valueAt_mapCoeffs hs]
  obtain rfl | rfl | rfl := h
  · exact affine 1 x fun c => by simp only [eval]; ring
  · exact affine (-1) x fun c => by simp only [eval]; ring
  · exact affine x 0 fun c => by simp only [eval]; ring

theorem valueAt_surface_number
    (h : op = .plus ∨ op = .minus ∨ op = .multiply ∨ op = .divide) {s : Spline ℝ}
    (hs : s.Usable) (x : ℝ) (p : Point ℝ) :
    (s.mapCoeffs fun c => op.eval c x).valueAt p = op.eval (s.valueAt p) x := by
  have affine (a b : ℝ) (hab : ∀ c, op.eval c x = a * c + b) :
      (s.mapCoeffs fun c => op.eval c x).valueAt p = op.eval (s.valueAt p) x := by
    rw [funext hab, Spline.valueAt_mapCoeffs hs, hab]
  obtain rfl | rfl | rfl | rfl := h
  · exact affine 1 x fun c => by simp only [eval]; ring
  · exact affine 1 (-x) fun c => by simp only [eval]; ring
  · exact affine x 0 fun c => by simp only [eval]; ring
  · exact affine (1 / x) 0 fun c => by simp only [eval]; ring

theorem valueAt_surfaces (h : op = .plus ∨ op = .minus) {s t : Spline ℝ} (hs : s.Usable)
    (ht : t.Usable) (hshape : s.columns = t.columns ∧ s.rows = t.rows) (hplace : s.SamePlace t)
    (p : Point ℝ) :
    (Spline.zipCoeffs op.eval s t).valueAt p = op.eval (s.valueAt p) (t.valueAt p) := by
  have linear (a b : ℝ) (hab : op.eval = fun x y => a * x + b * y) :
      (Spline.zipCoeffs op.eval s t).valueAt p = op.eval (s.valueAt p) (t.valueAt p) := by
    rw [hab, Spline.valueAt_zipCoeffs hs ht hshape a b (Spline.toNodes_of_samePlace hplace)]
  obtain rfl | rfl := h
  · exact linear 1 1 (by funext x y; simp only [eval]; ring)
  · exact linear 1 (-1) (by funext x y; simp only [eval]; ring)

end BinaryOp

namespace Agrees

variable {ctx ctx' : Context ℝ} {grid : GridSpec ℝ} {a b a' b' v w : Value ℝ}

def atNode {α : Type} [Number α] (w : Value α) (i : Nat) : α := (pointwiseOperand w).elem i

theorem atNode_spline {s : Spline ℝ} {i : Nat} (hi : i < grid.nx * grid.ny) :
    atNode (.samples ⟨grid.nodes, (s.toGrid grid ctx.projection).data⟩) i =
      s.valueAt (ctx.projection.transfer (grid.node (i % grid.nx) (i / grid.nx)) s.projection) :=
  read_tabulate _ hi

theorem spline_of_values {s : Spline ℝ} (hs : s.Usable) {data : Array ℝ}
    (hsize : data.size = grid.nx * grid.ny)
    (h : ∀ i (hi : i < data.size), data[i] =
      s.valueAt (ctx.projection.transfer (grid.node (i % grid.nx) (i / grid.nx)) s.projection)) :
    Agrees ctx grid (.spline s) (.samples ⟨grid.nodes, data⟩) := by
  have hdata : data = (s.toGrid grid ctx.projection).data := by
    apply Array.ext
    · rw [hsize]
      exact (size_tabulate ..).symm
    · intro i hi hi'
      rw [h i hi]
      exact (getElem_tabulate _ hi').symm
  rw [hdata]
  exact .spline s hs

theorem combineAligned (hg : ctx.Gridded grid) (op : BinaryOp) (ha : Agrees ctx grid a a')
    (hb : Agrees ctx grid b b') (hv : BinaryOp.combine.combineAligned op ctx a b = .ok v)
    (hw : BinaryOp.combine.combineAligned op ctx' a' b' = .ok w) : Agrees ctx grid v w := by
  have h : List.Forall₂ (Agrees ctx grid) [a, b] [a', b'] := .cons ha (.cons hb .nil)
  simp only [BinaryOp.combine.combineAligned, align_whole hg op.name h, align_nodes ctx' op.name h,
    ok_bind] at hv hw
  obtain ⟨_, _, hv⟩ := ok_of_bind hv
  obtain ⟨_, _, hw⟩ := ok_of_bind hw
  cases hv
  cases hw
  exact apply ctx grid _ _ _

theorem combineAligned_nodes {op : BinaryOp} (ha : Agrees ctx grid a a') (hb : Agrees ctx grid b b')
    (hsamples : (a'.isSamples || b'.isSamples) = true)
    (hw : BinaryOp.combine.combineAligned op ctx' a' b' = .ok w) :
    w = .samples ⟨grid.nodes,
      (Array.range (grid.nx * grid.ny)).map fun i => op.eval (atNode a' i) (atNode b' i)⟩ := by
  have h : List.Forall₂ (Agrees ctx grid) [a, b] [a', b'] := .cons ha (.cons hb .nil)
  have hany : [a', b'].any (·.isSamples) = true := by simpa using hsamples
  have hsize : (Layout.points grid.nodes).size = grid.nx * grid.ny := size_tabulate ..
  simp only [BinaryOp.combine.combineAligned, align_nodes ctx' op.name h, ok_bind] at hw
  obtain ⟨_, _, hw⟩ := ok_of_bind hw
  cases hw
  simp only [nodeLayout, hany, if_true, Aligned.apply, hsize]
  rfl

theorem spline_of_combine {op : BinaryOp} {s : Spline ℝ} (hs : s.Usable)
    (ha : Agrees ctx grid a a') (hb : Agrees ctx grid b b')
    (hsamples : (a'.isSamples || b'.isSamples) = true)
    (hw : BinaryOp.combine.combineAligned op ctx' a' b' = .ok w)
    (h : ∀ i < grid.nx * grid.ny, op.eval (atNode a' i) (atNode b' i) =
      s.valueAt (ctx.projection.transfer (grid.node (i % grid.nx) (i / grid.nx)) s.projection)) :
    Agrees ctx grid (.spline s) w := by
  rw [combineAligned_nodes ha hb hsamples hw]
  apply spline_of_values hs
  · simp
  · intro i hi
    rw [Array.getElem_map, Array.getElem_range]
    exact h i (by simpa using hi)

theorem combine (hg : ctx.Gridded grid) {op : BinaryOp} (ha : Agrees ctx grid a a')
    (hb : Agrees ctx grid b b') (hc : op.CommutesWithSampling a b)
    (hv : op.combine a b ctx = .ok v) (hw : op.combine a' b' ctx' = .ok w) :
    Agrees ctx grid v w := by
  cases ha with
  | scalar x =>
    cases hb with
    | scalar y => exact combineAligned hg op (.scalar x) (.scalar y) hv hw
    | grid data h => exact combineAligned hg op (.scalar x) (.grid data h) hv hw
    | spline s hs =>
      obtain ⟨_, _, hv⟩ := ok_of_bind hv
      cases hv
      apply spline_of_combine (Spline.usable_mapCoeffs hs _) (.scalar x) (.spline s hs) rfl hw
      intro i hi
      rw [atNode_spline hi]
      exact (BinaryOp.valueAt_number_surface hc hs x _).symm
  | grid data h =>
    cases hb with
    | scalar y => exact combineAligned hg op (.grid data h) (.scalar y) hv hw
    | grid data' h' => exact combineAligned hg op (.grid data h) (.grid data' h') hv hw
    | spline s hs => exact combineAligned hg op (.grid data h) (.spline s hs) hv hw
  | spline s hs =>
    cases hb with
    | scalar y =>
      obtain ⟨_, _, hv⟩ := ok_of_bind hv
      cases hv
      apply spline_of_combine (Spline.usable_mapCoeffs hs _) (.spline s hs) (.scalar y) rfl hw
      intro i hi
      rw [atNode_spline hi]
      exact (BinaryOp.valueAt_surface_number hc hs y _).symm
    | grid data h => exact combineAligned hg op (.spline s hs) (.grid data h) hv hw
    | spline t ht =>
      simp only [BinaryOp.combine] at hv
      split at hv
      · rename_i hsame
        obtain ⟨hop, hplace⟩ := hc hsame
        have hshape := Spline.sameShape_iff.mp hsame
        obtain ⟨_, _, hv⟩ := ok_of_bind hv
        cases hv
        apply spline_of_combine (Spline.usable_zipCoeffs hs ht hshape _) (.spline s hs)
          (.spline t ht) rfl hw
        intro i hi
        rw [atNode_spline hi, atNode_spline hi]
        rw [← Projection.transfer_eq_of_sameMap hplace.2.2.2]
        exact (BinaryOp.valueAt_surfaces hop hs ht hshape hplace _).symm
      · exact combineAligned hg op (.spline s hs) (.spline t ht) hv hw

end Agrees

end Synoptic
