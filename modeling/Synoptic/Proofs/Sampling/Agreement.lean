import Mathlib.Data.List.Forall2
import Synoptic.Proofs.Transfer
import Synoptic.Proofs.Typing.Alignment

/-!
Whole fields and values at the nodes of the default grid. A value of a context without points agrees
with one of the same context at the nodes if sampling takes the first to the second; values that
agree have the same operands in an alignment.
-/

namespace Synoptic

def GridSpec.nodes {α : Type} [Number α] (g : GridSpec α) : Array (Point α) :=
  tabulate g.nx g.ny g.node

structure Context.Gridded {α : Type} [Number α] (ctx : Context α) (grid : GridSpec α) : Prop where
  points : ctx.points = none
  defaultGrid : ctx.defaultGrid = .ok grid

/-- A value of whole fields and the value that it has at the nodes of a grid. -/
inductive Agrees (ctx : Context ℝ) (grid : GridSpec ℝ) : Value ℝ → Value ℝ → Prop
  | scalar (x : ℝ) : Agrees ctx grid (.scalar x) (.scalar x)
  | grid (data : Array ℝ) (h : data.size = grid.nx * grid.ny) :
    Agrees ctx grid (.grid ⟨grid.nx, grid.ny, grid.cell, data⟩) (.samples ⟨grid.nodes, data⟩)
  | spline (s : Spline ℝ) (h : s.Usable) :
    Agrees ctx grid (.spline s) (.samples ⟨grid.nodes, (s.toGrid grid ctx.projection).data⟩)

def pointwiseOperand {α : Type} [Number α] : Value α → Operand α
  | .scalar x => .const x
  | .samples s => .data s.values
  | _ => .const 0

def nodeGrid? {α : Type} (grid : GridSpec α) : Value α → Option (Grid α)
  | .samples s => some ⟨grid.nx, grid.ny, grid.cell, s.values⟩
  | _ => none

namespace Agrees

variable {ctx : Context ℝ} {grid : GridSpec ℝ} {v w : Value ℝ} {vs ws : List (Value ℝ)}

theorem isField_eq (h : Agrees ctx grid v w) : v.isField = w.isSamples := by
  cases h <;> rfl

theorem isSamples_eq (h : Agrees ctx grid v w) : v.isSamples = false := by
  cases h <;> rfl

theorem not_isField (h : Agrees ctx grid v w) : w.isField = false := by
  cases h <;> rfl

theorem points_eq {s : Samples ℝ} (h : Agrees ctx grid v (.samples s)) : s.points = grid.nodes := by
  cases h <;> rfl

theorem gridOf_eq (hg : ctx.Gridded grid) {op : String} (h : Agrees ctx grid v w) :
    gridOf op ctx v = .ok (nodeGrid? grid w) := by
  cases h with
  | scalar x => rfl
  | grid data h => rfl
  | spline s h =>
    simp only [gridOf, splineToGrid, hg.defaultGrid, Spline.ensureUsable, if_pos h]
    rfl

theorem gridOperand_eq (h : Agrees ctx grid v w) :
    gridOperand v (nodeGrid? grid w) = pointwiseOperand w := by
  cases h <;> rfl

theorem pointOperand_eq {op : String} {first : Samples ℝ} (hp : first.points = grid.nodes)
    (h : Agrees ctx grid v w) : pointOperand op first w = .ok (pointwiseOperand w) := by
  have hsame : ∀ s : Samples ℝ, s.points = grid.nodes → s.samePoints first = true := by
    intro s hs
    apply Samples.samePoints_of_eq (hs.trans hp.symm)
    intro p _
    exact ⟨by simp, by simp⟩
  cases h with
  | scalar x => rfl
  | grid data h => exact if_pos (hsame _ rfl)
  | spline s h => exact if_pos (hsame _ rfl)

theorem spec_of_nodeGrid? {g : Grid ℝ} (h : g ∈ (ws.map (nodeGrid? grid)).filterMap id) :
    g.spec = grid := by
  obtain ⟨g', hg', hid⟩ := List.mem_filterMap.mp h
  obtain ⟨w, _, rfl⟩ := List.mem_map.mp hg'
  cases w with
  | samples s => cases hid; rfl
  | _ => cases hid

theorem commonShape_eq (ws : List (Value ℝ)) :
    commonShape ctx (ws.map (nodeGrid? grid)) = .ok (ws.map (nodeGrid? grid)) := by
  have hspec : ∀ g ∈ (ws.map (nodeGrid? grid)).filterMap id, g.spec = grid :=
    fun _ => spec_of_nodeGrid?
  have huniform : uniform ((ws.map (nodeGrid? grid)).filterMap id) = true := by
    cases hgrids : (ws.map (nodeGrid? grid)).filterMap id with
    | nil => rfl
    | cons first rest =>
      rw [hgrids] at hspec
      apply List.all_eq_true.mpr
      intro g hg
      rw [hspec g (List.mem_cons_of_mem _ hg), hspec first List.mem_cons_self]
      exact (grid.beq_iff grid).mpr rfl
  exact if_pos huniform

theorem any_isField (h : List.Forall₂ (Agrees ctx grid) vs ws) :
    vs.any (·.isField) = ws.any (·.isSamples) := by
  induction h with
  | nil => rfl
  | cons hvw _ ih => rw [List.any_cons, List.any_cons, hvw.isField_eq, ih]

theorem eq_scalars (h : List.Forall₂ (Agrees ctx grid) vs ws)
    (hw : ws.any (·.isSamples) = false) :
    ∃ xs : List ℝ, vs = xs.map .scalar ∧ ws = xs.map .scalar := by
  induction h with
  | nil => exact ⟨[], rfl, rfl⟩
  | cons hvw _ ih =>
    rw [List.any_cons, Bool.or_eq_false_iff] at hw
    obtain ⟨xs, hvs, hws⟩ := ih hw.2
    cases hvw with
    | scalar x => exact ⟨x :: xs, by rw [hvs]; rfl, by rw [hws]; rfl⟩
    | grid data h => cases hw.1
    | spline s h => cases hw.1

theorem find?_isSamples_none (h : List.Forall₂ (Agrees ctx grid) vs ws) :
    vs.find? (·.isSamples) = none := by
  apply List.find?_eq_none.mpr
  intro v hv
  obtain ⟨w, _, hvw⟩ := exists_right_of_forall₂ h hv
  rw [hvw.isSamples_eq]
  exact Bool.false_ne_true

theorem find?_isField_none (h : List.Forall₂ (Agrees ctx grid) vs ws) :
    ws.find? (·.isField) = none := by
  apply List.find?_eq_none.mpr
  intro w hw
  obtain ⟨v, _, hvw⟩ := exists_left_of_forall₂ h hw
  rw [hvw.not_isField]
  exact Bool.false_ne_true

theorem filterMap_nodeGrid? {ws : List (Value ℝ)} (h : ws.any (·.isSamples) = true) :
    ∃ first rest, (ws.map (nodeGrid? grid)).filterMap id = first :: rest ∧ first.spec = grid := by
  cases hgrids : (ws.map (nodeGrid? grid)).filterMap id with
  | nil =>
    obtain ⟨w, hw, hsamples⟩ := List.any_eq_true.mp h
    cases w with
    | samples s =>
      have hm : (⟨grid.nx, grid.ny, grid.cell, s.values⟩ : Grid ℝ) ∈
          (ws.map (nodeGrid? grid)).filterMap id :=
        List.mem_filterMap.mpr ⟨_, List.mem_map.mpr ⟨_, hw, rfl⟩, rfl⟩
      rw [hgrids] at hm
      cases hm
    | _ => cases hsamples
  | cons first rest =>
    have hm : first ∈ (ws.map (nodeGrid? grid)).filterMap id := hgrids ▸ List.mem_cons_self
    exact ⟨first, rest, rfl, spec_of_nodeGrid? hm⟩

theorem zipWith_gridOperand (h : List.Forall₂ (Agrees ctx grid) vs ws) :
    List.zipWith gridOperand vs (ws.map (nodeGrid? grid)) = ws.map pointwiseOperand := by
  induction h with
  | nil => rfl
  | cons hvw _ ih =>
    rw [List.map_cons, List.zipWith_cons_cons, List.map_cons, hvw.gridOperand_eq, ih]

def wholeLayout {α : Type} (grid : GridSpec α) (ws : List (Value α)) : Layout α :=
  if ws.any (·.isSamples) then .grid grid else .scalar

def nodeLayout {α : Type} [Number α] (grid : GridSpec α) (ws : List (Value α)) : Layout α :=
  if ws.any (·.isSamples) then .points grid.nodes else .scalar

theorem align_scalars {op : String} (ctx : Context ℝ) (xs : List ℝ) :
    align op (xs.map .scalar) ctx = .ok ⟨.scalar, xs.map .const⟩ := by
  have hnone : ∀ p : Value ℝ → Bool, (∀ x, p (.scalar x) = false) →
      (xs.map Value.scalar).find? p = none := by
    intro p hp
    simp [List.find?_eq_none, hp]
  rw [align, hnone (·.isField) fun _ => rfl, hnone (·.isSamples) fun _ => rfl]
  simp [List.filterMap_map, Value.asScalar?]

theorem align_whole (hg : ctx.Gridded grid) (op : String)
    (h : List.Forall₂ (Agrees ctx grid) vs ws) :
    align op vs ctx = .ok ⟨wholeLayout grid ws, ws.map pointwiseOperand⟩ := by
  cases hany : ws.any (·.isSamples) with
  | false =>
    obtain ⟨xs, rfl, rfl⟩ := eq_scalars h hany
    rw [align_scalars, wholeLayout, hany]
    simp [pointwiseOperand, Function.comp_def]
  | true =>
    obtain ⟨field, hfield⟩ : ∃ field, vs.find? (·.isField) = some field := by
      apply Option.isSome_iff_exists.mp
      rw [List.find?_isSome, ← List.any_eq_true, any_isField h, hany]
    have hgrids : vs.mapM (gridOf op ctx) = .ok (ws.map (nodeGrid? grid)) :=
      mapM_of_forall₂ h fun _ _ hvw => hvw.gridOf_eq hg
    obtain ⟨first, rest, hlist, hspec⟩ : ∃ first rest,
        (ws.map (nodeGrid? grid)).filterMap id = first :: rest ∧ first.spec = grid :=
      filterMap_nodeGrid? hany
    rw [align, hfield, find?_isSamples_none h, wholeLayout, hany, if_pos rfl]
    simp only [alignGrids, hgrids, ok_bind, commonShape_eq]
    rw [hlist, zipWith_gridOperand h, ← hspec]

theorem align_nodes (ctx' : Context ℝ) (op : String)
    (h : List.Forall₂ (Agrees ctx grid) vs ws) :
    align op ws ctx' = .ok ⟨nodeLayout grid ws, ws.map pointwiseOperand⟩ := by
  cases hany : ws.any (·.isSamples) with
  | false =>
    obtain ⟨xs, rfl, rfl⟩ := eq_scalars h hany
    rw [align_scalars, nodeLayout, hany]
    simp [pointwiseOperand, Function.comp_def]
  | true =>
    obtain ⟨w, hw⟩ : ∃ w, ws.find? (·.isSamples) = some w := by
      apply Option.isSome_iff_exists.mp
      rw [List.find?_isSome, ← List.any_eq_true, hany]
    obtain ⟨v, _, hvw⟩ := exists_left_of_forall₂ h (List.mem_of_find?_eq_some hw)
    cases w with
    | samples first =>
      have hpoints : ws.mapM (pointOperand op first) = .ok (ws.map pointwiseOperand) := by
        apply mapM_of_mem
        intro w hw
        obtain ⟨v, _, hvw'⟩ := exists_left_of_forall₂ h hw
        exact hvw'.pointOperand_eq hvw.points_eq
      rw [align, find?_isField_none h, hw, nodeLayout, hany, if_pos rfl, ← hvw.points_eq]
      simp only [hpoints, ok_bind]
    | _ => cases List.find?_some hw

theorem apply (ctx : Context ℝ) (grid : GridSpec ℝ) (ws : List (Value ℝ))
    (operands : List (Operand ℝ)) (f : List ℝ → ℝ) :
    Agrees ctx grid (Aligned.apply ⟨wholeLayout grid ws, operands⟩ f)
      (Aligned.apply ⟨nodeLayout grid ws, operands⟩ f) := by
  cases hany : ws.any (·.isSamples) with
  | false =>
    rw [wholeLayout, nodeLayout, hany]
    exact .scalar _
  | true =>
    rw [wholeLayout, nodeLayout, hany]
    have hsize : (Layout.points grid.nodes).size = (Layout.grid grid).size := size_tabulate ..
    simp only [if_true, Aligned.apply, hsize]
    exact .grid _ (by simp [Layout.size])

theorem align_apply (hg : ctx.Gridded grid) {op : String} {ctx' : Context ℝ}
    (h : List.Forall₂ (Agrees ctx grid) vs ws) {f : List ℝ → ℝ} {v w : Value ℝ}
    (hv : (do let aligned ← align op vs ctx; .ok (aligned.apply f)) = .ok v)
    (hw : (do let aligned ← align op ws ctx'; .ok (aligned.apply f)) = .ok w) :
    Agrees ctx grid v w := by
  rw [align_whole hg op h] at hv
  rw [align_nodes ctx' op h] at hw
  cases hv
  cases hw
  exact apply ctx grid ws _ f

end Agrees

end Synoptic
