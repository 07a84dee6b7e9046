import Synoptic.Proofs.Alignment.Operands
import Synoptic.Proofs.Binary64.Defined
import Synoptic.Proofs.Catalogue
import Synoptic.Proofs.Refusal.Operators
import Synoptic.Proofs.Sampling.Agreement
import Synoptic.Proofs.Spline.Interpolation

namespace Synoptic

variable {α : Type} [Number α]

def Value.listed (grid : GridSpec α) : Value α → Value α
  | .grid g => .samples ⟨grid.nodes, g.data⟩
  | v => v

inductive OverGrid (grid : GridSpec α) : Value α → Prop
  | number (x : α) : OverGrid grid (.scalar x)
  | field (data : Array α) (h : data.size = grid.nx * grid.ny) :
    OverGrid grid (.grid ⟨grid.nx, grid.ny, grid.cell, data⟩)

def Value.Differentiable : Value α → Prop
  | .scalar _ => True
  | .grid g => Spline.Fittable g
  | .spline s => s.Usable
  | .samples _ => False

/-- Two computations, the one over a grid and the other at its nodes, that succeed where the condition
holds, with a field or a number over the grid and its values at the nodes, and fail alike where it does
not. -/
inductive ListsTo (grid : GridSpec α) (condition : Prop) (isField : Bool) :
    Except (ValueError α) (Value α) → Except (ValueError α) (Value α) → Prop
  | error (e : ValueError α) (h : ¬ condition) : ListsTo grid condition isField (.error e) (.error e)
  | ok (v : Value α) (h : condition) (hv : OverGrid grid v) (hfield : v.isField = isField) :
    ListsTo grid condition isField (.ok v) (.ok (v.listed grid))

namespace ListsTo

variable {grid : GridSpec α} {condition : Prop} {isField : Bool}
  {r r' : Except (ValueError α) (Value α)}

theorem eq_map (h : ListsTo grid condition isField r r') : r' = r.map (Value.listed grid) := by
  cases h <;> rfl

theorem succeeds_iff (h : ListsTo grid condition isField r r') : (∃ v, r = .ok v) ↔ condition := by
  cases h with
  | error e h => exact iff_of_false nofun h
  | ok v h _ _ => exact iff_of_true ⟨v, rfl⟩ h

theorem overGrid {v : Value α} (h : ListsTo grid condition isField r r') (hr : r = .ok v) :
    OverGrid grid v ∧ v.isField = isField := by
  cases h with
  | error e h => cases hr
  | ok v h hv hfield =>
    cases hr
    exact ⟨hv, hfield⟩

theorem congr {condition' : Prop} {isField' : Bool} (h : ListsTo grid condition isField r r')
    (hcondition : condition ↔ condition') (hfield : isField = isField') :
    ListsTo grid condition' isField' r r' := by
  rwa [← hcondition, ← hfield]

end ListsTo

structure GridSpec.Defined (grid : GridSpec α) : Prop where
  beq_self : (grid == grid) = true
  nodes : ∀ p ∈ grid.nodes, p.Defined

section Sum

variable {grid : GridSpec α} {v w : Value α} {ctx : Context α}

theorem Aligned.apply_listed (operands : List (Operand α)) (f : List α → α) :
    Aligned.apply ⟨.points grid.nodes, operands⟩ f =
      (Aligned.apply ⟨.grid grid, operands⟩ f).listed grid := by
  simp only [Aligned.apply, Value.listed, Layout.size, GridSpec.nodes, size_tabulate]
  rfl

theorem Aligned.apply_overGrid (grid : GridSpec α) (operands : List (Operand α))
    (f : List α → α) :
    OverGrid grid (Aligned.apply ⟨.grid grid, operands⟩ f) :=
  .field _ (by simp [Layout.size])

theorem align_overGrid (hgrid : grid.Defined) (hv : OverGrid grid v) (hw : OverGrid grid w)
    (op : String) (ctx : Context α) :
    align op [v, w] ctx =
      .ok ⟨if v.isField || w.isField then .grid grid else .scalar, [v.operand, w.operand]⟩ := by
  cases hv with
  | number x =>
    cases hw with
    | number y => rfl
    | field data h => rfl
  | field data h =>
    cases hw with
    | number y => rfl
    | field data' h' =>
      have huniform : uniform [(⟨grid.nx, grid.ny, grid.cell, data⟩ : Grid α),
          ⟨grid.nx, grid.ny, grid.cell, data'⟩] = true := by
        rw [uniform, List.all_cons, List.all_nil, Bool.and_true]
        exact hgrid.beq_self
      have hshape : commonShape ctx [some (⟨grid.nx, grid.ny, grid.cell, data⟩ : Grid α),
          some ⟨grid.nx, grid.ny, grid.cell, data'⟩] = .ok [some ⟨grid.nx, grid.ny, grid.cell, data⟩,
            some ⟨grid.nx, grid.ny, grid.cell, data'⟩] := if_pos huniform
      change alignGrids _ _ _ = _
      simp only [alignGrids, List.mapM_cons, List.mapM_nil, gridOf, ok_bind, hshape, pure_bind]
      rfl

theorem pointOperand_listed (hgrid : grid.Defined) (hv : OverGrid grid v) (op : String)
    {first : Samples α} (hfirst : first.points = grid.nodes) :
    pointOperand op first (v.listed grid) = .ok v.operand := by
  cases hv with
  | number x => rfl
  | field data h => exact if_pos (Samples.samePoints_of_eq hfirst.symm hgrid.nodes)

theorem align_listed (hgrid : grid.Defined) (hv : OverGrid grid v) (hw : OverGrid grid w)
    (op : String) (ctx : Context α) :
    align op [v.listed grid, w.listed grid] ctx =
      .ok ⟨if v.isField || w.isField then .points grid.nodes else .scalar,
        [v.operand, w.operand]⟩ := by
  cases hfield : v.isField || w.isField with
  | false =>
    cases hv with
    | number x =>
      cases hw with
      | number y => rfl
      | field data h => cases hfield
    | field data h => cases hfield
  | true =>
    have hnone : [v.listed grid, w.listed grid].find? (·.isField) = none := by
      cases hv <;> cases hw <;> rfl
    obtain ⟨first, hfind, hfirst⟩ : ∃ first : Samples α,
        [v.listed grid, w.listed grid].find? (·.isSamples) = some (.samples first) ∧
          first.points = grid.nodes := by
      cases hv with
      | field data h => exact ⟨_, rfl, rfl⟩
      | number x =>
        cases hw with
        | number y => cases hfield
        | field data h => exact ⟨_, rfl, rfl⟩
    simp only [align, hnone, hfind, List.mapM_cons, List.mapM_nil,
      pointOperand_listed hgrid hv op hfirst, pointOperand_listed hgrid hw op hfirst, ok_bind,
      pure_bind, hfirst]
    rfl

variable (hgrid : grid.Defined) (hv : OverGrid grid v) (hw : OverGrid grid w)

include hgrid hv hw

theorem plus_listsTo (ctx : Context α) :
    ListsTo grid True (v.isField || w.isField)
      (BinaryOp.plus.combine v w ctx.withoutPoints)
      (BinaryOp.plus.combine (v.listed grid) (w.listed grid) (ctx.withPoints grid.nodes)) := by
  have hwhole : BinaryOp.plus.combine v w ctx.withoutPoints =
      BinaryOp.combine.combineAligned .plus ctx.withoutPoints v w := by
    cases hv <;> cases hw <;> rfl
  have hnodes : BinaryOp.plus.combine (v.listed grid) (w.listed grid) (ctx.withPoints grid.nodes) =
      BinaryOp.combine.combineAligned .plus (ctx.withPoints grid.nodes) (v.listed grid)
        (w.listed grid) := by
    cases hv <;> cases hw <;> rfl
  rw [hwhole, hnodes, BinaryOp.combine.combineAligned, BinaryOp.combine.combineAligned,
    align_overGrid hgrid hv hw, align_listed hgrid hv hw]
  cases v.isField || w.isField with
  | false => exact .ok _ trivial (.number _) rfl
  | true =>
    have hover := Aligned.apply_overGrid grid [v.operand, w.operand] fun xs =>
      BinaryOp.plus.eval (xs.getD 0 Number.absent) (xs.getD 1 Number.absent)
    have hlisted := ListsTo.ok _ trivial hover rfl
    rwa [← Aligned.apply_listed] at hlisted

end Sum

/-! ### Positions -/

section Position

variable {ctx : Context α} {grid : GridSpec α} (hdefault : ctx.defaultGrid = .ok grid)

include hdefault

theorem sample_listsTo (f : Point α → α) :
    ListsTo grid True true (sample ctx.withoutPoints f) (sample (ctx.withPoints grid.nodes) f) := by
  have hwhole : sample ctx.withoutPoints f =
      .ok (.grid (.ofFn grid fun ix iy => f (grid.node ix iy))) := by
    have hdefault : ctx.withoutPoints.defaultGrid = .ok grid := hdefault
    change (ctx.withoutPoints.defaultGrid >>= _) = _
    rw [hdefault]
    rfl
  have hnodes : sample (ctx.withPoints grid.nodes) f =
      .ok (Value.listed grid (.grid (.ofFn grid fun ix iy => f (grid.node ix iy)))) := by
    change Except.ok (Value.samples (.ofFn grid.nodes f)) = _
    rw [Samples.ofFn, GridSpec.nodes, map_tabulate]
    rfl
  rw [hwhole, hnodes]
  exact .ok _ trivial (.field _ (size_tabulate ..)) rfl

theorem surface_listsTo (s : Spline α) (f : Derivatives α → α) :
    ListsTo grid True true
      (sample ctx.withoutPoints fun p => f (s.derivativesAt (ctx.projection.transfer p s.projection)))
      (sample (ctx.withPoints grid.nodes) fun p =>
        f (s.derivativesAt (ctx.projection.transfer p s.projection))) :=
  sample_listsTo hdefault _

theorem differentiate_listsTo (op : String) {v : Value α} (hv : v.isSamples = false)
    (f : Derivatives α → α) :
    ListsTo grid v.Differentiable v.isField (differentiate op v ctx.withoutPoints f)
      (differentiate op v (ctx.withPoints grid.nodes) f) := by
  cases v with
  | samples s => cases hv
  | scalar x => exact .ok _ trivial (.number _) rfl
  | grid g =>
    have hsurface : ∀ points, gridToSpline g { ctx with points } =
        Spline.fit g .origin ctx.projection := by
      intro points
      have hdefault : { ctx with points }.defaultGrid = .ok grid := hdefault
      rw [gridToSpline, hdefault]
      rfl
    rw [differentiate, differentiate, differentiand, differentiand, Context.withoutPoints,
      Context.withPoints, hsurface, hsurface]
    by_cases hg : Spline.Fittable g
    · rw [Spline.fit_of_fittable hg]
      exact (surface_listsTo hdefault _ f).congr (iff_of_true trivial hg) rfl
    · rw [Spline.fit, if_neg hg]
      exact .error _ hg
  | spline s =>
    rw [differentiate, differentiate, differentiand, differentiand]
    by_cases hs : s.Usable
    · rw [if_pos hs]
      exact (surface_listsTo hdefault s f).congr (iff_of_true trivial hs) rfl
    · rw [if_neg hs]
      exact .error _ hs

variable (hgrid : grid.Defined)

include hgrid

theorem divergence_listsTo {u v : Value α} (hu : u.isSamples = false) (hv : v.isSamples = false) :
    ListsTo grid (u.Differentiable ∧ v.Differentiable) (u.isField || v.isField)
      (divergence u v ctx.withoutPoints) (divergence u v (ctx.withPoints grid.nodes)) := by
  have hx := differentiate_listsTo hdefault "ddx" hu fun d => d.fx * ctx.unitFactor
  have hy := differentiate_listsTo hdefault "ddy" hv fun d => d.fy * ctx.unitFactor
  change ListsTo _ _ _ (ddx u ctx.withoutPoints) (ddx u (ctx.withPoints grid.nodes)) at hx
  change ListsTo _ _ _ (ddy v ctx.withoutPoints) (ddy v (ctx.withPoints grid.nodes)) at hy
  rw [divergence, divergence]
  generalize ddx u ctx.withoutPoints = du, ddx u (ctx.withPoints grid.nodes) = du' at hx ⊢
  generalize ddy v ctx.withoutPoints = dv, ddy v (ctx.withPoints grid.nodes) = dv' at hy ⊢
  cases hx with
  | error e h => exact .error e fun hboth => h hboth.1
  | ok x hdu hxgrid hxfield =>
    cases hy with
    | error e h => exact .error e fun hboth => h hboth.2
    | ok y hdv hygrid hyfield =>
      rw [← hxfield, ← hyfield]
      exact (plus_listsTo hgrid hxgrid hygrid ctx).congr (iff_of_true trivial ⟨hdu, hdv⟩) rfl

end Position

/-! ### Operators -/

namespace Operator

/-- A call for the positions at the nodes of the default grid comes to the list of the values that the
call for the grid comes to. -/
def ListsNodes (o : Operator α) (ctx : Context α) (grid : GridSpec α) : Prop :=
  ∀ args : List (Value α), (∀ v ∈ args, v.isSamples = false) →
    ListsTo grid (args.length = o.arity ∧ ∀ v ∈ args, v.Differentiable)
      (args.isEmpty || args.any (·.isField)) (o.call args ctx.withoutPoints)
      (o.call args (ctx.withPoints grid.nodes))

variable {ctx : Context α} {grid : GridSpec α} (hdefault : ctx.defaultGrid = .ok grid)

theorem listsNodes_of_run {o : Operator α}
    {run : List (Value α) → Context α → Except (ValueError α) (Value α)}
    (haction : o.action = .field run)
    (hrun : ∀ args : List (Value α), (∀ v ∈ args, v.isSamples = false) → args.length = o.arity →
      ListsTo grid (∀ v ∈ args, v.Differentiable) (args.isEmpty || args.any (·.isField))
        (run args ctx.withoutPoints) (run args (ctx.withPoints grid.nodes))) :
    o.ListsNodes ctx grid := by
  intro args hargs
  by_cases h : args.length = o.arity
  · rw [call_field haction h, call_field haction h]
    exact (hrun args hargs h).congr (by simp [h]) rfl
  · have hcall : ∀ ctx, o.call args ctx = .error (.arity o.name o.arity args.length) := by
      intro ctx
      rw [call, haction]
      simp only [checkArity, if_neg h]
      rfl
    rw [hcall, hcall]
    exact .error _ fun hboth => h hboth.1

include hdefault

theorem derivative_listsNodes (name signature doc : String) (f : α → Derivatives α → α) :
    ListsNodes ⟨name, signature, doc, [false],
      .field (runUnary name fun v ctx => differentiate name v ctx (f ctx.unitFactor))⟩ ctx grid := by
  refine listsNodes_of_run rfl fun args hargs hlength => ?_
  obtain ⟨v, rfl⟩ := List.length_eq_one_iff.mp hlength
  have hv := hargs v List.mem_cons_self
  exact (differentiate_listsTo hdefault name hv (f ctx.unitFactor)).congr (by simp) (by simp)

theorem divergence_listsNodes (hgrid : grid.Defined) (signature doc : String) :
    ListsNodes ⟨"divrg", signature, doc, [false, false], .field runDivergence⟩ ctx grid := by
  refine listsNodes_of_run rfl fun args hargs hlength => ?_
  obtain ⟨u, v, rfl⟩ := List.length_eq_two.mp hlength
  have hu := hargs u List.mem_cons_self
  have hv := hargs v (List.mem_cons_of_mem u List.mem_cons_self)
  exact (divergence_listsTo hdefault hgrid hu hv).congr (by simp) (by simp)

theorem place_listsNodes (name signature doc : String) (f : Context α → Point α → α)
    (hf : ∀ points, f { ctx with points } = f ctx) :
    ListsNodes ⟨name, signature, doc, [], .field (runPlace name f)⟩ ctx grid := by
  refine listsNodes_of_run rfl fun args hargs hlength => ?_
  cases List.eq_nil_of_length_eq_zero hlength
  have hwhole : f ctx.withoutPoints = f ctx := hf none
  have hnodes : f (ctx.withPoints grid.nodes) = f ctx := hf (some grid.nodes)
  rw [runPlace, runPlace, hwhole, hnodes]
  exact (sample_listsTo hdefault (f ctx)).congr (by simp) rfl

theorem listsNodes_of_mem (hgrid : grid.Defined) :
    ∀ o ∈ derivativeOperators ++ placeOperators ++ solarOperators, o.name ≠ "advct" →
      o.ListsNodes ctx grid := by
  simp only [derivativeOperators, placeOperators, solarOperators, List.cons_append, List.nil_append,
    List.forall_mem_cons]
  exact ⟨fun _ => derivative_listsNodes hdefault _ _ _ fun k d => d.fx * k,
    fun _ => derivative_listsNodes hdefault _ _ _ fun k d => d.fy * k,
    fun _ => derivative_listsNodes hdefault _ _ _ fun k d => Spline.isolineCurvature d * k,
    fun _ => derivative_listsNodes hdefault _ _ _ fun k d => (d.fxx + d.fyy) * k * k,
    fun _ => divergence_listsNodes hdefault hgrid _ _, fun h => absurd rfl h,
    fun _ => place_listsNodes hdefault _ _ _ _ fun _ => rfl,
    fun _ => place_listsNodes hdefault _ _ _ _ fun _ => rfl,
    fun _ => place_listsNodes hdefault _ _ _ _ fun _ => rfl,
    fun _ => place_listsNodes hdefault _ _ _ _ fun _ => rfl, by simp⟩

end Operator

/-! ### Binary64 -/

theorem GridSpec.defined_of_finite {grid : GridSpec Float} (h : grid.Valid)
    (hfinite : grid.cell.isFinite = true) : grid.Defined := by
  obtain ⟨_, _, hpos⟩ := h
  have hnode : ∀ n : Nat, ((n : Float) * grid.cell).isNaN = false := fun n =>
    Binary64.isNaN_mul_of_pos (Binary64.isNaN_ofNat n) hfinite hpos
  have hcell : (grid.cell == grid.cell) = true := by
    rw [Binary64.beq_self, Binary64.isNaN_of_isFinite hfinite]
    rfl
  constructor
  · obtain ⟨nx, ny, cell⟩ := grid
    change (nx == nx && (ny == ny && cell == cell)) = true
    rw [beq_self_eq_true, beq_self_eq_true]
    exact hcell
  · intro p hp
    obtain ⟨i, rfl⟩ := Array.mem_ofFn.mp hp
    exact (Point.defined_iff _).mpr ⟨hnode _, hnode _⟩

omit [Number α] in
theorem OverGrid.isField_eq_false_iff {grid : GridSpec α} {v : Value α} (h : OverGrid grid v) :
    v.isField = false ↔ ∃ x, v = .scalar x := by
  cases h with
  | number x => exact iff_of_true rfl ⟨x, rfl⟩
  | field data h => exact iff_of_false nofun nofun

omit [Number α] in
theorem Value.isField_eq_false_iff {v : Value α} (h : v.isSamples = false) :
    v.isField = false ↔ ∃ x, v = .scalar x := by
  cases v with
  | scalar x => exact iff_of_true rfl ⟨x, rfl⟩
  | grid g => exact iff_of_false nofun nofun
  | spline s => exact iff_of_false nofun nofun
  | samples s => cases h

theorem Catalogue.exists_positional {name : String}
    (hname : name ∈ ["ddx", "ddy", "curv", "laplc", "divrg", "lat", "lon", "sunang", "sundist"]) :
    ∃ o ∈ (derivativeOperators ++ placeOperators ++ solarOperators : List (Operator α)),
      find? name = some o ∧ o.name ≠ "advct" := by
  have hnames : (derivativeOperators ++ placeOperators ++ solarOperators : List (Operator α)).map
      (·.name) = ["ddx", "ddy", "curv", "laplc", "divrg", "advct", "lat", "lon", "sunang",
        "sundist"] := rfl
  have hmem : name ∈ (derivativeOperators ++ placeOperators ++ solarOperators :
      List (Operator α)).map (·.name) := by
    rw [hnames]
    revert name
    decide
  obtain ⟨o, ho, rfl⟩ := List.mem_map.mp hmem
  have hoperator : o ∈ operators := by
    simp only [operators, List.mem_append] at ho ⊢
    tauto
  refine ⟨o, ho, find?_of_mem hoperator (beq_self_eq_true _), fun hadvct => ?_⟩
  rw [hadvct] at hname
  revert hname
  decide

/-- Calls over a grid and at its nodes. With the nodes of the default grid, row by row, as positions an
operator that depends on the position comes to the list of the numbers that it has over the grid, and to
the same error where it has none. It has a number alone only of numbers alone. -/
theorem call_at_nodes {ctx : Context Float} {grid : GridSpec Float}
    (hdefault : ctx.defaultGrid = .ok grid) (hfinite : grid.cell.isFinite = true) {name : String}
    (hname : name ∈ ["ddx", "ddy", "curv", "laplc", "divrg", "lat", "lon", "sunang", "sundist"]) :
    ∃ o : Operator Float, Catalogue.find? name = some o ∧
      ∀ args : List (Value Float), (∀ v ∈ args, v.isSamples = false) →
        o.call args (ctx.withPoints grid.nodes) =
          (o.call args ctx.withoutPoints).map (Value.listed grid) ∧
        ((∃ v, o.call args ctx.withoutPoints = .ok v) ↔
          args.length = o.arity ∧ ∀ v ∈ args, v.Differentiable) ∧
        ∀ v, o.call args ctx.withoutPoints = .ok v → OverGrid grid v ∧
          ((∃ x, v = .scalar x) ↔ args ≠ [] ∧ ∀ w ∈ args, ∃ x, w = .scalar x) := by
  have hgrid := GridSpec.defined_of_finite (Context.valid_of_defaultGrid hdefault) hfinite
  obtain ⟨o, hmem, hfind, hadvct⟩ := Catalogue.exists_positional (α := Float) hname
  refine ⟨o, hfind, fun args hargs => ?_⟩
  have hlists := Operator.listsNodes_of_mem hdefault hgrid o hmem hadvct args hargs
  refine ⟨hlists.eq_map, hlists.succeeds_iff, fun v hv => ?_⟩
  obtain ⟨hover, hfield⟩ := hlists.overGrid hv
  refine ⟨hover, ?_⟩
  rw [← hover.isField_eq_false_iff, hfield, Bool.or_eq_false_iff, List.any_eq_false,
    List.isEmpty_eq_false_iff]
  refine and_congr_right fun _ => forall₂_congr fun w hw => ?_
  rw [Bool.not_eq_true, Value.isField_eq_false_iff (hargs w hw)]

namespace Oblong

def grid : GridSpec Float := ⟨3, 2, 0.5⟩

def context : Context Float :=
  .standard { Projection.standard with grid := some grid } .epoch

def field : Grid Float := ⟨2, 2, 1.5, #[1, 2, 3, 5]⟩

end Oblong

theorem call_at_nodes_oblong :
    Oblong.context.defaultGrid = .ok Oblong.grid ∧ Oblong.grid.cell.isFinite = true ∧
      ∃ o v, Catalogue.find? "divrg" = some o ∧ OverGrid Oblong.grid v ∧
        o.call [.grid Oblong.field, .scalar 2] Oblong.context.withoutPoints = .ok v ∧
        o.call [.grid Oblong.field, .scalar 2] (Oblong.context.withPoints Oblong.grid.nodes) =
          .ok (v.listed Oblong.grid) := by
  have hdefault : Oblong.context.defaultGrid = .ok Oblong.grid :=
    Context.defaultGrid_eq_ok.mpr ⟨rfl, by decide⟩
  have hfinite : Oblong.grid.cell.isFinite = true := by decide
  have hname : "divrg" ∈
      ["ddx", "ddy", "curv", "laplc", "divrg", "lat", "lon", "sunang", "sundist"] := by decide
  obtain ⟨o, hfind, hcalls⟩ := call_at_nodes hdefault hfinite hname
  have harity : o.arity = 2 := by
    have hfound : (Catalogue.find? "divrg" : Option (Operator Float)).map (·.arity) = some 2 := by
      decide +kernel
    rw [hfind] at hfound
    exact Option.some.inj hfound
  obtain ⟨heq, hsucceeds, hover⟩ := hcalls [.grid Oblong.field, .scalar 2] (by simp [Value.isSamples])
  obtain ⟨v, hv⟩ := hsucceeds.mpr ⟨harity.symm, by
    rintro w hw
    rcases List.mem_pair.mp hw with rfl | rfl
    · exact (by decide : Spline.Fittable Oblong.field)
    · trivial⟩
  refine ⟨hdefault, hfinite, o, v, hfind, (hover v hv).1, hv, ?_⟩
  rw [heq, hv]
  rfl

end Synoptic
