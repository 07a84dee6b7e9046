import Synoptic.Proofs.History
import Synoptic.Proofs.Sampling.Operators
import Synoptic.Proofs.Typing.Evaluation

namespace Synoptic

variable {α : Type} [Number α]

namespace Expr

section Typing

variable (read : Provider α)

theorem leafMeaning_yields (d : Descriptor α) (ctx : Context α) (whole : Bool) :
    Yields (leafMeaning read d ctx whole) (·.Fits (callContext ctx whole)) fun _ => True := by
  apply Yields.bind (P := fun _ => True)
  · cases (read (situated d ctx) ctx.projection) <;> trivial
  · intro field _
    split
    · exact Yields.mapError ((sampled_yields _ ctx whole).mono (fun _ => id) fun _ _ => trivial)
    · trivial

mutual

theorem meaning_yields :
    ∀ (e : Expr α) (ctx : Context α) (whole : Bool),
      Yields (e.meaning read ctx whole) (·.Fits (callContext ctx whole)) fun _ => True
  | .constant x, ctx, whole => trivial
  | .field d, ctx, whole => leafMeaning_yields read d ctx whole
  | .call name args, ctx, whole => by
    rw [meaning]
    apply Yields.bind ((callee_yields ctx name args.length).mono (fun _ => id) fun _ _ => trivial)
    intro op hop
    dsimp only
    split
    · rename_i hclass
      apply Yields.bind (seriesMeaning_yields args (callContext ctx whole) _)
      intro members hmembers
      rw [callContext_callContext] at hmembers
      exact Yields.mapError
        ((hop.seriesSound hclass _ _ members hmembers).mono (fun _ => id) fun _ _ => trivial)
    · rename_i hclass
      apply Yields.bind (argsMeaning_yields args (callContext ctx whole) _)
      intro values hvalues
      exact Yields.mapError
        ((hop.sound hclass _ values (argumentsFit_callContext hvalues)).mono (fun _ => id)
          fun _ _ => trivial)

theorem seriesMeaning_yields :
    ∀ (es : List (Expr α)) (ctx : Context α) (whole : Bool),
      Yields (seriesMeaning read es ctx whole)
        (fun members => ∀ v ∈ members, v.Fits (callContext ctx whole)) fun _ => True
  | [], ctx, whole => by simp [seriesMeaning, Yields]
  | e :: _, ctx, whole => by
    rw [seriesMeaning]
    apply (Yields.mapM fun minutes _ => meaning_yields e (ctx.shifted minutes) whole).mono _
      fun _ => id
    intro members hmembers v hv
    obtain ⟨minutes, _, h⟩ := exists_left_of_forall₂ hmembers hv
    exact fits_shifted h

theorem argsMeaning_yields :
    ∀ (es : List (Expr α)) (ctx : Context α) (whole : Nat → Bool),
      Yields (argsMeaning read es ctx whole) (ArgumentsFit ctx whole) fun _ => True
  | [], ctx, whole => trivial
  | e :: es, ctx, whole => by
    rw [argsMeaning]
    apply Yields.bind (meaning_yields e ctx (whole 0))
    intro v hv
    apply Yields.bind (argsMeaning_yields es ctx fun i => whole (i + 1))
    intro vs hvs
    exact ⟨hv, hvs⟩

end

theorem fits_of_meaning {e : Expr α} {ctx : Context α} {whole : Bool} {v : Value α}
    (h : e.meaning read ctx whole = .ok v) : v.Fits (callContext ctx whole) := by
  have hy := meaning_yields read e ctx whole
  rw [h] at hy
  exact hy

end Typing

section WithoutPoints

variable (read : Provider α)

mutual

theorem meaning_withoutPoints :
    ∀ (e : Expr α) (ctx : Context α) (whole : Bool),
      e.meaning read ctx true = e.meaning read ctx.withoutPoints whole
  | .constant x, ctx, whole => rfl
  | .field d, ctx, whole => by
    have hs : ∀ s, sampled s ctx true = sampled s ctx.withoutPoints whole := by
      intro s
      simp only [sampled, Context.withoutPoints]
      split <;> rfl
    simp only [meaning, leafMeaning, hs]
    rfl
  | .call name args, ctx, whole => by
    have hctx : callContext ctx.withoutPoints whole = ctx.withoutPoints := by cases whole <;> rfl
    have htrue : callContext ctx true = ctx.withoutPoints := rfl
    have hseries : ∀ w, seriesMeaning read args ctx.withoutPoints true =
        seriesMeaning read args ctx.withoutPoints w :=
      seriesMeaning_withoutPoints args ctx.withoutPoints
    have hargs : ∀ w, (argsMeaning read args ctx.withoutPoints fun _ => true) =
        argsMeaning read args ctx.withoutPoints w :=
      argsMeaning_withoutPoints args ctx.withoutPoints
    simp only [meaning, hctx, htrue, Bool.true_or]
    congr 1
    funext op
    rw [hseries (whole || !op.acceptsPointwise 0), hargs fun i => whole || !op.acceptsPointwise i]

theorem seriesMeaning_withoutPoints :
    ∀ (es : List (Expr α)) (ctx : Context α) (whole : Bool),
      seriesMeaning read es ctx true = seriesMeaning read es ctx.withoutPoints whole
  | [], ctx, whole => rfl
  | e :: _, ctx, whole => by
    have he : ∀ minutes, e.meaning read (ctx.shifted minutes) true =
        e.meaning read (ctx.withoutPoints.shifted minutes) whole :=
      fun minutes => meaning_withoutPoints e (ctx.shifted minutes) whole
    simp only [seriesMeaning, he]
    rfl

theorem argsMeaning_withoutPoints :
    ∀ (es : List (Expr α)) (ctx : Context α) (whole : Nat → Bool),
      argsMeaning read es ctx (fun _ => true) = argsMeaning read es ctx.withoutPoints whole
  | [], ctx, whole => rfl
  | e :: es, ctx, whole => by
    rw [argsMeaning, argsMeaning, meaning_withoutPoints e ctx (whole 0),
      argsMeaning_withoutPoints es ctx fun i => whole (i + 1)]

end

end WithoutPoints

mutual

/-- Wherever an expression would be evaluated at points, arithmetic that is done on coefficients for
whole fields is linear in their values. -/
def Linear (read : Provider α) : Expr α → Context α → Prop
  | .constant _, _ => True
  | .field _, _ => True
  | .call name args, ctx => ∀ op : Operator α, Catalogue.find? name = some op →
    (∀ b : BinaryOp, op.name = b.name → ∀ x y,
      argsMeaning read args ctx (fun i => !op.acceptsPointwise i) = .ok [x, y] →
        b.CommutesWithSampling x y) ∧
    match op.action.class with
    | .series => LinearSeries read args ctx
    | _ => LinearArgs read args ctx op.acceptsPointwise

def LinearSeries (read : Provider α) : List (Expr α) → Context α → Prop
  | [], _ => True
  | e :: _, ctx => ∀ minutes ∈ ctx.offsets, e.Linear read (ctx.shifted minutes)

def LinearArgs (read : Provider α) : List (Expr α) → Context α → (Nat → Bool) → Prop
  | [], _, _ => True
  | e :: es, ctx, pointwise =>
    (pointwise 0 = true → e.Linear read ctx) ∧ LinearArgs read es ctx fun i => pointwise (i + 1)

end

theorem callee_ok {name : String} {count : Nat} {op : Operator α}
    (h : callee name count = .ok op) : Catalogue.find? name = some op ∧ op.Form := by
  have hfind := find?_of_callee h
  exact ⟨hfind, Catalogue.form_of_find? hfind⟩

section Agreement

variable {read : Provider ℝ} {grid : GridSpec ℝ}

theorem agrees_of_shifted {ctx : Context ℝ} {minutes : ℝ} {v w : Value ℝ}
    (h : Agrees (ctx.shifted minutes) grid v w) : Agrees ctx grid v w := by
  cases h with
  | scalar x => exact .scalar x
  | grid data h => exact .grid data h
  | spline s h => exact .spline s h

theorem gridded_shifted {ctx : Context ℝ} (h : ctx.Gridded grid) (minutes : ℝ) :
    (ctx.shifted minutes).Gridded grid := ⟨h.points, h.defaultGrid⟩

theorem withoutPoints_eq {ctx : Context ℝ} (h : ctx.Gridded grid) : ctx.withoutPoints = ctx := by
  simp only [Context.withoutPoints, ← h.points]

theorem withoutPoints_withPoints {ctx : Context ℝ} (h : ctx.Gridded grid) (ps : Array (Point ℝ)) :
    (ctx.withPoints ps).withoutPoints = ctx := withoutPoints_eq h

theorem leafMeaning_agrees {ctx : Context ℝ} (hg : ctx.Gridded grid) {d : Descriptor ℝ}
    {v w : Value ℝ} (hv : leafMeaning read d ctx false = .ok v)
    (hw : leafMeaning read d (ctx.withPoints grid.nodes) false = .ok w) : Agrees ctx grid v w := by
  obtain ⟨f, hf, hv⟩ := ok_of_bind hv
  obtain ⟨f', hf', hw⟩ := ok_of_bind hw
  have hsame : (read (situated d (ctx.withPoints grid.nodes)) ctx.projection).mapError
      EvalError.database = .ok f := hf
  cases hsame.symm.trans hf'
  cases hs : f.single? with
  | none => rw [hs] at hv; cases hv
  | some s =>
    simp only [hs, sampled, hg.points] at hv
    simp only [hs, sampled, Context.withPoints] at hw
    cases hv
    obtain ⟨_, husable, hw⟩ := ok_of_bind (ofValue_eq_ok.mp hw)
    cases hw
    have husable : s.Usable := by
      simp only [Spline.ensureUsable] at husable
      split at husable
      · assumption
      · cases husable
    simp only [Samples.ofFn, GridSpec.nodes, map_tabulate]
    exact .spline s husable

mutual

theorem meaning_agrees :
    ∀ (e : Expr ℝ) {ctx : Context ℝ} {v w : Value ℝ}, ctx.Gridded grid → e.Linear read ctx →
      e.meaning read ctx false = .ok v →
        e.meaning read (ctx.withPoints grid.nodes) false = .ok w → Agrees ctx grid v w
  -- The induction goes down where arguments are taken at points; whole fields are the same on both
  -- sides.
  | .constant x, _, _, _, _, _, hv, hw => by
    cases hv
    cases hw
    exact .scalar x
  | .field d, _, _, _, hg, _, hv, hw => leafMeaning_agrees hg hv hw
  | .call name args, ctx, v, w, hg, hl, hv, hw => by
    rw [meaning] at hv hw
    obtain ⟨op, hop, hv⟩ := ok_of_bind hv
    obtain ⟨op', hop', hw⟩ := ok_of_bind hw
    cases hop.symm.trans hop'
    obtain ⟨hfind, hform⟩ := callee_ok hop
    obtain ⟨hlinear, hl⟩ := hl op hfind
    cases hclass : op.action.class with
    | series =>
      simp only [hclass] at hl hv hw
      obtain ⟨vs, hvs, hv⟩ := ok_of_bind hv
      obtain ⟨ws, hws, hw⟩ := ok_of_bind hw
      have hpointwise : op.acceptsPointwise 0 = true := by
        cases hform with
        | tendency => rfl
        | _ => cases hclass
      rw [hpointwise] at hvs hws
      exact hform.series_agrees hclass hg (seriesMeaning_agrees args hg hl hvs hws)
        (ofValue_eq_ok.mp hv) (ofValue_eq_ok.mp hw)
    | _ =>
      simp only [hclass] at hl hv hw
      obtain ⟨vs, hvs, hv⟩ := ok_of_bind hv
      obtain ⟨ws, hws, hw⟩ := ok_of_bind hw
      simp only [Bool.false_or] at hvs hws
      apply hform.agrees (by rw [hclass]; simp) hg (argsMeaning_agrees args hg hl hvs hws) _
        (ofValue_eq_ok.mp hv) (ofValue_eq_ok.mp hw)
      intro b hname x y hxy
      exact hlinear b hname x y (hxy ▸ hvs)

theorem seriesMeaning_agrees :
    ∀ (es : List (Expr ℝ)) {ctx : Context ℝ} {vs ws : List (Value ℝ)}, ctx.Gridded grid →
      LinearSeries read es ctx → seriesMeaning read es ctx false = .ok vs →
        seriesMeaning read es (ctx.withPoints grid.nodes) false = .ok ws →
          List.Forall₂ (Agrees ctx grid) vs ws
  | [], _, _, _, _, _, hv, hw => by
    cases hv
    cases hw
    exact .nil
  | e :: _, ctx, vs, ws, hg, hl, hv, hw => by
    rw [seriesMeaning] at hv hw
    apply forall₂_of_mapM _ hv hw
    intro minutes hm v w hv hw
    exact agrees_of_shifted (meaning_agrees e (gridded_shifted hg minutes) (hl minutes hm) hv hw)

theorem argsMeaning_agrees :
    ∀ (es : List (Expr ℝ)) {ctx : Context ℝ} {pointwise : Nat → Bool} {vs ws : List (Value ℝ)},
      ctx.Gridded grid → LinearArgs read es ctx pointwise →
        argsMeaning read es ctx (fun i => !pointwise i) = .ok vs →
          argsMeaning read es (ctx.withPoints grid.nodes) (fun i => !pointwise i) = .ok ws →
            ArgumentsAgree ctx grid (fun i => !pointwise i) vs ws
  | [], _, _, _, _, _, _, hv, hw => by
    cases hv
    cases hw
    trivial
  | e :: es, ctx, pointwise, _, _, hg, hl, hv, hw => by
    rw [argsMeaning] at hv hw
    obtain ⟨v, hv₀, hv⟩ := ok_of_bind hv
    obtain ⟨vs, hvs, hv⟩ := ok_of_bind hv
    obtain ⟨w, hw₀, hw⟩ := ok_of_bind hw
    obtain ⟨ws, hws, hw⟩ := ok_of_bind hw
    cases hv
    cases hw
    refine ⟨?_, argsMeaning_agrees es hg hl.2 hvs hws⟩
    cases hp : pointwise 0 with
    | true =>
      simp only [hp, Bool.not_true] at hv₀ hw₀ ⊢
      exact meaning_agrees e hg (hl.1 hp) hv₀ hw₀
    | false =>
      simp only [hp, Bool.not_false] at hv₀ hw₀ ⊢
      have hwhole := meaning_withoutPoints read e (ctx.withPoints grid.nodes) true
      rw [withoutPoints_withPoints hg] at hwhole
      cases hv₀.symm.trans (hwhole.symm.trans hw₀)
      have hfits := fits_of_meaning read hv₀
      rw [callContext, if_pos rfl, withoutPoints_eq hg] at hfits
      exact ⟨rfl, hfits⟩

end

/-- Whatever databases over one archive were asked before, an expression evaluated at the nodes of
the default grid has the numbers of its whole field on that grid, if its arithmetic on coefficients
is linear. Offsets out of the calendar count as none. -/
theorem evaluate_at_nodes {a : Archive ℝ} {t : ComponentTable} {history history' : List (Access ℝ)}
    {e : Expr ℝ} {ctx : Context ℝ} {v w : Value ℝ} (hg : ctx.Gridded grid)
    (hl : e.Linear (a.fieldReading t) ctx)
    (hv : answer (e.evaluate ctx) ((Database.new a t).after history) = .ok v)
    (hw : answer (e.evaluate (ctx.withPoints grid.nodes)) ((Database.new a t).after history') =
      .ok w) :
    ∃ g, convert .grid v ctx = .ok (.grid g) ∧ g.spec = grid ∧
      (w = .samples ⟨grid.nodes, g.data⟩ ∨ ∃ x, w = .scalar x ∧ g = .filled grid x) := by
  obtain ⟨_, _, hv⟩ := ok_of_bind (value_of_evaluate_after hv)
  obtain ⟨_, _, hw⟩ := ok_of_bind (value_of_evaluate_after hw)
  cases meaning_agrees e hg hl hv hw with
  | scalar x =>
    refine ⟨.filled grid x, ?_, rfl, .inr ⟨x, rfl, rfl⟩⟩
    simp only [convert, hg.defaultGrid, ok_bind]
  | grid data h => exact ⟨_, rfl, rfl, .inl rfl⟩
  | spline s hs =>
    refine ⟨s.toGrid grid ctx.projection, ?_, rfl, .inl rfl⟩
    simp only [convert, splineToGrid, hg.defaultGrid, Spline.ensureUsable, if_pos hs]
    rfl

end Agreement

namespace Ramp

noncomputable def surface : Spline ℝ := .ramp .standard

noncomputable def grid : GridSpec ℝ := ⟨2, 2, 1⟩

noncomputable def context : Context ℝ :=
  .standard ⟨.latLon, .standard, some grid⟩ .epoch

noncomputable def field : Expr ℝ :=
  .field
    { source := "test", element := "temp", level := "", kind := .continuous
      validTime := some context.time }

noncomputable def archive : Archive ℝ :=
  Archive.empty.put
    { source := "test", element := "temp", level := "", kind := .continuous
      validTime := some context.time } .standard "temp" "" .continuous (.surface [surface])

noncomputable def both (op : BinaryOp) : Expr ℝ := .call op.name [field, field]

theorem usable : surface.Usable := Spline.ramp_usable _

theorem gridded : context.Gridded grid where
  points := rfl
  defaultGrid := if_pos ⟨by decide, by decide, by simp [grid]⟩

noncomputable def samples : Value ℝ :=
  .samples ⟨grid.nodes, (surface.toGrid grid context.projection).data⟩

theorem agrees : Agrees context grid (.spline surface) samples := .spline surface usable

theorem field_nodes : field.checkedMeaning (archive.fieldReading .empty)
    (context.withPoints grid.nodes) = .ok samples := by
  change ofValue (sampled surface (context.withPoints grid.nodes) false) = _
  simp only [sampled, Context.withPoints, Spline.ensureUsable, if_pos usable, ok_bind,
    Samples.ofFn, GridSpec.nodes, map_tabulate]
  rfl

section Both

variable {op : BinaryOp} (hop : op = .plus ∨ op = .multiply)

include hop

theorem both_whole : (both op).checkedMeaning (archive.fieldReading .empty) context =
    .ok (.spline (Spline.zipCoeffs op.eval surface surface)) := by
  obtain rfl | rfl := hop <;> rfl

theorem both_nodes :
    (both op).checkedMeaning (archive.fieldReading .empty) (context.withPoints grid.nodes) =
      .ok (.samples ⟨grid.nodes, (Array.range 4).map fun i =>
        op.eval (Agrees.atNode samples i) (Agrees.atNode samples i)⟩) := by
  have hleaf : field.meaning (archive.fieldReading .empty) (context.withPoints grid.nodes) false =
      .ok samples := field_nodes
  obtain ⟨signature, doc, hcall⟩ : ∃ signature doc,
      (both op).checkedMeaning (archive.fieldReading .empty) (context.withPoints grid.nodes) =
        (argsMeaning (archive.fieldReading .empty) [field, field] (context.withPoints grid.nodes)
          fun i => !([true, true].getD i true)).bind fun values =>
            ofValue ((op.operator signature doc).call values (context.withPoints grid.nodes)) := by
    obtain rfl | rfl := hop <;> exact ⟨_, _, rfl⟩
  have hargs : argsMeaning (archive.fieldReading .empty) [field, field]
      (context.withPoints grid.nodes) (fun i => !([true, true].getD i true)) =
        .ok [samples, samples] := by
    simp [argsMeaning, hleaf]
  have hcombine : (op.operator signature doc).call [samples, samples]
      (context.withPoints grid.nodes) =
        (align op.name [samples, samples] (context.withPoints grid.nodes)).bind fun aligned =>
          .ok (aligned.apply fun xs =>
            op.eval (xs.getD 0 Number.absent) (xs.getD 1 Number.absent)) := by
    obtain rfl | rfl := hop <;> rfl
  have halign := Agrees.align_nodes (context.withPoints grid.nodes) op.name
    (.cons agrees (.cons agrees .nil))
  simp only [hcall, hargs, Except.bind, hcombine, halign]
  rfl

end Both

theorem valueAt_surface : surface.valueAt .origin = 0 := Spline.valueAt_ramp_origin _

theorem coeff_square {i j : Nat} (hi : i < 4) (hj : j < 4) :
    (Spline.zipCoeffs BinaryOp.multiply.eval surface surface).coeff i j =
      ((i : ℝ) - 1) * ((i : ℝ) - 1) := by
  rw [Spline.coeff_zipCoeffs usable usable ⟨rfl, rfl⟩ hi hj, surface, Spline.coeff_ramp _ hi hj]
  rfl

theorem valueAt_square :
    (Spline.zipCoeffs BinaryOp.multiply.eval surface surface).valueAt .origin = 1 / 3 := by
  have h := Spline.valueAt_origin (Spline.zipCoeffs BinaryOp.multiply.eval surface surface)
  rw [show (Spline.zipCoeffs BinaryOp.multiply.eval surface surface).origin = .origin from rfl] at h
  rw [h]
  simp only [Spline.weighted, Spline.rowSum, Nat.zero_add, coeff_square, Spline.basis,
    Number.real_zero, Number.real_one, Nat.reduceLT]
  norm_num

theorem read_toGrid {s : Spline ℝ} (hs : s.projection = .standard) :
    Number.read (s.toGrid grid context.projection).data 0 = s.valueAt .origin := by
  have hmap : context.projection.sameMap s.projection = true := by
    rw [hs, Projection.sameMap_iff]
    exact ⟨rfl, rfl⟩
  have hread : Number.read (s.toGrid grid context.projection).data 0 = _ :=
    read_tabulate (fun ix iy =>
      s.valueAt (context.projection.transfer (grid.node ix iy) s.projection)) (by decide)
  have hnode : grid.node (0 % grid.nx) (0 / grid.nx) = .origin := by
    simp [grid, GridSpec.node, Point.origin]
  rw [hnode, Projection.transfer_of_sameMap hmap] at hread
  exact hread

theorem both_plus_linear : (both .plus).Linear (archive.fieldReading .empty) context := by
  intro op hop
  have hname : op.name = "plus" ∧ op.action.class = .field ∧ op.pointwise = [true, true] := by
    cases hop
    exact ⟨rfl, rfl, rfl⟩
  obtain ⟨hname, hclass, hpointwise⟩ := hname
  refine ⟨?_, ?_⟩
  · intro b hb x y hargs
    have hb' : b = .plus := by
      rw [hname] at hb
      cases b <;> first | rfl | exact absurd hb (by decide)
    have hxy : argsMeaning (archive.fieldReading .empty) [field, field] context
        (fun i => !op.acceptsPointwise i) = .ok [.spline surface, .spline surface] := by
      simp only [Operator.acceptsPointwise, hpointwise]
      rfl
    cases hxy.symm.trans hargs
    exact fun _ => ⟨.inl hb', rfl, rfl, rfl, by simp [Projection.sameMap_iff]⟩
  · rw [hclass]
    exact ⟨fun _ => trivial, fun _ => trivial, trivial⟩

end Ramp

theorem evaluate_at_nodes_sum :
    Ramp.context.Gridded Ramp.grid ∧
      (Ramp.both .plus).Linear (Ramp.archive.fieldReading .empty) Ramp.context ∧
      ∃ v w g, answer ((Ramp.both .plus).evaluate Ramp.context)
          ((Database.new Ramp.archive .empty).after []) = .ok v ∧
        answer ((Ramp.both .plus).evaluate (Ramp.context.withPoints Ramp.grid.nodes))
          ((Database.new Ramp.archive .empty).after []) = .ok w ∧
        convert .grid v Ramp.context = .ok (.grid g) ∧ g.spec = Ramp.grid ∧
        (w = .samples ⟨Ramp.grid.nodes, g.data⟩ ∨
          ∃ x, w = .scalar x ∧ g = .filled Ramp.grid x) := by
  have hv : answer ((Ramp.both .plus).evaluate Ramp.context)
      ((Database.new Ramp.archive .empty).after []) = _ :=
    (answer_undeclared _ _ _).trans (Ramp.both_whole (.inl rfl))
  have hw : answer ((Ramp.both .plus).evaluate (Ramp.context.withPoints Ramp.grid.nodes))
      ((Database.new Ramp.archive .empty).after []) = _ :=
    (answer_undeclared _ _ _).trans (Ramp.both_nodes (.inl rfl))
  obtain ⟨g, hg⟩ := evaluate_at_nodes Ramp.gridded Ramp.both_plus_linear hv hw
  exact ⟨Ramp.gridded, Ramp.both_plus_linear, _, _, g, hv, hw, hg⟩

/-- A product of surfaces is made of the products of their coefficients, which are not the
coefficients of the products. -/
theorem evaluate_at_nodes_ne :
    Ramp.context.Gridded Ramp.grid ∧
      ∃ v w g, answer ((Ramp.both .multiply).evaluate Ramp.context)
          (Database.new Ramp.archive .empty) = .ok v ∧
        answer ((Ramp.both .multiply).evaluate (Ramp.context.withPoints Ramp.grid.nodes))
          (Database.new Ramp.archive .empty) = .ok w ∧
        convert .grid v Ramp.context = .ok (.grid g) ∧
        ¬(w = .samples ⟨Ramp.grid.nodes, g.data⟩ ∨
          ∃ x, w = .scalar x ∧ g = .filled Ramp.grid x) := by
  have hv := (answer_undeclared _ _ _).trans (Ramp.both_whole (.inr rfl))
  have hw := (answer_undeclared _ _ _).trans (Ramp.both_nodes (.inr rfl))
  refine ⟨Ramp.gridded, _, _,
    (Spline.zipCoeffs BinaryOp.multiply.eval Ramp.surface Ramp.surface).toGrid Ramp.grid
      Ramp.context.projection, hv, hw, ?_, ?_⟩
  · have husable :=
      Spline.usable_zipCoeffs Ramp.usable Ramp.usable ⟨rfl, rfl⟩ BinaryOp.multiply.eval
    simp only [convert, splineToGrid, Ramp.gridded.defaultGrid, Spline.ensureUsable, if_pos husable]
    rfl
  · rintro (h | ⟨x, h, _⟩)
    · injection h with h
      injection h with _ h
      have h0 := congrArg (fun data => Number.read data 0) h
      have hleft : Number.read ((Array.range 4).map fun i =>
          BinaryOp.multiply.eval (Agrees.atNode Ramp.samples i) (Agrees.atNode Ramp.samples i)) 0 =
            0 := by
        have hnode : Agrees.atNode Ramp.samples 0 = 0 :=
          (Ramp.read_toGrid rfl).trans Ramp.valueAt_surface
        simp [Number.read, hnode, BinaryOp.eval]
      rw [hleft, Ramp.read_toGrid rfl, Ramp.valueAt_square] at h0
      norm_num at h0
    · cases h

end Expr

end Synoptic
