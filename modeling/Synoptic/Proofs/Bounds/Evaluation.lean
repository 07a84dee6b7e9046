import Synoptic.Proofs.Bounds.Binary64
import Synoptic.Proofs.Bounds.Catalogue
import Synoptic.Proofs.Bounds.Database
import Synoptic.Proofs.Configuration

namespace Synoptic

variable {α β : Type}

namespace Checked

abbrev Evaluation (α : Type) := EStateM (Stop (EvalError α)) (Database α)

def ofQuery (q : Query α β) : Evaluation α β := fun db =>
  match q db with
  | .ok b db => .ok b db
  | .error (.error e) db => .error (.error (.database e)) db
  | .error .outOfRange db => .error .outOfRange db

def ofExcept (r : Checked (EvalError α) β) : Evaluation α β := fun db =>
  match r with
  | .ok b => .ok b db
  | .error e => .error e db

def ofValue (r : Checked (ValueError α) β) : Checked (EvalError α) β :=
  match r with
  | .ok b => .ok b
  | .error (.error e) => .error (.error (.value e))
  | .error .outOfRange => .error .outOfRange

variable [Number α]

def sampled (s : Spline α) (ctx : Context α) (whole : Bool) : Checked (ValueError α) (Value α) :=
  match ctx.points with
  | some points =>
    if whole then .ok (.spline s)
    else do
      inRange (s.ensureUsable "field sample")
      let values ← points.toList.mapM fun p => valueAt s (ctx.projection.transfer p s.projection)
      .ok (.samples ⟨points, values.toArray⟩)
  | none => .ok (.spline s)

def leaf (d : Descriptor α) (ctx : Context α) (whole : Bool) : Evaluation α (Value α) := do
  let d := Expr.situated d ctx
  match (← ofQuery (fieldFor d ctx.projection)).single? with
  | some s => ofExcept (ofValue (sampled s ctx whole))
  | none => throw (.error (.notASurface d))

mutual

def eval : Expr α → Context α → Bool → Evaluation α (Value α)
  | .constant x, _, _ => return .scalar x
  | .field d, ctx, whole => leaf d ctx whole
  | .call name args, ctx, whole =>
    match find? name with
    | none => throw (.error (.unknownFunction name))
    | some (op, action) => do
      ofExcept (ofValue (inRange (op.checkArity args.length)))
      let ctx := Expr.callContext ctx whole
      match op.action.class with
      | .series =>
        let members ← evalSeries args ctx (whole || !op.acceptsPointwise 0)
        ofExcept (ofValue (callSeries op action ctx.offsets members ctx))
      | _ =>
        let values ← evalArgs args ctx fun i => whole || !op.acceptsPointwise i
        ofExcept (ofValue (call op action values ctx))

def evalSeries : List (Expr α) → Context α → Bool → Evaluation α (List (Value α))
  | [], ctx, _ => ctx.offsets.mapM fun _ => throw .outOfRange
  | e :: _, ctx, whole => ctx.offsets.mapM fun minutes => eval e (ctx.shifted minutes) whole

def evalArgs : List (Expr α) → Context α → (Nat → Bool) → Evaluation α (List (Value α))
  | [], _, _ => return []
  | e :: es, ctx, whole => do
    let v ← eval e ctx (whole 0)
    let vs ← evalArgs es ctx fun i => whole (i + 1)
    return v :: vs

end

def evaluate (e : Expr α) (ctx : Context α) : Evaluation α (Value α) := do
  ofExcept (inRange e.check)
  eval e ctx false

/-! ### Lifting -/

section Lifting

variable {I : Database α → Prop} {P : β → Prop}

omit [Number α]

theorem stays_ofQuery {q' : Query α β} {q : Synoptic.Query α β} (h : StaysInRange I q' q P) :
    StaysInRange I (ofQuery q') (Evaluation.ofQuery q) P := by
  constructor
  · intro db hdb
    rw [ofQuery, h.eq db hdb, runInRange, runInRange, Evaluation.ofQuery]
    cases q db <;> rfl
  · exact Evaluation.ensures_ofQuery (h.ensures.mono (fun _ => id) fun _ => id)

theorem stays_ofExcept {r' : Checked (EvalError α) β} {r : Except (EvalError α) β}
    (hr : r' = inRange r) (hy : Yields r P fun _ => True) :
    StaysInRange I (ofExcept r') (Evaluation.ofExcept r) P := by
  constructor
  · intro db _
    rw [hr]
    cases r <;> rfl
  · exact Evaluation.ensures_ofExcept hy

theorem ofValue_eq {r' : Checked (ValueError α) β} {r : Except (ValueError α) β}
    (hr : r' = inRange r) : ofValue r' = inRange (Expr.ofValue r) := by
  rw [hr]
  cases r <;> rfl

theorem stays_ofValue {r' : Checked (ValueError α) β} {r : Except (ValueError α) β}
    (hr : r' = inRange r) (hy : Yields r P fun _ => True) :
    StaysInRange I (ofExcept (ofValue r')) (Evaluation.ofExcept (Expr.ofValue r)) P :=
  stays_ofExcept (ofValue_eq hr) (Yields.mapError hy)

end Lifting

end Checked

variable [Number α]

namespace Context.Within

variable {N : Nat} {ctx : Context α}

theorem shifted (h : ctx.Within N) (minutes : α) : (ctx.shifted minutes).Within N :=
  ⟨h.projection, h.series⟩

omit [Number α] in
theorem callContext (h : ctx.Within N) (whole : Bool) : (Expr.callContext ctx whole).Within N := by
  cases whole with
  | false => exact h
  | true => exact ⟨h.projection, h.series⟩

end Context.Within

theorem Operator.Form.arity_of_series {op : Operator α} (h : op.Form)
    (hs : op.action.class = .series) : op.arity = 1 := by
  cases h with
  | tendency signature doc => rfl
  | _ => cases hs

theorem Value.Proper.shifted {N : Nat} {ctx : Context α} {whole : Bool} {minutes : α} {v : Value α}
    (h : v.Proper N (Expr.callContext (ctx.shifted minutes) whole)) :
    v.Proper N (Expr.callContext ctx whole) := ⟨Expr.fits_shifted h.1, h.2⟩

namespace Expr

theorem sampled_within {N : Nat} {s : Spline α} (h : s.Within N) (ctx : Context α) (whole : Bool) :
    Yields (sampled s ctx whole) (·.Within N) fun _ => True := by
  rw [sampled]
  split
  · cases whole with
    | true => exact h
    | false => exact Yields.bind (Yields.trivial _) fun _ _ => trivial
  · exact h

theorem callee_none {name : String} {count : Nat}
    (h : Catalogue.find? (α := α) name = none) :
    callee (α := α) name count = .error (.unknownFunction name) := by
  rw [callee, resolve, h]
  rfl

theorem callee_bind {name : String} {count : Nat} {op : Operator α}
    (h : Catalogue.find? name = some op) (k : Operator α → Evaluation α β) :
    (Evaluation.ofExcept (callee name count) >>= k) =
      (Evaluation.ofExcept (ofValue (op.checkArity count)) >>= fun _ => k op) := by
  have hcallee : callee name count = (ofValue (op.checkArity count) >>= fun _ => .ok op) := by
    rw [callee, resolve, h]
    rfl
  rw [hcallee]
  cases ofValue (op.checkArity count) <;> rfl

end Expr

namespace Checked

section Bounded

variable {N : Nat} (hN : Number.Counts α N)

include hN

theorem sampled_eq {s : Spline α} (h : s.Within N) (ctx : Context α) (whole : Bool) :
    sampled s ctx whole = inRange (Expr.sampled s ctx whole) := by
  rw [sampled, Expr.sampled]
  cases ctx.points with
  | none => rfl
  | some points =>
    cases whole with
    | true => rfl
    | false =>
      apply inRange_bind rfl (s.ensureUsable_yields _)
      intro _ hs
      rw [mapM_of_mem fun p _ => valueAt_eq hN hs h _, ok_bind, ← Array.toList_map,
        Array.toArray_toList]
      rfl

theorem stays_leaf (d : Descriptor α) {ctx : Context α} (hctx : ctx.Within N) (whole : Bool) :
    StaysInRange (Database.Within N) (leaf d ctx whole) (Expr.leaf d ctx whole)
      (·.Proper N (Expr.callContext ctx whole)) := by
  apply StaysInRange.bind (stays_ofQuery (stays_fieldFor hN hctx.projection _))
  intro field hfield
  cases hs : field.single? with
  | none => exact StaysInRange.throw _
  | some s =>
    have h := hfield.single? hs
    apply stays_ofValue (sampled_eq hN h ctx whole)
    exact ((Expr.sampled_yields s ctx whole).mono (fun _ => id) fun _ _ => trivial).and
      (Expr.sampled_within h ctx whole)

end Bounded

section Calls

variable {N : Nat} {ctx : Context α} {I : Database α → Prop} {op : Operator α} {action : Action α}
  {values : List (Value α)}

theorem stays_call (hop : op.Form) (hagree : Agree N op action) (hctx : ctx.Within N)
    (hclass : op.action.class ≠ .series)
    (hfit : ArgumentsFit ctx (fun i => !op.acceptsPointwise i) values)
    (hwithin : ∀ v ∈ values, v.Within N) :
    StaysInRange I (ofExcept (ofValue (call op action values ctx)))
      (Evaluation.ofExcept (Expr.ofValue (op.call values ctx))) (·.Proper N ctx) := by
  have h := hagree.call hclass ctx values hctx hfit hwithin
  exact stays_ofValue h.eq ((hop.sound hclass ctx values hfit).proper h.within)

theorem stays_callSeries (hop : op.Form) (hagree : Agree N op action) (hctx : ctx.Within N)
    (hclass : op.action.class = .series)
    (hvalues : ∀ v ∈ values, v.Proper N (Expr.callContext ctx (!op.acceptsPointwise 0))) :
    StaysInRange I (ofExcept (ofValue (callSeries op action ctx.offsets values ctx)))
      (Evaluation.ofExcept (Expr.ofValue (op.callSeries ctx.offsets values ctx)))
      (·.Proper N ctx) := by
  have hfit := fun v hv => (hvalues v hv).1
  have h := hagree.series hclass ctx ctx.offsets values hctx hfit fun v hv => (hvalues v hv).2
  exact stays_ofValue h.eq ((hop.seriesSound hclass ctx _ values hfit).proper h.within)

end Calls

mutual

theorem stays_eval {N : Nat} (hN : Number.Counts α N) :
    ∀ (e : Expr α) {ctx : Context α} (_ : ctx.Within N) (whole : Bool),
      StaysInRange (Database.Within N) (eval e ctx whole) (e.eval ctx whole)
        (·.Proper N (Expr.callContext ctx whole))
  -- The checked evaluation follows the plain one: at a call, arguments that stay in range are of
  -- the forms that the operator is called with.
  | .constant x, ctx, hctx, whole => by
    rw [eval, Expr.eval]
    exact StaysInRange.pure ⟨trivial, trivial⟩
  | .field d, ctx, hctx, whole => by
    rw [eval, Expr.eval]
    exact stays_leaf hN d hctx whole
  | .call name args, ctx, hctx, whole => by
    have hfound := find?_eq (α := α) name
    rw [eval, Expr.eval]
    cases hfind : (find? name : Option (Operator α × Action α)) with
    | none =>
      rw [hfind] at hfound
      rw [Expr.callee_none hfound.symm]
      exact StaysInRange.throw _
    | some o =>
      obtain ⟨op, action⟩ := o
      rw [hfind] at hfound
      have hop : Catalogue.find? name = some op := hfound.symm
      have hform := Catalogue.form_of_find? hop
      have hagree := agree_of_find? hN hfind
      have hctx' := hctx.callContext whole
      rw [Expr.callee_bind hop]
      apply StaysInRange.bind (P := fun _ => args.length = op.arity)
      · exact stays_ofValue rfl ((op.checkArity_yields args.length ctx).mono (fun _ => id)
          fun _ _ => trivial)
      intro _ harity
      dsimp only
      cases hclass : op.action.class with
      | series =>
        have hone : args.length = 1 := harity.trans (hform.arity_of_series hclass)
        apply StaysInRange.bind (stays_evalSeries hN args hctx' _ hone)
        intro members hmembers
        rw [Expr.callContext_callContext] at hmembers
        exact stays_callSeries hform hagree hctx' hclass hmembers
      | _ =>
        apply StaysInRange.bind (stays_evalArgs hN args hctx' _)
        intro values hvalues
        exact stays_call hform hagree hctx' (by rw [hclass]; exact ActionClass.noConfusion)
          (Expr.argumentsFit_callContext hvalues.1) hvalues.2

theorem stays_evalSeries {N : Nat} (hN : Number.Counts α N) :
    ∀ (es : List (Expr α)) {ctx : Context α} (_ : ctx.Within N) (whole : Bool), es.length = 1 →
      StaysInRange (Database.Within N) (evalSeries es ctx whole) (Expr.evalSeries es ctx whole)
        (fun members => ∀ v ∈ members, v.Proper N (Expr.callContext ctx whole))
  | [], _, _, _, hlength => by cases hlength
  | e :: _, ctx, hctx, whole, _ => by
    rw [evalSeries, Expr.evalSeries]
    apply (StaysInRange.mapM fun minutes _ =>
      stays_eval hN e (hctx.shifted minutes) whole).mono
    intro members hmembers v hv
    obtain ⟨minutes, _, h⟩ := exists_left_of_forall₂ hmembers hv
    exact h.shifted

theorem stays_evalArgs {N : Nat} (hN : Number.Counts α N) :
    ∀ (es : List (Expr α)) {ctx : Context α} (_ : ctx.Within N) (whole : Nat → Bool),
      StaysInRange (Database.Within N) (evalArgs es ctx whole) (Expr.evalArgs es ctx whole)
        (fun values => ArgumentsFit ctx whole values ∧ ∀ v ∈ values, v.Within N)
  | [], ctx, hctx, whole => by
    rw [evalArgs, Expr.evalArgs]
    exact StaysInRange.pure ⟨trivial, by simp⟩
  | e :: es, ctx, hctx, whole => by
    rw [evalArgs, Expr.evalArgs]
    apply StaysInRange.bind (stays_eval hN e hctx (whole 0))
    intro v hv
    apply StaysInRange.bind (stays_evalArgs hN es hctx fun i => whole (i + 1))
    intro vs hvs
    exact StaysInRange.pure ⟨⟨hv.1, hvs.1⟩, List.forall_mem_cons.mpr ⟨hv.2, hvs.2⟩⟩

end

theorem stays_evaluate {N : Nat} (hN : Number.Counts α N) (e : Expr α) {ctx : Context α}
    (hctx : ctx.Within N) :
    StaysInRange (Database.Within N) (evaluate e ctx) (e.evaluate ctx) (·.Proper N ctx) := by
  apply StaysInRange.bind (stays_ofExcept rfl (Yields.trivial e.check))
  intro _ _
  exact stays_eval hN e hctx false

end Checked

namespace Configuration

theorem context_within {N : Nat} {c : Configuration α} (h : c.validate = .ok ())
    (hgrid : c.grid.Within N) : c.context.Within N := by
  constructor
  · rw [context_projection]
    rintro _ ⟨⟩
    exact hgrid
  · rw [context_seriesMin]
    exact (validate_eq_ok.mp h).2.2.2.2.1

end Configuration

namespace Expr

/-- No evaluation in binary64 reaches for a place that is not there, whatever surfaces of up to
`2 ^ 55` coefficients are stored: they may be malformed, and the positions undefined. -/
theorem evaluate_in_range (e : Expr Float) {ctx : Context Float} (hctx : ctx.Within (2 ^ 55))
    {db : Database Float} (hdb : db.Within (2 ^ 55)) :
    Checked.evaluate e ctx db = runInRange (e.evaluate ctx) db ∧
      ∀ db', Checked.evaluate e ctx db ≠ .error .outOfRange db' := by
  have h := (Checked.stays_evaluate Binary64.counts e hctx).eq db hdb
  refine ⟨h, ?_⟩
  intro db'
  rw [h]
  exact runInRange_ne_outOfRange _ db db'

namespace Ragged

def configuration : Configuration Float where
  apiVersion := Configuration.standardVersion
  kind := Configuration.standardKind
  projection := .latLon
  frame := .standard
  grid := ⟨2, 2, 1⟩
  points := some (.map [(Number.absent, 1)])
  validTime := .epoch
  level := none
  upperLevel := none
  lowerLevel := none
  localTime := false
  displayDistance := 1
  seriesMin := 2
  seriesMax := 5
  seriesOffsets := [-60, 0]

def descriptor : Descriptor Float :=
  { source := "test", element := "u", level := "", kind := .continuous, validTime := some .epoch }

def surface : Spline Float := ⟨5, 7, #[1, 2], .origin, 0, 1, .standard⟩

def database : Database Float :=
  .new (Archive.empty.put descriptor .standard "u" "" .continuous (.surface [surface])) .empty

theorem context_within : configuration.context.Within (2 ^ 55) :=
  Configuration.context_within rfl fun _ _ => Nat.le_of_ble_eq_true rfl

theorem database_within : database.Within (2 ^ 55) := by
  constructor
  · intro file hfile entry hentry
    cases List.mem_singleton.mp hfile
    cases List.mem_singleton.mp hentry
    intro s hs
    cases List.mem_singleton.mp hs
    exact Nat.le_of_ble_eq_true rfl
  · intro e he
    cases he

end Ragged

theorem evaluate_in_range_ragged :
    Ragged.configuration.context.Within (2 ^ 55) ∧ Ragged.database.Within (2 ^ 55) ∧
      ∀ db', Checked.evaluate (call "ddx" [.field Ragged.descriptor]) Ragged.configuration.context
        Ragged.database ≠ .error .outOfRange db' := by
  have h := evaluate_in_range (call "ddx" [.field Ragged.descriptor]) Ragged.context_within
    Ragged.database_within
  exact ⟨Ragged.context_within, Ragged.database_within, h.2⟩

end Expr

end Synoptic
