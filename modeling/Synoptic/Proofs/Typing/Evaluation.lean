import Synoptic.Proofs.Queries.Failure
import Synoptic.Proofs.Typing.Operators

namespace Synoptic

variable {α : Type}

namespace Database

def Peaceful {β : Type} (q : Query α β) : Prop :=
  Ensures (fun _ => True) q (fun _ => True) fun e => ¬ e.Clash

end Database

variable [Number α]

namespace Reprojection

theorem components_yields (x y : Spline α) (target : Projection α) :
    Yields (components x y target) (fun _ => True) fun e => ¬ e.Clash := by
  apply Yields.bind (x.ensureUsable_yields _)
  intro _ _
  apply Yields.bind (y.ensureUsable_yields _)
  intro _ _
  apply Yields.bind (Spline.fit_yields ..)
  intro rx _
  apply Yields.bind (Spline.fit_yields ..)
  intro ry _
  trivial

end Reprojection

namespace Database

theorem peaceful_fieldFor (d : Descriptor α) (target : Projection α) :
    Peaceful (fieldFor d target) := by
  have hfails : FailsWith (fun v => ¬ v.Clash) (fieldFor d target) := by
    apply failsWith_fieldFor
    intro x y v hv
    have h := Reprojection.components_yields x y target
    rw [hv] at h
    exact h
  apply Ensures.mono hfails (fun _ => id)
  intro e he
  cases e with
  | value v => exact he v rfl
  | _ => exact id

end Database

namespace EvalError

def Allowed (ctx : Context α) (e : EvalError α) : Prop := ctx.Defined → ¬ e.Clash

end EvalError

namespace Expr

theorem ofValue_yields {β : Type} {ctx : Context α} {r : Except (ValueError α) β} {P : β → Prop}
    (h : Yields r P (·.Allowed ctx)) : Yields (ofValue r) P (·.Allowed ctx) :=
  Yields.mapError (h.mono (fun _ => id) fun _ he => he)

theorem callee_yields (ctx : Context α) (name : String) (count : Nat) :
    Yields (callee (α := α) name count) Operator.Form (·.Allowed ctx) := by
  have hr : Yields (resolve (α := α) name) Operator.Form (·.Allowed ctx) := by
    rw [resolve]
    split
    · rename_i op hop
      exact Catalogue.form_of_find? hop
    · exact fun _ => id
  apply Yields.bind hr
  intro op hop
  apply Yields.bind (ofValue_yields (op.checkArity_yields count ctx))
  intro _ _
  exact hop

mutual

theorem check_yields (ctx : Context α) :
    ∀ e : Expr α, Yields e.check (fun _ => True) (·.Allowed ctx)
  | .constant _ => trivial
  | .field _ => trivial
  | .call name args => by
    rw [check]
    apply Yields.bind (callee_yields ctx name args.length)
    intro _ _
    exact checkAll_yields ctx args

theorem checkAll_yields (ctx : Context α) :
    ∀ es : List (Expr α), Yields (checkAll es) (fun _ => True) (·.Allowed ctx)
  | [] => trivial
  | e :: es => by
    rw [checkAll]
    apply Yields.bind (check_yields ctx e)
    intro _ _
    exact checkAll_yields ctx es

end

theorem allowed_of_callContext {ctx : Context α} {whole : Bool} {e : EvalError α}
    (h : e.Allowed (callContext ctx whole)) : e.Allowed ctx := by
  cases whole with
  | false => exact h
  | true =>
    intro _
    apply h
    intro ps hps
    cases hps

omit [Number α] in
theorem callContext_callContext (ctx : Context α) (whole whole' : Bool) :
    callContext (callContext ctx whole) (whole || whole') =
      callContext (callContext ctx whole) whole' := by
  cases whole with
  | false => rfl
  | true => cases whole' <;> rfl

theorem argumentsFit_callContext {ctx : Context α} {whole : Bool} :
    ∀ {values : List (Value α)} {w : Nat → Bool},
      ArgumentsFit (callContext ctx whole) (fun i => whole || w i) values →
        ArgumentsFit (callContext ctx whole) w values
  | [], _, _ => trivial
  | v :: vs, w, h => by
    have hv := h.1
    rw [callContext_callContext] at hv
    exact ⟨hv, argumentsFit_callContext h.2⟩

theorem sampled_yields (s : Spline α) (ctx : Context α) (whole : Bool) :
    Yields (sampled s ctx whole) (·.Fits (callContext ctx whole)) (·.Allowed ctx) := by
  rw [sampled]
  split
  · rename_i points hp
    cases whole with
    | true => exact rfl
    | false =>
      rw [if_neg Bool.false_ne_true]
      apply Yields.bind ((s.ensureUsable_yields _).mono (fun _ => id) fun _ he _ => he)
      intro _ _
      exact ⟨hp, by simp [Samples.ofFn]⟩
  · rename_i hp
    cases whole with
    | true => exact rfl
    | false => exact hp

theorem leaf_ensures (d : Descriptor α) (ctx : Context α) (whole : Bool) :
    Ensures (fun _ => True) (leaf d ctx whole) (·.Fits (callContext ctx whole))
      (·.Allowed ctx) := by
  have hq : Ensures (fun _ => True)
      (Database.fieldFor (situated d ctx) ctx.projection) (fun _ => True)
      fun e => (EvalError.database e).Allowed ctx :=
    (Database.peaceful_fieldFor _ _).mono (fun _ => id) fun _ he _ => he
  apply Ensures.bind (Evaluation.ensures_ofQuery hq)
  intro field _
  split
  · exact Evaluation.ensures_ofExcept (ofValue_yields (sampled_yields _ ctx whole))
  · exact Ensures.throw fun _ => id

theorem fits_shifted {ctx : Context α} {whole : Bool} {minutes : α} {v : Value α}
    (h : v.Fits (callContext (ctx.shifted minutes) whole)) : v.Fits (callContext ctx whole) := by
  cases whole <;> cases v <;> exact h

mutual

theorem eval_ensures :
    ∀ (e : Expr α) (ctx : Context α) (whole : Bool),
      Ensures (fun _ => True) (e.eval ctx whole) (·.Fits (callContext ctx whole)) (·.Allowed ctx)
  -- The induction carries the mode along: a value has the forms of whole fields where those are
  -- wanted, and the forms of the context otherwise.
  | .constant x, ctx, whole => Ensures.pure trivial
  | .field d, ctx, whole => leaf_ensures d ctx whole
  | .call name args, ctx, whole => by
    rw [eval]
    apply Ensures.bind (Evaluation.ensures_ofExcept (callee_yields ctx name args.length))
    intro op hop
    apply Ensures.mono (Q := (·.Allowed (callContext ctx whole))) _ (fun _ => id)
      fun _ => allowed_of_callContext
    dsimp only
    split
    · rename_i hclass
      apply Ensures.bind (evalSeries_ensures args (callContext ctx whole) _)
      intro members hmembers
      rw [callContext_callContext] at hmembers
      exact Evaluation.ensures_ofExcept
        (ofValue_yields (hop.seriesSound hclass _ _ members hmembers))
    · rename_i hclass
      apply Ensures.bind (evalArgs_ensures args (callContext ctx whole) _)
      intro values hvalues
      exact Evaluation.ensures_ofExcept
        (ofValue_yields (hop.sound hclass _ values (argumentsFit_callContext hvalues)))

theorem evalSeries_ensures :
    ∀ (es : List (Expr α)) (ctx : Context α) (whole : Bool),
      Ensures (fun _ => True) (evalSeries es ctx whole)
        (fun members => ∀ v ∈ members, v.Fits (callContext ctx whole)) (·.Allowed ctx)
  | [], ctx, whole => Ensures.pure (by simp)
  | e :: _, ctx, whole => by
    rw [evalSeries]
    apply (Ensures.mapM fun minutes _ => eval_ensures e (ctx.shifted minutes) whole).mono _
      fun _ => id
    intro members hmembers v hv
    obtain ⟨minutes, _, h⟩ := exists_left_of_forall₂ hmembers hv
    exact fits_shifted h

theorem evalArgs_ensures :
    ∀ (es : List (Expr α)) (ctx : Context α) (whole : Nat → Bool),
      Ensures (fun _ => True) (evalArgs es ctx whole) (ArgumentsFit ctx whole) (·.Allowed ctx)
  | [], ctx, whole => Ensures.pure trivial
  | e :: es, ctx, whole => by
    rw [evalArgs]
    apply Ensures.bind (eval_ensures e ctx (whole 0))
    intro v hv
    apply Ensures.bind (evalArgs_ensures es ctx fun i => whole (i + 1))
    intro vs hvs
    exact Ensures.pure ⟨hv, hvs⟩

end

theorem evaluate_ensures (e : Expr α) (ctx : Context α) :
    Ensures (fun _ => True) (e.evaluate ctx) (·.Fits ctx) (·.Allowed ctx) := by
  apply Ensures.bind (Evaluation.ensures_ofExcept (check_yields ctx e))
  intro _ _
  exact eval_ensures e ctx false

/-- Evaluation is type sound: a value has one of the forms of its context, and with defined points
no error is one of kinds or points that do not go together. Offsets out of the calendar count as
none. -/
theorem evaluate_sound (e : Expr α) (ctx : Context α) (db : Database α) :
    (∀ v db', e.evaluate ctx db = .ok v db' → v.Fits ctx) ∧
      (ctx.Defined → ∀ err db', e.evaluate ctx db = .error err db' → ¬ err.Clash) := by
  have h := evaluate_ensures e ctx db trivial
  constructor
  · intro v db' hv
    rw [hv] at h
    exact h.2
  · intro hd err db' he
    rw [he] at h
    exact h.2 hd

namespace Station

def context : Context Float := (Context.standard .standard .epoch).withPoints #[⟨0, 0⟩]

def database : Database Float := .new .empty .empty

theorem defined : context.Defined := by
  intro ps hps p hp
  cases hps
  cases List.mem_singleton.mp (Array.mem_toList_iff.mpr hp)
  exact (Point.defined_iff _).mpr (by decide +kernel)

end Station

theorem evaluate_sound_latitude :
    (∃ v db', (call "lat" []).evaluate Station.context Station.database = .ok v db' ∧
        v.Fits Station.context) ∧
      Station.context.Defined ∧
        ∃ err db', (call "lat" [.constant 1]).evaluate Station.context Station.database =
          .error err db' ∧ ¬ err.Clash := by
  have hv : (call "lat" []).evaluate Station.context Station.database =
      .ok _ Station.database := rfl
  have he : (call "lat" [.constant 1]).evaluate Station.context Station.database =
      .error _ Station.database := rfl
  obtain ⟨hfits, _⟩ := evaluate_sound (call "lat" []) Station.context Station.database
  obtain ⟨_, hclash⟩ := evaluate_sound (call "lat" [.constant 1]) Station.context Station.database
  exact ⟨⟨_, _, hv, hfits _ _ hv⟩, Station.defined, _, _, he, hclash Station.defined _ _ he⟩

end Expr

end Synoptic
