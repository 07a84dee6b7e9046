import Synoptic.Binary64.Scalar
import Synoptic.Proofs.Queries.Failure
import Synoptic.Proofs.Refusal.Operators

/-!
The check before evaluation. An expression is refused, for an operator that does not exist or a wrong
number of arguments, by the check or not at all: what passes it is refused neither by evaluation nor
by any operator below it.
-/

namespace Synoptic

variable {α β ε : Type}

theorem forM_eq_ok_iff {f : β → Except ε Unit} {l : List β} :
    forM l f = .ok () ↔ ∀ b ∈ l, f b = .ok () := by
  induction l with
  | nil => simp [List.forM_nil, pure, Except.pure]
  | cons b l ih =>
    rw [List.forM_cons, List.forall_mem_cons, ← ih]
    cases f b with
    | ok u => exact ⟨fun h => ⟨rfl, h⟩, And.right⟩
    | error e => exact ⟨nofun, nofun⟩

theorem forM_eq_error_iff {f : β → Except ε Unit} {l : List β} {e : ε} :
    forM l f = .error e ↔
      ∃ before b after, l = before ++ b :: after ∧ (∀ c ∈ before, f c = .ok ()) ∧
        f b = .error e := by
  induction l with
  | nil => simp [List.forM_nil, pure, Except.pure]
  | cons b l ih =>
    rw [List.forM_cons]
    constructor
    · intro h
      cases hb : f b with
      | error e' =>
        rw [hb] at h
        cases h
        exact ⟨[], b, l, rfl, nofun, hb⟩
      | ok u =>
        rw [hb] at h
        obtain ⟨before, c, after, rfl, hbefore, hc⟩ := ih.mp h
        exact ⟨b :: before, c, after, rfl, List.forall_mem_cons.mpr ⟨hb, hbefore⟩, hc⟩
    · rintro ⟨before, c, after, hl, hbefore, hc⟩
      cases before with
      | nil =>
        cases hl
        rw [hc]
        rfl
      | cons b' before =>
        cases hl
        obtain ⟨hb, hbefore⟩ := List.forall_mem_cons.mp hbefore
        rw [hb]
        exact ih.mpr ⟨before, c, after, rfl, hbefore, hc⟩

def DatabaseError.IsArity : DatabaseError α → Prop
  | .value e => e.IsArity
  | _ => False

def EvalError.IsRefusal : EvalError α → Prop
  | .unknownFunction _ => True
  | .value e => e.IsArity
  | .database e => e.IsArity
  | .notASurface _ => False

namespace Expr

mutual

def calls : Expr α → List (String × List (Expr α))
  | .constant _ => []
  | .field _ => []
  | .call name args => (name, args) :: callsAll args

def callsAll : List (Expr α) → List (String × List (Expr α))
  | [] => []
  | e :: es => e.calls ++ callsAll es

end

mutual

theorem calls_of_mem_calls :
    ∀ {e : Expr α} {c : String × List (Expr α)}, c ∈ e.calls →
      ∀ c' ∈ (call c.1 c.2).calls, c' ∈ e.calls
  | .constant _, _, h => nomatch h
  | .field _, _, h => nomatch h
  | .call name args, c, h => by
    rw [calls] at h ⊢
    cases h with
    | head => exact fun _ h' => h'
    | tail _ h => exact fun c' h' => List.mem_cons_of_mem _ (calls_of_mem_callsAll h c' h')

theorem calls_of_mem_callsAll :
    ∀ {es : List (Expr α)} {c : String × List (Expr α)}, c ∈ callsAll es →
      ∀ c' ∈ (call c.1 c.2).calls, c' ∈ callsAll es
  | [], _, h => nomatch h
  | e :: es, c, h => by
    rw [callsAll] at h ⊢
    intro c' h'
    cases List.mem_append.mp h with
    | inl h => exact List.mem_append_left _ (calls_of_mem_calls h c' h')
    | inr h => exact List.mem_append_right _ (calls_of_mem_callsAll h c' h')

end

variable [Number α]

/-- What is wrong with a call of an operator with some number of arguments. -/
inductive Fault : String → Nat → EvalError α → Prop
  | unknown {name count} (h : Catalogue.find? (α := α) name = none) :
    Fault name count (.unknownFunction name)
  | arity {name count} {op : Operator α} (h : Catalogue.find? name = some op)
      (hcount : count ≠ op.arity) : Fault name count (.value (.arity op.name op.arity count))

theorem Fault.isRefusal {name : String} {count : Nat} {err : EvalError α}
    (h : Fault name count err) : err.IsRefusal := by
  cases h <;> trivial

theorem callee_eq_ok_iff {name : String} {count : Nat} {op : Operator α} :
    callee name count = .ok op ↔ Catalogue.find? name = some op ∧ count = op.arity := by
  simp only [callee, resolve]
  cases Catalogue.find? (α := α) name with
  | none => simp [bind, Except.bind]
  | some op' =>
    by_cases h : count = op'.arity
    · rw [ok_bind, Operator.checkArity_of_length h]
      simp only [ofValue, Except.mapError, ok_bind, Except.ok.injEq, Option.some.injEq]
      exact ⟨fun heq => ⟨heq, heq ▸ h⟩, And.left⟩
    · rw [ok_bind, Operator.checkArity, if_neg h]
      simp only [ofValue, Except.mapError, bind, Except.bind, reduceCtorEq, Option.some.injEq,
        false_iff, not_and]
      exact fun heq hcount => h (heq ▸ hcount)

theorem callee_eq_error_iff {name : String} {count : Nat} {err : EvalError α} :
    callee name count = .error err ↔ Fault name count err := by
  constructor
  · intro h
    simp only [callee, resolve] at h
    split at h
    · rename_i op hop
      rw [ok_bind, Operator.checkArity] at h
      split at h
      · cases h
      · cases h
        exact .arity hop ‹_›
    · cases h
      exact .unknown ‹_›
  · intro h
    cases h with
    | unknown h =>
      simp only [callee, resolve, h]
      rfl
    | arity h hcount =>
      simp only [callee, resolve, h, ok_bind, Operator.checkArity, if_neg hcount]
      rfl

def Callable (calls : List (String × List (Expr α))) : Prop :=
  ∀ c ∈ calls, ∃ op : Operator α, callee c.1 c.2.length = .ok op

def checkCall (c : String × List (Expr α)) : Except (EvalError α) Unit := do
  let _ ← callee c.1 c.2.length

theorem checkCall_eq_ok_iff {c : String × List (Expr α)} :
    checkCall c = .ok () ↔ ∃ op : Operator α, callee c.1 c.2.length = .ok op := by
  rw [checkCall]
  cases callee (α := α) c.1 c.2.length with
  | ok op => exact ⟨fun _ => ⟨op, rfl⟩, fun _ => rfl⟩
  | error err => exact ⟨nofun, nofun⟩

theorem checkCall_eq_error_iff {c : String × List (Expr α)} {err : EvalError α} :
    checkCall c = .error err ↔ Fault c.1 c.2.length err := by
  rw [checkCall, ← callee_eq_error_iff]
  cases callee (α := α) c.1 c.2.length with
  | ok op => exact ⟨nofun, nofun⟩
  | error err' =>
    constructor <;>
    · rintro ⟨⟩
      rfl

mutual

theorem check_eq_forM : ∀ e : Expr α, e.check = forM e.calls checkCall
  | .constant _ => rfl
  | .field _ => rfl
  | .call name args => by
    rw [check, calls, List.forM_cons, checkAll_eq_forM args, checkCall]
    cases callee (α := α) name args.length <;> rfl

theorem checkAll_eq_forM : ∀ es : List (Expr α), checkAll es = forM (callsAll es) checkCall
  | [] => rfl
  | e :: es => by
    rw [checkAll, callsAll, List.forM_append, check_eq_forM e, checkAll_eq_forM es]

end

theorem check_eq_ok_iff {e : Expr α} : e.check = .ok () ↔ Callable e.calls := by
  rw [check_eq_forM, forM_eq_ok_iff]
  exact forall₂_congr fun c _ => checkCall_eq_ok_iff

/-! ### Evaluation of what is checked -/

section Accepted

def Accepted (x : Evaluation α β) (P : β → Prop) : Prop :=
  Ensures (fun _ => True) x P fun err => ¬ err.IsRefusal

omit [Number α] in
theorem accepted_ofValue {r : Except (ValueError α) β} (h : Accepting r) :
    Accepted (.ofExcept (ofValue r)) fun _ => True :=
  Evaluation.ensures_ofExcept (Yields.mapError h)

theorem components_accepting (x y : Spline α) (target : Projection α) :
    Accepting (Reprojection.components x y target) :=
  (x.ensureUsable_accepting _).bind fun _ => (y.ensureUsable_accepting _).bind fun _ =>
    (Spline.fit_accepting ..).bind fun _ => (Spline.fit_accepting ..).bind fun _ => .ok

theorem accepted_fieldFor (d : Descriptor α) (target : Projection α) :
    Accepted (.ofQuery (Database.fieldFor d target)) fun _ => True := by
  have hfails : Database.FailsWith (fun v => ¬ v.IsArity) (Database.fieldFor d target) := by
    apply Database.failsWith_fieldFor
    intro x y v hv
    have h := components_accepting x y target
    rw [hv] at h
    exact h
  apply Evaluation.ensures_ofQuery (Ensures.mono hfails (fun _ => id) _)
  intro err herr
  cases err with
  | value v => exact herr v rfl
  | _ => exact id

theorem sampled_accepting (s : Spline α) (ctx : Context α) (whole : Bool) :
    Accepting (sampled s ctx whole) := by
  rw [sampled]
  split
  · split
    · exact .ok
    · exact (s.ensureUsable_accepting _).bind fun _ => .ok
  · exact .ok

theorem leaf_accepted (d : Descriptor α) (ctx : Context α) (whole : Bool) :
    Accepted (leaf d ctx whole) fun _ => True := by
  apply Ensures.bind (accepted_fieldFor _ _)
  intro field _
  split
  · exact accepted_ofValue (sampled_accepting _ ctx whole)
  · exact Ensures.throw id

theorem form_of_callee {name : String} {count : Nat} {op : Operator α}
    (h : callee name count = .ok op) : op.Form ∧ count = op.arity := by
  obtain ⟨hfind, hcount⟩ := callee_eq_ok_iff.mp h
  exact ⟨Catalogue.form_of_find? hfind, hcount⟩

mutual

theorem eval_accepted :
    ∀ (e : Expr α) (ctx : Context α) (whole : Bool), Callable e.calls →
      Accepted (e.eval ctx whole) fun _ => True
  -- The induction is on the tree, whose calls are callable below every call. The arguments come in
  -- the number that was checked, and a series takes any number of members.
  | .constant x, ctx, whole, _ => Ensures.pure trivial
  | .field d, ctx, whole, _ => leaf_accepted d ctx whole
  | .call name args, ctx, whole, h => by
    rw [calls, Callable, List.forall_mem_cons] at h
    obtain ⟨⟨op, hop⟩, hargs⟩ := h
    obtain ⟨hform, hcount⟩ := form_of_callee hop
    rw [eval, hop]
    change Accepted (match op.action.class with | .series => _ | _ => _) _
    split
    · rename_i hclass
      apply Ensures.bind (evalSeries_accepted args _ _ hargs)
      intro members _
      exact accepted_ofValue (hform.callSeries_accepting hclass _ members _)
    · apply Ensures.bind (evalArgs_accepted args _ _ hargs)
      intro values hlength
      exact accepted_ofValue (hform.call_accepting _ (hlength.trans hcount))

theorem evalSeries_accepted :
    ∀ (es : List (Expr α)) (ctx : Context α) (whole : Bool), Callable (callsAll es) →
      Accepted (evalSeries es ctx whole) fun _ => True
  | [], ctx, whole, _ => Ensures.pure trivial
  | e :: es, ctx, whole, h => by
    rw [callsAll, Callable, List.forall_mem_append] at h
    rw [evalSeries]
    apply Ensures.mono (P := List.Forall₂ (fun _ _ => True) ctx.offsets) _ (fun _ _ => trivial)
      fun _ => id
    exact Ensures.mapM fun minutes _ => eval_accepted e (ctx.shifted minutes) whole h.1

theorem evalArgs_accepted :
    ∀ (es : List (Expr α)) (ctx : Context α) (whole : Nat → Bool), Callable (callsAll es) →
      Accepted (evalArgs es ctx whole) fun values => values.length = es.length
  | [], ctx, whole, _ => Ensures.pure rfl
  | e :: es, ctx, whole, h => by
    rw [callsAll, Callable, List.forall_mem_append] at h
    rw [evalArgs]
    apply Ensures.bind (eval_accepted e ctx (whole 0) h.1)
    intro v _
    apply Ensures.bind (evalArgs_accepted es ctx (fun i => whole (i + 1)) h.2)
    intro vs hlength
    exact Ensures.pure (congrArg Nat.succ hlength)

end

end Accepted

/-- A call that nothing refuses: the operator is found and takes the arguments, does not complain of
their number when it is called with that many values, nor of that of the members of a series, and
evaluation does not refuse anything below it, whatever the context, the mode and the database. -/
def NeverRefused (name : String) (args : List (Expr α)) : Prop :=
  ∃ op : Operator α, callee name args.length = .ok op ∧
    (∀ values ctx err, values.length = args.length → op.call values ctx = .error err →
      ¬ err.IsArity) ∧
    (op.action.class = .series → ∀ times members ctx err,
      op.callSeries times members ctx = .error err → ¬ err.IsArity) ∧
    ∀ ctx whole db err db', (call name args).eval ctx whole db = .error err db' → ¬ err.IsRefusal

theorem neverRefused_of_callable {name : String} {args : List (Expr α)}
    (h : Callable (call name args).calls) : NeverRefused name args := by
  obtain ⟨op, hop⟩ := h (name, args) List.mem_cons_self
  obtain ⟨hform, hcount⟩ := form_of_callee hop
  refine ⟨op, hop, ?_, ?_, ?_⟩
  · intro values ctx err hlength herr
    have haccepting := hform.call_accepting ctx (hlength.trans hcount)
    rw [herr] at haccepting
    exact haccepting
  · intro hclass times members ctx err herr
    have haccepting := hform.callSeries_accepting hclass times members ctx
    rw [herr] at haccepting
    exact haccepting
  · intro ctx whole db err db' herr
    have haccepted := eval_accepted (call name args) ctx whole h db trivial
    rw [herr] at haccepted
    exact haccepted.2

theorem evaluate_of_check_error {e : Expr α} {err : EvalError α} (h : e.check = .error err)
    (ctx : Context α) (db : Database α) : e.evaluate ctx db = .error err db := by
  rw [evaluate, h]
  rfl

theorem check_error_of_evaluate {e : Expr α} {ctx : Context α} {db db' : Database α}
    {err : EvalError α} (h : e.evaluate ctx db = .error err db') (herr : err.IsRefusal) :
    e.check = .error err := by
  cases hcheck : e.check with
  | error err' =>
    rw [evaluate_of_check_error hcheck] at h
    cases h
    rfl
  | ok u =>
    have haccepted := eval_accepted e ctx false (check_eq_ok_iff.mp hcheck) db trivial
    have heval : e.evaluate ctx db = e.eval ctx false db := by
      rw [evaluate, hcheck]
      rfl
    rw [← heval, h] at haccepted
    exact absurd herr haccepted.2

/-- The check gates evaluation. It fails with the fault of the first call that has one, outer calls
first; exactly then evaluation is refused, with the same error, and the database is left as it was.
Below an expression that passes, no call is refused. Offsets out of the calendar count as none. -/
theorem evaluate_gated (e : Expr α) (ctx : Context α) (db : Database α) :
    (∀ err, e.check = .error err ↔ ∃ before name args after,
      e.calls = before ++ (name, args) :: after ∧ Callable before ∧
        Fault name args.length err) ∧
    (∀ err, err.IsRefusal →
      ((∃ db', e.evaluate ctx db = .error err db') ↔ e.check = .error err)) ∧
    (∀ err, e.check = .error err → err.IsRefusal ∧ e.evaluate ctx db = .error err db) ∧
    (e.check = .ok () → ∀ name args, (name, args) ∈ e.calls → NeverRefused name args) := by
  have hfirst : ∀ err, e.check = .error err ↔ ∃ before name args after,
      e.calls = before ++ (name, args) :: after ∧ Callable before ∧
        Fault name args.length err := by
    intro err
    rw [check_eq_forM, forM_eq_error_iff]
    constructor
    · rintro ⟨before, ⟨name, args⟩, after, hcalls, hbefore, hfault⟩
      exact ⟨before, name, args, after, hcalls,
        fun c hc => checkCall_eq_ok_iff.mp (hbefore c hc), checkCall_eq_error_iff.mp hfault⟩
    · rintro ⟨before, name, args, after, hcalls, hbefore, hfault⟩
      exact ⟨before, (name, args), after, hcalls,
        fun c hc => checkCall_eq_ok_iff.mpr (hbefore c hc), checkCall_eq_error_iff.mpr hfault⟩
  refine ⟨hfirst, ?_, ?_, ?_⟩
  · intro err herr
    constructor
    · rintro ⟨db', h⟩
      exact check_error_of_evaluate h herr
    · exact fun h => ⟨db, evaluate_of_check_error h ctx db⟩
  · intro err h
    obtain ⟨_, _, _, _, _, _, hfault⟩ := (hfirst err).mp h
    exact ⟨hfault.isRefusal, evaluate_of_check_error h ctx db⟩
  · intro h name args hmem
    have hcallable := check_eq_ok_iff.mp h
    exact neverRefused_of_callable fun c hc => hcallable c (calls_of_mem_calls hmem c hc)

namespace Unfinished

def expression : Expr Float := .call "DDT" [.call "PLUS" [.constant 1, .call "FROB" []]]

def context : Context Float := .standard ⟨.mercator 0, .standard, some ⟨2, 2, 1⟩⟩ .epoch

def database : Database Float := .new .empty .empty

end Unfinished

theorem evaluate_gated_unfinished :
    Unfinished.expression.check = .error (.unknownFunction "FROB") ∧
      Unfinished.expression.evaluate Unfinished.context Unfinished.database =
        .error (.unknownFunction "FROB") Unfinished.database := by
  have hcheck : Unfinished.expression.check = .error (.unknownFunction "FROB") := by rfl
  exact ⟨hcheck, ((evaluate_gated _ _ _).2.2.1 _ hcheck).2⟩

end Expr

end Synoptic
