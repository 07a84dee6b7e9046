import Synoptic.Proofs.Bounds.Tendency

namespace Synoptic

variable {α : Type} [Number α]

namespace Checked

inductive Action (α : Type)
  | elementwise (f : List α → Checked (ValueError α) α)
  | field (run : List (Value α) → Context α → Checked (ValueError α) (Value α))
  | series (run : List α → List (Value α) → Context α → Checked (ValueError α) (Value α))

namespace Action

def free : Synoptic.Action α → Action α
  | .elementwise f => .elementwise fun xs => .ok (f xs)
  | .field run => .field fun args ctx => inRange (run args ctx)
  | .series run => .series fun times members ctx => inRange (run times members ctx)

def first : Synoptic.Action α → Action α
  | .elementwise f => .elementwise fun xs => do return f [← read xs 0]
  | action => free action

end Action

def runBinary (op : BinaryOp) (args : List (Value α)) (ctx : Context α) :
    Checked (ValueError α) (Value α) :=
  match args with
  | [left, right] => combine op left right ctx
  | _ => .error (.error (.arity op.name 2 args.length))

def runDerivative (name : String) (f : α → Derivatives α → α) (args : List (Value α))
    (ctx : Context α) : Checked (ValueError α) (Value α) :=
  match args with
  | [x] => differentiate name x ctx (f ctx.unitFactor)
  | _ => .error (.error (.arity name 1 args.length))

def runDivergence (args : List (Value α)) (ctx : Context α) : Checked (ValueError α) (Value α) :=
  match args with
  | [u, v] => divergence u v ctx
  | _ => .error (.error (.arity "divrg" 2 args.length))

def runAdvection (args : List (Value α)) (ctx : Context α) : Checked (ValueError α) (Value α) :=
  match args with
  | [f, u, v] => advection f u v ctx
  | _ => .error (.error (.arity "advct" 3 args.length))

def arithmeticActions : List (Action α) :=
  [.field (runBinary .power), .field (runBinary .plus), .field (runBinary .minus),
    .field (runBinary .multiply), .field (runBinary .divide), .field (runBinary .max),
    .field (runBinary .min)]

def rangeActions : List (Action α) :=
  [.field (runTernary "between" between), .field (runTernary "outside" outside)]

def derivativeActions : List (Action α) :=
  [.field (runDerivative "ddx" fun k d => d.fx * k),
    .field (runDerivative "ddy" fun k d => d.fy * k),
    .field (runDerivative "curv" fun k d => Spline.isolineCurvature d * k),
    .field (runDerivative "laplc" fun k d => (d.fxx + d.fyy) * k * k),
    .field runDivergence, .field runAdvection]

def actions : List (Action α) :=
  arithmeticActions ++ rangeActions ++ derivativeActions ++ [.series tendency] ++
    placeOperators.map (.free ·.action) ++ pressureOperators.map (.free ·.action) ++
    elementaryOperators.map (.first ·.action) ++ solarOperators.map (.free ·.action) ++
    [.field vapourPressure]

def find? (name : String) : Option (Operator α × Action α) :=
  (Catalogue.operators.zip actions).find? fun o => Text.sameAscii o.1.name name

def call (op : Operator α) (action : Action α) (args : List (Value α)) (ctx : Context α) :
    Checked (ValueError α) (Value α) :=
  match action with
  | .elementwise f => do
    inRange (op.checkArity args.length)
    let aligned ← align op.name args ctx
    apply aligned f
  | .field run => do
    inRange (op.checkArity args.length)
    run args ctx
  | .series run => run ctx.offsets args ctx

def callSeries (op : Operator α) (action : Action α) (times : List α) (members : List (Value α))
    (ctx : Context α) : Checked (ValueError α) (Value α) :=
  match action with
  | .series run => run times members ctx
  | _ => call op action members ctx

/-- A checked computation of a value stays in range, and the value keeps within `N` coefficients. -/
structure Faithful (N : Nat) (r' : Checked (ValueError α) (Value α))
    (r : Except (ValueError α) (Value α)) : Prop where
  eq : r' = inRange r
  within : Yields r (·.Within N) fun _ => True

/-- An operator and an action agree on arguments that the operator is called with. -/
structure Agree (N : Nat) (op : Operator α) (action : Action α) : Prop where
  call : op.action.class ≠ .series → ∀ (ctx : Context α) (args : List (Value α)), ctx.Within N →
    ArgumentsFit ctx (fun i => !op.acceptsPointwise i) args → (∀ v ∈ args, v.Within N) →
      Faithful N (Checked.call op action args ctx) (op.call args ctx)
  series : op.action.class = .series → ∀ (ctx : Context α) (times : List α)
    (members : List (Value α)), ctx.Within N →
    (∀ v ∈ members, v.Fits (Expr.callContext ctx (!op.acceptsPointwise 0))) →
      (∀ v ∈ members, v.Within N) →
        Faithful N (callSeries op action times members ctx) (op.callSeries times members ctx)

section Agreement

variable {N : Nat} (hN : Number.Counts α N)

theorem agree_of_field {name signature doc : String} {pointwise : List Bool}
    {run : List (Value α) → Context α → Except (ValueError α) (Value α)}
    {run' : List (Value α) → Context α → Checked (ValueError α) (Value α)}
    (h : ∀ ctx args, ctx.Within N → ArgumentsFit ctx (fun i => !pointwise.getD i true) args →
      (∀ v ∈ args, v.Within N) → args.length = pointwise.length →
        Faithful N (run' args ctx) (run args ctx)) :
    Agree N ⟨name, signature, doc, pointwise, .field run⟩ (.field run') := by
  constructor
  · intro _ ctx args hctx hfit hw
    have harity := Operator.checkArity_yields
      (⟨name, signature, doc, pointwise, .field run⟩ : Operator α) args.length ctx
    constructor
    · apply inRange_bind rfl harity
      intro _ hlength
      exact (h ctx args hctx hfit hw hlength).eq
    · apply Yields.bind (harity.mono (fun _ => id) fun _ _ => trivial)
      intro _ hlength
      exact (h ctx args hctx hfit hw hlength).within
  · intro hclass
    cases hclass

include hN

theorem agree_arithmetic (op : BinaryOp) (signature doc : String) :
    Agree N (op.operator signature doc : Operator α) (.field (runBinary op)) := by
  apply agree_of_field
  intro ctx args hctx hfit hw hlength
  match args, hlength with
  | [left, right], _ =>
    have hl : left.Proper N ctx := ⟨hfit.1, hw _ (by simp)⟩
    have hr : right.Proper N ctx := ⟨hfit.2.1, hw _ (by simp)⟩
    exact ⟨combine_eq hN hctx op hl hr, op.combine_within hl.2 hr.2 ctx⟩

theorem agree_range (name signature doc : String) (f : α → α → α → α) :
    Agree N ⟨name, signature, doc, [true, true, true], .field (Synoptic.runTernary name f)⟩
      (.field (runTernary name f)) := by
  apply agree_of_field
  intro ctx args hctx hfit hw hlength
  match args, hlength with
  | [x, lo, hi], _ =>
    have hv : ∀ v ∈ [x, lo, hi], v.Fits ctx :=
      hfit.pointwise (show ∀ i < 3, (!([true, true, true].getD i true)) = false by decide)
    constructor
    · exact runTernary_eq hN hctx (fun v hm => ⟨hv v hm, hw v hm⟩) name f
    · exact Yields.bind (Yields.trivial _) fun aligned _ => aligned.apply_within N _

theorem agree_derivative (name signature doc : String) (f : α → Derivatives α → α) :
    Agree N ⟨name, signature, doc, [false],
        .field (Synoptic.runUnary name fun v ctx => Synoptic.differentiate name v ctx (f ctx.unitFactor))⟩
      (.field (runDerivative name f)) := by
  apply agree_of_field
  intro ctx args hctx hfit hw hlength
  match args, hlength with
  | [x], _ =>
    have hx : x.Proper N ctx.withoutPoints := ⟨hfit.1, hw _ (by simp)⟩
    exact ⟨differentiate_eq hN hctx name hx _, differentiate_within name hctx hx _⟩

theorem agree_divergence (signature doc : String) :
    Agree N (⟨"divrg", signature, doc, [false, false], .field Synoptic.runDivergence⟩ : Operator α)
      (.field runDivergence) := by
  apply agree_of_field
  intro ctx args hctx hfit hw hlength
  match args, hlength with
  | [u, v], _ =>
    have hu : u.Proper N ctx.withoutPoints := ⟨hfit.1, hw _ (by simp)⟩
    have hv : v.Proper N ctx.withoutPoints := ⟨hfit.2.1, hw _ (by simp)⟩
    exact ⟨divergence_eq hN hctx hu hv, divergence_within hctx hu hv⟩

theorem agree_advection (signature doc : String) :
    Agree N
      (⟨"advct", signature, doc, [false, true, true], .field Synoptic.runAdvection⟩ : Operator α)
      (.field runAdvection) := by
  apply agree_of_field
  intro ctx args hctx hfit hw hlength
  match args, hlength with
  | [f, u, v], _ =>
    have hf : f.Proper N ctx.withoutPoints := ⟨hfit.1, hw _ (by simp)⟩
    have hu : u.Proper N ctx := ⟨hfit.2.1, hw _ (by simp)⟩
    have hv : v.Proper N ctx := ⟨hfit.2.2.1, hw _ (by simp)⟩
    exact ⟨advection_eq hN hctx hf hu hv, advection_within hctx hf hu hv⟩

theorem agree_tendency (signature doc : String) :
    Agree N (⟨"ddt", signature, doc, [true], .series Synoptic.tendency⟩ : Operator α)
      (.series tendency) := by
  constructor
  · intro hclass
    exact absurd rfl hclass
  · intro _ ctx times members hctx hfit hw
    exact ⟨tendency_eq hN hctx fun v hv => ⟨hfit v hv, hw v hv⟩, tendency_within N times members ctx⟩

theorem agree_elementary (name : String) (f : α → α) :
    Agree N (elementary name f) (.first (elementary name f).action) := by
  constructor
  · intro _ ctx args hctx hfit hw
    have harity := (elementary name f).checkArity_yields args.length ctx
    constructor
    · apply inRange_bind rfl harity
      intro _ hlength
      match args, hlength with
      | [x], _ =>
        have hv : ∀ v ∈ [x], v.Fits ctx := List.forall_mem_singleton.mpr hfit.1
        apply apply_align_eq hN hctx.projection hv hw
        intro xs hxs
        have hlength : xs.length = 1 := hxs
        rw [read_list (by omega) Number.absent]
        rfl
    · apply Yields.bind (Yields.trivial _)
      intro _ _
      exact Yields.bind (Yields.trivial _) fun aligned _ => aligned.apply_within N _
  · intro hclass
    cases hclass

theorem agree_vapour (signature doc : String) :
    Agree N (⟨"svprs", signature, doc, [true], .field Synoptic.vapourPressure⟩ : Operator α)
      (.field vapourPressure) := by
  apply agree_of_field
  intro ctx args hctx hfit hw hlength
  match args, hlength with
  | [t], _ =>
    have hv : ∀ v ∈ [t], v.Fits ctx := List.forall_mem_singleton.mpr hfit.1
    constructor
    · exact vapourPressure_eq hN hctx fun v hm => ⟨hv v hm, hw v hm⟩
    · apply Yields.bind (Yields.trivial _)
      intro aligned _
      split
      · trivial
      · exact aligned.apply_within N _

omit hN

theorem agree_place (name signature doc : String) (f : Context α → Point α → α) :
    Agree N ⟨name, signature, doc, [], .field (runPlace name f)⟩
      (.field fun args ctx => inRange (runPlace name f args ctx)) := by
  apply agree_of_field
  intro ctx args _ _ _ hlength
  match args, hlength with
  | [], _ => exact ⟨rfl, sample_within N ctx _⟩

theorem agree_pressure (name signature doc : String) (role : LevelRole) :
    Agree N (⟨name, signature, doc, [], .field (runPressure name role)⟩ : Operator α)
      (.field fun args ctx => inRange (runPressure name role args ctx)) := by
  apply agree_of_field
  intro ctx args _ _ _ hlength
  match args, hlength with
  | [], _ =>
    refine ⟨rfl, ?_⟩
    simp only [runPressure, pressureOf]
    split <;> trivial

include hN

theorem agree_arithmeticOperators :
    List.Forall₂ (Agree N) (arithmeticOperators : List (Operator α)) arithmeticActions :=
  .cons (agree_arithmetic hN ..) <| .cons (agree_arithmetic hN ..) <|
    .cons (agree_arithmetic hN ..) <| .cons (agree_arithmetic hN ..) <|
      .cons (agree_arithmetic hN ..) <| .cons (agree_arithmetic hN ..) <|
        .cons (agree_arithmetic hN ..) .nil

theorem agree_rangeOperators :
    List.Forall₂ (Agree N) (rangeOperators : List (Operator α)) rangeActions :=
  .cons (agree_range hN ..) <| .cons (agree_range hN ..) .nil

theorem agree_derivativeOperators :
    List.Forall₂ (Agree N) (derivativeOperators : List (Operator α)) derivativeActions :=
  .cons (agree_derivative hN _ _ _ fun k d => d.fx * k) <|
    .cons (agree_derivative hN _ _ _ fun k d => d.fy * k) <|
      .cons (agree_derivative hN _ _ _ fun k d => Spline.isolineCurvature d * k) <|
        .cons (agree_derivative hN _ _ _ fun k d => (d.fxx + d.fyy) * k * k) <|
          .cons (agree_divergence hN ..) <| .cons (agree_advection hN ..) .nil

theorem agree_elementaryOperators :
    ∀ op ∈ (elementaryOperators : List (Operator α)), Agree N op (.first op.action) := by
  simp only [elementaryOperators, List.forall_mem_cons]
  exact ⟨agree_elementary hN .., agree_elementary hN .., agree_elementary hN ..,
    agree_elementary hN .., agree_elementary hN .., agree_elementary hN ..,
    agree_elementary hN .., agree_elementary hN .., agree_elementary hN ..,
    agree_elementary hN .., agree_elementary hN .., agree_elementary hN ..,
    agree_elementary hN .., agree_elementary hN .., by simp⟩

omit hN

theorem agree_placeOperators :
    ∀ op ∈ (placeOperators : List (Operator α)), Agree N op (.free op.action) := by
  simp only [placeOperators, List.forall_mem_cons]
  exact ⟨agree_place .., agree_place .., by simp⟩

theorem agree_solarOperators :
    ∀ op ∈ (solarOperators : List (Operator α)), Agree N op (.free op.action) := by
  simp only [solarOperators, List.forall_mem_cons]
  exact ⟨agree_place .., agree_place .., by simp⟩

theorem agree_pressureOperators :
    ∀ op ∈ (pressureOperators : List (Operator α)), Agree N op (.free op.action) := by
  simp only [pressureOperators, List.forall_mem_cons]
  exact ⟨agree_pressure .., agree_pressure .., agree_pressure .., by simp⟩

theorem forall₂_map {l : List (Operator α)} {f : Operator α → Action α}
    (h : ∀ op ∈ l, Agree N op (f op)) : List.Forall₂ (Agree N) l (l.map f) :=
  List.forall₂_map_right_iff.mpr (List.forall₂_same.mpr h)

include hN

theorem agree_operators :
    List.Forall₂ (Agree N) (Catalogue.operators : List (Operator α)) actions := by
  have htendency : List.Forall₂ (Agree N) (tendencyOperators : List (Operator α))
      [.series tendency] := .cons (agree_tendency hN ..) .nil
  have hvapour : List.Forall₂ (Agree N) (vapourOperators : List (Operator α))
      [.field vapourPressure] := .cons (agree_vapour hN ..) .nil
  have h := List.rel_append (agree_arithmeticOperators hN) (agree_rangeOperators hN)
  have h := List.rel_append h (agree_derivativeOperators hN)
  have h := List.rel_append h htendency
  have h := List.rel_append h (forall₂_map agree_placeOperators)
  have h := List.rel_append h (forall₂_map agree_pressureOperators)
  have h := List.rel_append h (forall₂_map (agree_elementaryOperators hN))
  have h := List.rel_append h (forall₂_map agree_solarOperators)
  exact List.rel_append h hvapour

theorem agree_of_find? {name : String} {o : Operator α × Action α} (h : find? name = some o) :
    Agree N o.1 o.2 :=
  (List.forall₂_iff_zip.mp (agree_operators hN)).2 (List.mem_of_find?_eq_some h)

omit hN

theorem find?_eq (name : String) :
    (find? name).map (·.1) = (Catalogue.find? name : Option (Operator α)) := by
  have hlength : (Catalogue.operators : List (Operator α)).length ≤
      (actions : List (Action α)).length := Nat.le_of_eq rfl
  rw [find?, Catalogue.find?]
  conv_rhs => rw [← List.map_fst_zip hlength, List.find?_map]
  rfl

end Agreement

end Checked

end Synoptic
