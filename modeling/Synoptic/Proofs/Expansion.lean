import Synoptic.Proofs.Refusal.Evaluation
import Synoptic.Proofs.Standing

namespace Synoptic

variable {α : Type} [Number α]

namespace Expr

variable {read : Provider α} {ctx : Context α} {name : String} {op : Operator α}

theorem callee_eq_ok {count : Nat} (hop : Catalogue.find? name = some op) {op' : Operator α} :
    callee name count = .ok op' ↔ count = op.arity ∧ op = op' := by
  rw [callee_eq_ok_iff, hop, Option.some.injEq]
  exact ⟨fun ⟨h, hcount⟩ => ⟨h ▸ hcount, h⟩, fun ⟨hcount, h⟩ => ⟨h, h ▸ hcount⟩⟩

theorem checkAll_eq_ok {es : List (Expr α)} :
    checkAll es = .ok () ↔ ∀ e ∈ es, e.check = .ok () := by
  induction es with
  | nil => simp [checkAll]
  | cons e es ih =>
    rw [checkAll, bind_eq_ok, List.forall_mem_cons, ← ih]
    constructor
    · rintro ⟨_, h, h'⟩
      exact ⟨h, h'⟩
    · rintro ⟨h, h'⟩
      exact ⟨(), h, h'⟩

theorem check_call (hop : Catalogue.find? name = some op) {args : List (Expr α)} :
    (call name args).check = .ok () ↔
      args.length = op.arity ∧ ∀ e ∈ args, e.check = .ok () := by
  rw [check, bind_eq_ok, ← checkAll_eq_ok]
  simp only [callee_eq_ok hop]
  exact ⟨fun ⟨_, ⟨hcount, _⟩, h⟩ => ⟨hcount, h⟩, fun ⟨hcount, h⟩ => ⟨op, ⟨hcount, rfl⟩, h⟩⟩

theorem check_constant (x : α) : (constant x).check = .ok () := rfl

theorem argsMeaning_length : ∀ {es : List (Expr α)} {whole : Nat → Bool} {values : List (Value α)},
    argsMeaning read es ctx whole = .ok values → values.length = es.length
  | [], _, _, h => by
    cases h
    rfl
  | e :: es, _, _, h => by
    obtain ⟨v, _, h⟩ := ok_of_bind h
    obtain ⟨vs, hvs, h⟩ := ok_of_bind h
    cases h
    exact congrArg (· + 1) (argsMeaning_length hvs)

theorem argsMeaning_cons {e : Expr α} {es : List (Expr α)} {whole : Nat → Bool}
    {values : List (Value α)} :
    argsMeaning read (e :: es) ctx whole = .ok values ↔
      ∃ v vs, e.meaning read ctx (whole 0) = .ok v ∧
        argsMeaning read es ctx (fun i => whole (i + 1)) = .ok vs ∧ values = v :: vs := by
  rw [argsMeaning, bind_eq_ok]
  simp only [bind_eq_ok, Except.ok.injEq]
  exact ⟨fun ⟨v, hv, vs, hvs, h⟩ => ⟨v, vs, hv, hvs, h.symm⟩,
    fun ⟨v, vs, hv, hvs, h⟩ => ⟨v, hv, vs, hvs, h.symm⟩⟩

theorem argsMeaning_nil {whole : Nat → Bool} {values : List (Value α)} :
    argsMeaning read [] ctx whole = .ok values ↔ values = [] := by
  simp [argsMeaning, eq_comm]

theorem meaning_call (hop : Catalogue.find? name = some op)
    {run : List (Value α) → Context α → Except (ValueError α) (Value α)}
    (hrun : op.action = .field run) {args : List (Expr α)} {w : Value α} :
    (call name args).meaning read ctx false = .ok w ↔ args.length = op.arity ∧
      ∃ values, argsMeaning read args ctx (fun i => !op.acceptsPointwise i) = .ok values ∧
        run values ctx = .ok w := by
  have hcall (values : List (Value α)) (hcount : values.length = op.arity) :
      op.call values ctx = run values ctx := by
    rw [Operator.call, hrun, Operator.checkArity, if_pos hcount]
    rfl
  have hclass : op.action.class = .field := by rw [hrun]; rfl
  rw [meaning, bind_eq_ok]
  simp only [callee_eq_ok hop]
  constructor
  · rintro ⟨_, ⟨hcount, rfl⟩, h⟩
    rw [hclass] at h
    obtain ⟨values, hvalues, h⟩ := ok_of_bind h
    rw [ofValue_eq_ok] at h
    refine ⟨hcount, values, hvalues, ?_⟩
    rw [← hcall values ((argsMeaning_length hvalues).trans hcount)]
    exact h
  · rintro ⟨hcount, values, hvalues, h⟩
    refine ⟨op, ⟨hcount, rfl⟩, ?_⟩
    rw [hclass]
    refine bind_eq_ok.mpr ⟨values, hvalues, ofValue_eq_ok.mpr ?_⟩
    exact (hcall values ((argsMeaning_length hvalues).trans hcount)).trans h

section Counts

variable {sig doc : String} {p q r : Bool} {e e₁ e₂ e₃ : Expr α} {w : Value α}

theorem meaning_unary {f : Value α → Context α → Except (ValueError α) (Value α)}
    (hop : Catalogue.find? name = some ⟨name, sig, doc, [p], .field (runUnary name f)⟩) :
    (call name [e]).meaning read ctx false = .ok w ↔
      ∃ x, e.meaning read ctx (!p) = .ok x ∧ f x ctx = .ok w := by
  rw [meaning_call hop rfl]
  simp only [argsMeaning_cons, argsMeaning_nil]
  constructor
  · rintro ⟨_, _, ⟨x, _, hx, rfl, rfl⟩, h⟩
    exact ⟨x, hx, h⟩
  · rintro ⟨x, hx, h⟩
    exact ⟨rfl, _, ⟨x, _, hx, rfl, rfl⟩, h⟩

variable {run : List (Value α) → Context α → Except (ValueError α) (Value α)}

theorem meaning_binary
    (hop : Catalogue.find? name = some ⟨name, sig, doc, [p, q], .field run⟩) :
    (call name [e₁, e₂]).meaning read ctx false = .ok w ↔
      ∃ x y, e₁.meaning read ctx (!p) = .ok x ∧ e₂.meaning read ctx (!q) = .ok y ∧
        run [x, y] ctx = .ok w := by
  rw [meaning_call hop rfl]
  simp only [argsMeaning_cons, argsMeaning_nil]
  constructor
  · rintro ⟨_, _, ⟨x, _, hx, ⟨y, _, hy, rfl, rfl⟩, rfl⟩, h⟩
    exact ⟨x, y, hx, hy, h⟩
  · rintro ⟨x, y, hx, hy, h⟩
    exact ⟨rfl, _, ⟨x, _, hx, ⟨y, _, hy, rfl, rfl⟩, rfl⟩, h⟩

theorem meaning_ternary
    (hop : Catalogue.find? name = some ⟨name, sig, doc, [p, q, r], .field run⟩) :
    (call name [e₁, e₂, e₃]).meaning read ctx false = .ok w ↔
      ∃ x y z, e₁.meaning read ctx (!p) = .ok x ∧ e₂.meaning read ctx (!q) = .ok y ∧
        e₃.meaning read ctx (!r) = .ok z ∧ run [x, y, z] ctx = .ok w := by
  rw [meaning_call hop rfl]
  simp only [argsMeaning_cons, argsMeaning_nil]
  constructor
  · rintro ⟨_, _, ⟨x, _, hx, ⟨y, _, hy, ⟨z, _, hz, rfl, rfl⟩, rfl⟩, rfl⟩, h⟩
    exact ⟨x, y, z, hx, hy, hz, h⟩
  · rintro ⟨x, y, z, hx, hy, hz, h⟩
    exact ⟨rfl, _, ⟨x, _, hx, ⟨y, _, hy, ⟨z, _, hz, rfl, rfl⟩, rfl⟩, rfl⟩, h⟩

end Counts

theorem checkedMeaning_eq_ok {e : Expr α} {w : Value α} :
    e.checkedMeaning read ctx = .ok w ↔ e.check = .ok () ∧ e.meaning read ctx false = .ok w := by
  rw [checkedMeaning, bind_eq_ok]
  exact ⟨fun ⟨_, h⟩ => h, fun h => ⟨(), h⟩⟩

end Expr

namespace Catalogue

theorem find?_plus : find? "plus" = some (BinaryOp.plus.operator (α := α)
    "plus(a, b) -> Value" "Element-wise sum") :=
  find?_of_mem (by simp [operators, arithmeticOperators]) (beq_self_eq_true _)

theorem find?_multiply : find? "multiply" = some (BinaryOp.multiply.operator (α := α)
    "multiply(a, b) -> Value" "Element-wise product") :=
  find?_of_mem (by simp [operators, arithmeticOperators]) (beq_self_eq_true _)

theorem find?_ddx : find? "ddx" = some (α := Operator α) ⟨"ddx", "ddx(f) -> Value",
    "Partial derivative along the map x axis", [false], .field (runUnary "ddx" ddx)⟩ :=
  find?_of_mem (by simp [operators, derivativeOperators]) (beq_self_eq_true _)

theorem find?_ddy : find? "ddy" = some (α := Operator α) ⟨"ddy", "ddy(f) -> Value",
    "Partial derivative along the map y axis", [false], .field (runUnary "ddy" ddy)⟩ :=
  find?_of_mem (by simp [operators, derivativeOperators]) (beq_self_eq_true _)

theorem find?_divrg : find? "divrg" = some (α := Operator α) ⟨"divrg", "divrg(u, v) -> Value",
    "Divergence of the vector (u, v)", [false, false], .field runDivergence⟩ :=
  find?_of_mem (by simp [operators, derivativeOperators]) (beq_self_eq_true _)

theorem find?_advct : find? "advct" = some (α := Operator α) ⟨"advct", "advct(f, u, v) -> Value",
    "Advection of f by the wind (u, v)", [false, true, true], .field runAdvection⟩ :=
  find?_of_mem (by simp [operators, derivativeOperators]) (beq_self_eq_true _)

end Catalogue

namespace Expr

variable {read : Provider α} {ctx : Context α} {f u v : Expr α} {w : Value α}

def divergence (u v : Expr α) : Expr α := .call "divrg" [u, v]

def divergenceInFull (u v : Expr α) : Expr α := .call "plus" [.call "ddx" [u], .call "ddy" [v]]

def advection (f u v : Expr α) : Expr α := .call "advct" [f, u, v]

def advectionInFull (f u v : Expr α) : Expr α :=
  .call "multiply"
    [.call "plus" [.call "multiply" [u, .call "ddx" [f]], .call "multiply" [v, .call "ddy" [f]]],
      .constant (-1)]

theorem meaning_divergence :
    (divergence u v).meaning read ctx false = .ok w ↔
      (divergenceInFull u v).meaning read ctx false = .ok w := by
  rw [divergence, divergenceInFull, meaning_binary Catalogue.find?_divrg,
    meaning_binary Catalogue.find?_plus]
  simp only [Bool.not_true, Bool.not_false, meaning_unary Catalogue.find?_ddx,
    meaning_unary Catalogue.find?_ddy]
  constructor
  · rintro ⟨x, y, hx, hy, h⟩
    obtain ⟨dx, hdx, h⟩ := ok_of_bind h
    obtain ⟨dy, hdy, h⟩ := ok_of_bind h
    exact ⟨dx, dy, ⟨x, hx, hdx⟩, ⟨y, hy, hdy⟩, h⟩
  · rintro ⟨dx, dy, ⟨x, hx, hdx⟩, ⟨y, hy, hdy⟩, h⟩
    exact ⟨x, y, hx, hy, bind_eq_ok.mpr ⟨dx, hdx, bind_eq_ok.mpr ⟨dy, hdy, h⟩⟩⟩

theorem meaning_advection :
    (advection f u v).meaning read ctx false = .ok w ↔
      (advectionInFull f u v).meaning read ctx false = .ok w := by
  rw [advection, advectionInFull, meaning_ternary Catalogue.find?_advct,
    meaning_binary Catalogue.find?_multiply]
  simp only [Bool.not_true, Bool.not_false, meaning_binary Catalogue.find?_plus,
    meaning_binary Catalogue.find?_multiply, meaning_unary Catalogue.find?_ddx,
    meaning_unary Catalogue.find?_ddy]
  constructor
  · rintro ⟨x, y, z, hx, hy, hz, h⟩
    obtain ⟨dx, hdx, h⟩ := ok_of_bind h
    obtain ⟨alongX, halongX, h⟩ := ok_of_bind h
    obtain ⟨dy, hdy, h⟩ := ok_of_bind h
    obtain ⟨alongY, halongY, h⟩ := ok_of_bind h
    obtain ⟨total, htotal, h⟩ := ok_of_bind h
    exact ⟨total, .scalar (-1), ⟨alongX, alongY, ⟨y, dx, hy, ⟨x, hx, hdx⟩, halongX⟩,
      ⟨z, dy, hz, ⟨x, hx, hdy⟩, halongY⟩, htotal⟩, rfl, h⟩
  · rintro ⟨total, c, ⟨alongX, alongY, ⟨y, dx, hy, ⟨x, hx, hdx⟩, halongX⟩,
      ⟨z, dy, hz, ⟨x', hx', hdy⟩, halongY⟩, htotal⟩, hc, h⟩
    cases hx.symm.trans hx'
    cases hc
    exact ⟨x, y, z, hx, hy, hz, bind_eq_ok.mpr ⟨dx, hdx, bind_eq_ok.mpr ⟨alongX, halongX,
      bind_eq_ok.mpr ⟨dy, hdy, bind_eq_ok.mpr ⟨alongY, halongY, bind_eq_ok.mpr
        ⟨total, htotal, h⟩⟩⟩⟩⟩⟩

theorem check_divergence :
    (divergence u v).check = .ok () ↔ (divergenceInFull u v).check = .ok () := by
  simp [divergence, divergenceInFull, check_call Catalogue.find?_divrg,
    check_call Catalogue.find?_plus, check_call Catalogue.find?_ddx,
    check_call Catalogue.find?_ddy, Operator.arity, BinaryOp.operator]

theorem check_advection :
    (advection f u v).check = .ok () ↔ (advectionInFull f u v).check = .ok () := by
  have hshort : (advection f u v).check = .ok () ↔
      f.check = .ok () ∧ u.check = .ok () ∧ v.check = .ok () := by
    simp [advection, check_call Catalogue.find?_advct, Operator.arity]
  have hfull : (advectionInFull f u v).check = .ok () ↔
      (u.check = .ok () ∧ f.check = .ok ()) ∧ v.check = .ok () ∧ f.check = .ok () := by
    simp [advectionInFull, check_call Catalogue.find?_plus, check_call Catalogue.find?_multiply,
      check_call Catalogue.find?_ddx, check_call Catalogue.find?_ddy, check_constant,
      Operator.arity, BinaryOp.operator]
  rw [hshort, hfull]
  exact ⟨fun ⟨hf, hu, hv⟩ => ⟨⟨hu, hf⟩, hv, hf⟩, fun ⟨⟨hu, hf⟩, hv, _⟩ => ⟨hf, hu, hv⟩⟩

/-- After any evaluations, divergence and advection have a value just where what they are short for
has it, and it is the same. Offsets out of the calendar count as none. -/
theorem evaluate_inFull (a : Archive α) (t : ComponentTable) (history : List (Expr α × Context α))
    (ctx : Context α) (f u v : Expr α) (w : Value α) :
    (answer ((divergence u v).evaluate ctx) ((Database.new a t).afterEvaluations history) = .ok w ↔
      answer ((divergenceInFull u v).evaluate ctx)
        ((Database.new a t).afterEvaluations history) = .ok w) ∧
    (answer ((advection f u v).evaluate ctx) ((Database.new a t).afterEvaluations history) =
        .ok w ↔
      answer ((advectionInFull f u v).evaluate ctx)
        ((Database.new a t).afterEvaluations history) = .ok w) := by
  simp only [answer_afterEvaluations, checkedMeaning_eq_ok]
  exact ⟨and_congr check_divergence meaning_divergence,
    and_congr check_advection meaning_advection⟩

end Expr

end Synoptic
