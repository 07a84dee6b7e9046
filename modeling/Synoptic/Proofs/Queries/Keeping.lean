import Synoptic.Proofs.Coherence

namespace Synoptic

variable {α : Type} [Number α]

namespace Database

def ReadingKeeps (I : Database α → Prop) : Prop :=
  ∀ d target, Ensures I (fieldFor d target) (fun _ => True) fun _ => True

/-- An invariant kept by what a reading is made of. Vectors may be put together for some descriptors
only, if those of declared vectors are among them. -/
structure KeptByReading (assembled : Descriptor α → Prop) (I : Database α → Prop) : Prop where
  declared : ∀ db d, I db → declaredVector? db.components d ≠ none → d.kind = .vector → assembled d
  entry : ∀ d, Ensures I (entry d) (fun _ => True) fun _ => True
  assemble : ∀ d x y, assembled d → Ensures I (assemble d x y) (fun _ => True) fun _ => True
  remember : ∀ p, Ensures I
    (modify fun db => { db with lastProjection := some p } : Query α PUnit) (fun _ => True)
      fun _ => True

namespace KeptByReading

variable {assembled : Descriptor α → Prop} {I : Database α → Prop} (h : KeptByReading assembled I)

include h

theorem field (d : Descriptor α) : Ensures I (field d) (fun _ => True) fun _ => True :=
  Ensures.bind (h.entry d) fun _ _ => Ensures.pure trivial

theorem fieldWithProjection (d : Descriptor α) :
    Ensures I (fieldWithProjection d) (fun _ => True) fun _ => True :=
  Ensures.bind (h.entry d) fun _ _ => Ensures.pure trivial

theorem vectorField {d : Descriptor α} (hd : d.kind = .vector → assembled d) (x y : String) :
    Ensures I (vectorField d x y) (fun _ => True) fun _ => True := by
  rw [Database.vectorField]
  split
  · exact Ensures.throw trivial
  · rename_i hkind
    have hassemble := h.assemble d x y (hd (not_not.mp hkind))
    apply Ensures.bind (Query.ensures_outcome (h.entry d))
    intro r _
    cases r with
    | ok e =>
      dsimp only
      split
      · exact Ensures.bind (h.remember _) fun _ _ => Ensures.pure trivial
      · exact hassemble
    | error e =>
      cases e with
      | fetch _ => exact hassemble
      | _ => exact Ensures.throw trivial

theorem componentField (d : Descriptor α) (axis : Axis) (partner : String)
    (target : Projection α) :
    Ensures I (componentField d axis partner target) (fun _ => True) fun _ => True := by
  apply Ensures.bind (h.entry d)
  intro requested _
  split
  · apply Ensures.bind (P := fun _ => True)
    · apply Ensures.bind (Query.ensures_outcome (h.entry _))
      intro r _
      cases r with
      | ok e => exact Ensures.pure trivial
      | error e => exact Ensures.throw trivial
    · intro other _
      split
      · exact Ensures.mono
          (turnedField_realizes d axis partner target requested.field other.field)
          (fun _ _ => trivial) fun _ _ => trivial
      · exact Ensures.throw trivial
  · exact Ensures.pure trivial

theorem readingKeeps : ReadingKeeps I := by
  intro d target
  apply Ensures.bind Ensures.get
  intro db hdb
  dsimp only
  split
  · rename_i v hv
    exact h.vectorField (h.declared db d hdb (by rw [hv]; nofun)) _ _
  · split
    · exact h.componentField d _ _ target
    · exact Ensures.bind (h.entry d) fun _ _ => Ensures.pure trivial

end KeptByReading

end Database

namespace Expr

variable {I : Database α → Prop}

theorem leaf_keeps (hread : Database.ReadingKeeps I) (d : Descriptor α) (ctx : Context α)
    (whole : Bool) :
    Ensures I (leaf d ctx whole) (fun _ => True) fun _ => True := by
  apply Ensures.bind (Evaluation.ensures_ofQuery (hread _ _))
  intro field _
  cases field.single? with
  | some s => exact Evaluation.ensures_ofExcept (Yields.trivial _)
  | none => exact Ensures.throw trivial

mutual

theorem eval_keeps (hread : Database.ReadingKeeps I) :
    ∀ (e : Expr α) (ctx : Context α) (whole : Bool),
      Ensures I (e.eval ctx whole) (fun _ => True) fun _ => True
  | .constant _, _, _ => Ensures.pure trivial
  | .field d, ctx, whole => leaf_keeps hread d ctx whole
  | .call name args, ctx, whole => by
    rw [eval]
    apply Ensures.bind (Evaluation.ensures_ofExcept (Yields.trivial _))
    intro op _
    dsimp only
    split
    · exact Ensures.bind (evalSeries_keeps hread args _ _)
        fun _ _ => Evaluation.ensures_ofExcept (Yields.trivial _)
    · exact Ensures.bind (evalArgs_keeps hread args _ _)
        fun _ _ => Evaluation.ensures_ofExcept (Yields.trivial _)

theorem evalSeries_keeps (hread : Database.ReadingKeeps I) :
    ∀ (es : List (Expr α)) (ctx : Context α) (whole : Bool),
      Ensures I (evalSeries es ctx whole) (fun _ => True) fun _ => True
  | [], _, _ => Ensures.pure trivial
  | e :: _, ctx, whole => by
    rw [evalSeries]
    exact (Ensures.mapM fun minutes _ => eval_keeps hread e (ctx.shifted minutes) whole).mono
      (fun _ _ => trivial) fun _ _ => trivial

theorem evalArgs_keeps (hread : Database.ReadingKeeps I) :
    ∀ (es : List (Expr α)) (ctx : Context α) (whole : Nat → Bool),
      Ensures I (evalArgs es ctx whole) (fun _ => True) fun _ => True
  | [], _, _ => Ensures.pure trivial
  | e :: es, ctx, whole => by
    rw [evalArgs]
    apply Ensures.bind (eval_keeps hread e ctx (whole 0))
    intro _ _
    exact Ensures.bind (evalArgs_keeps hread es ctx fun i => whole (i + 1))
      fun _ _ => Ensures.pure trivial

end

theorem evaluate_keeps (hread : Database.ReadingKeeps I) (e : Expr α) (ctx : Context α) :
    Ensures I (e.evaluate ctx) (fun _ => True) fun _ => True :=
  Ensures.bind (Evaluation.ensures_ofExcept (Yields.trivial _))
    fun _ _ => eval_keeps hread e ctx false

end Expr

end Synoptic
