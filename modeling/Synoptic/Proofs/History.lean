import Synoptic.Binary64.Scalar
import Synoptic.Proofs.Meaning

namespace Synoptic

variable {α : Type} [Number α]

/-- What a database may be asked, short of changes by hand. -/
inductive Access (α : Type)
  | evaluate (e : Expr α) (ctx : Context α)
  | field (d : Descriptor α)
  | fieldWithProjection (d : Descriptor α)
  | fieldFor (d : Descriptor α) (target : Projection α)
  | delete (d : Descriptor α)
  | clear

def stateAfter {ε σ β : Type} (x : EStateM ε σ β) (s : σ) : σ :=
  match x s with
  | .ok _ s => s
  | .error _ s => s

def answer {ε σ β : Type} (x : EStateM ε σ β) (s : σ) : Except ε β :=
  match x s with
  | .ok b _ => .ok b
  | .error e _ => .error e

section Runs

variable {ε σ β : Type} {x : EStateM ε σ β} {s : σ}

theorem Leads.stateAfter {R : σ → Prop} (h : Leads x s (fun _ => R) fun _ => R) :
    R (stateAfter x s) := by
  rw [Leads] at h
  rw [Synoptic.stateAfter]
  cases hr : x s <;> rwa [hr] at h

theorem Leads.answer {P : β → Prop} {Q : ε → Prop} (h : Leads x s (fun b _ => P b) fun e _ => Q e) :
    Yields (answer x s) P Q := by
  rw [Leads] at h
  rw [Synoptic.answer]
  cases hr : x s <;> rwa [hr] at h

theorem Leads.answer_eq {r : Except ε β}
    (h : Leads x s (fun b _ => r = .ok b) fun e _ => r = .error e) : Synoptic.answer x s = r := by
  have hx := h.answer
  cases hr : Synoptic.answer x s <;> exact (hr ▸ hx).symm

variable {I : σ → Prop} {P : β → Prop} {Q : ε → Prop}

theorem Ensures.stateAfter (h : Ensures I x P Q) (hs : I s) : I (stateAfter x s) :=
  ((leads_iff.mp h s hs).mono (fun _ _ => And.left) fun _ _ => And.left).stateAfter

theorem Ensures.answer (h : Ensures I x P Q) (hs : I s) : Yields (answer x s) P Q :=
  ((leads_iff.mp h s hs).mono (fun _ _ => And.right) fun _ _ => And.right).answer

theorem Realizes.answer_eq {r : Except ε β} {c : Prop} (h : Realizes I c x r) (hc : c) (hs : I s) :
    Synoptic.answer x s = r :=
  ((Ensures.leads_iff.mp h s hs).mono (fun _ _ => And.right) fun _ _ he => he.2 hc).answer_eq

end Runs

namespace Access

def run : Access α → Database α → Database α
  | .evaluate e ctx => stateAfter (e.evaluate ctx)
  | .field d => stateAfter (Database.field d)
  | .fieldWithProjection d => stateAfter (Database.fieldWithProjection d)
  | .fieldFor d target => stateAfter (Database.fieldFor d target)
  | .delete d => stateAfter (Database.delete d)
  | .clear => stateAfter Database.clear

theorem run_coherent {a : Archive α} {t : ComponentTable} {db : Database α}
    (h : db.Coherent a t) (access : Access α) : (access.run db).Coherent a t := by
  cases access with
  | evaluate e ctx => exact Ensures.stateAfter (e.evaluate_realizes ctx) h
  | field d => exact Ensures.stateAfter (Database.ensures_of_entry d (·.field)) h
  | fieldWithProjection d =>
    exact Ensures.stateAfter (Database.ensures_of_entry d fun e => (e.projection, e.field)) h
  | fieldFor d target => exact Ensures.stateAfter (Database.fieldFor_realizes d target) h
  | delete d => exact Ensures.stateAfter (Database.ensures_delete d (Q := fun _ => True)) h
  | clear => exact Ensures.stateAfter (Database.ensures_clear (Q := fun _ => True)) h

end Access

def Database.after (db : Database α) (history : List (Access α)) : Database α :=
  history.foldl (fun db access => access.run db) db

theorem Database.after_coherent {a : Archive α} {t : ComponentTable} {db : Database α}
    (h : db.Coherent a t) (history : List (Access α)) : (db.after history).Coherent a t := by
  induction history generalizing db with
  | nil => exact h
  | cons access history ih => exact ih (access.run_coherent h)

namespace Expr

theorem answer_undeclared (a : Archive α) (e : Expr α) (ctx : Context α) :
    answer (e.evaluate ctx) (Database.new a .empty) =
      e.checkedMeaning (a.fieldReading .empty) ctx := by
  apply (e.evaluate_realizes ctx).answer_eq _ (Database.Coherent.new ..)
  intro d _ _ partner axis h
  cases h

theorem value_of_evaluate_after {a : Archive α} {t : ComponentTable} {history : List (Access α)}
    {e : Expr α} {ctx : Context α} {v : Value α}
    (h : answer (e.evaluate ctx) ((Database.new a t).after history) = .ok v) :
    e.checkedMeaning (a.fieldReading t) ctx = .ok v := by
  have hy := Ensures.answer (e.evaluate_realizes ctx)
    (Database.after_coherent (Database.Coherent.new a t) history)
  rw [h] at hy
  exact hy

/-- Whatever a database was asked before, an expression has the value or the error that it has over
a new one, if the partners of its components are not declared vectors themselves. Any expression has
no other value than it has over a new one. Offsets out of the calendar count as none. -/
theorem evaluate_after (a : Archive α) (t : ComponentTable) (history : List (Access α))
    (e : Expr α) (ctx : Context α) :
    ((∀ d ∈ e.fields, d.PlainPartner t) →
        answer (e.evaluate ctx) ((Database.new a t).after history) =
          answer (e.evaluate ctx) (Database.new a t)) ∧
      ∀ v w, answer (e.evaluate ctx) ((Database.new a t).after history) = .ok v →
        answer (e.evaluate ctx) (Database.new a t) = .ok w → v = w := by
  have hnew := Database.Coherent.new a t
  constructor
  · intro h
    rw [(e.evaluate_realizes ctx).answer_eq h (Database.after_coherent hnew history)]
    rw [(e.evaluate_realizes ctx).answer_eq h hnew]
  · intro v w hv hw
    have hv := value_of_evaluate_after hv
    have hw : answer (e.evaluate ctx) ((Database.new a t).after []) = .ok w := hw
    have hw := value_of_evaluate_after hw
    exact Except.ok.inj (hv.symm.trans hw)

namespace Nested

def table : ComponentTable := ⟨[("wind", ⟨"u", "shear"⟩), ("shear", ⟨"a", "b"⟩)]⟩

def context : Context Float :=
  .standard ⟨.mercator 0, .standard, some ⟨2, 2, 1⟩⟩ .epoch

def descriptor (element : String) (kind : FieldKind) : Descriptor Float :=
  { source := "test", element, level := "", kind, validTime := some context.time }

def archive : Archive Float :=
  [("u", FieldKind.vector), ("shear", .vector), ("a", .continuous), ("b", .continuous)].foldl
    (fun a (element, kind) =>
      a.put (descriptor element kind) .standard element "" kind
        (.surface [.constant 1 ⟨2, 2, 1⟩ .standard])) .empty

def history : List (Access Float) := [.evaluate (.field (descriptor "shear" .vector)) context]

end Nested

theorem evaluate_after_nested :
    ((∀ d ∈ (Expr.field (Nested.descriptor "a" .continuous)).fields, d.PlainPartner Nested.table) ∧
      answer ((Expr.field (Nested.descriptor "a" .continuous)).evaluate Nested.context)
          ((Database.new Nested.archive Nested.table).after Nested.history) =
        answer ((Expr.field (Nested.descriptor "a" .continuous)).evaluate Nested.context)
          (Database.new Nested.archive Nested.table)) ∧
      ∃ v w, answer ((Expr.field (Nested.descriptor "u" .vector)).evaluate Nested.context)
            ((Database.new Nested.archive Nested.table).after
              [.field (Nested.descriptor "a" .continuous)]) = .ok v ∧
        answer ((Expr.field (Nested.descriptor "u" .vector)).evaluate Nested.context)
            (Database.new Nested.archive Nested.table) = .ok w ∧ v = w := by
  have h : ∀ d ∈ (Expr.field (Nested.descriptor "a" .continuous)).fields,
      d.PlainPartner Nested.table := by
    intro d hd
    cases List.mem_singleton.mp hd
    intro _ partner axis _
    rfl
  refine ⟨⟨h, (evaluate_after _ _ _ _ _).1 h⟩, ?_⟩
  obtain ⟨v, hv⟩ : ∃ v, answer ((Expr.field (Nested.descriptor "u" .vector)).evaluate
      Nested.context) ((Database.new Nested.archive Nested.table).after
        [.field (Nested.descriptor "a" .continuous)]) = .ok v :=
    exists_ok_of_isOk (by decide +kernel)
  obtain ⟨w, hw⟩ : ∃ w, answer ((Expr.field (Nested.descriptor "u" .vector)).evaluate
      Nested.context) (Database.new Nested.archive Nested.table) = .ok w :=
    exists_ok_of_isOk (by decide +kernel)
  exact ⟨v, w, hv, hw, (evaluate_after _ _ _ _ _).2 v w hv hw⟩

/-- An assembled vector is found where a component of the same name and kind is asked for: what has
a value over a new database is missing its partner over one that was asked for the partner. -/
theorem evaluate_after_ne :
    answer ((Expr.field (Nested.descriptor "u" .vector)).evaluate Nested.context)
        ((Database.new Nested.archive Nested.table).after Nested.history) ≠
      answer ((Expr.field (Nested.descriptor "u" .vector)).evaluate Nested.context)
        (Database.new Nested.archive Nested.table) := by
  intro h
  have hnew : (answer ((Expr.field (Nested.descriptor "u" .vector)).evaluate Nested.context)
      (Database.new Nested.archive Nested.table)).isOk = true := by decide +kernel
  have hafter : (answer ((Expr.field (Nested.descriptor "u" .vector)).evaluate Nested.context)
      ((Database.new Nested.archive Nested.table).after Nested.history)).isOk = false := by
    decide +kernel
  rw [h, hnew] at hafter
  cases hafter

end Expr

end Synoptic
