import Mathlib.Data.List.Forall2
import Synoptic.Evaluation

/-!
What a computation can come to: a postcondition for its answer and one for its error, and for a
program with a state an invariant of the state beside them.
-/

namespace Synoptic

variable {ε σ β γ : Type}

theorem exists_right_of_forall₂ {R : β → γ → Prop} {l : List β} {l' : List γ}
    (h : List.Forall₂ R l l') {b : β} (hb : b ∈ l) : ∃ c ∈ l', R b c := by
  induction h with
  | nil => cases hb
  | cons hr _ ih =>
    cases hb with
    | head => exact ⟨_, List.mem_cons_self, hr⟩
    | tail _ hb =>
      obtain ⟨c, hc, h⟩ := ih hb
      exact ⟨c, List.mem_cons_of_mem _ hc, h⟩

theorem exists_left_of_forall₂ {R : β → γ → Prop} {l : List β} {l' : List γ}
    (h : List.Forall₂ R l l') {c : γ} (hc : c ∈ l') : ∃ b ∈ l, R b c :=
  exists_right_of_forall₂ (R := flip R) h.flip hc

@[simp] theorem ok_bind (b : β) (f : β → Except ε γ) : (Except.ok b >>= f) = f b := rfl

theorem ok_of_bind {r : Except ε β} {f : β → Except ε γ} {c : γ} (h : (r >>= f) = .ok c) :
    ∃ b, r = .ok b ∧ f b = .ok c := by
  cases r with
  | ok b => exact ⟨b, rfl, h⟩
  | error e => cases h

theorem bind_eq_ok {r : Except ε β} {f : β → Except ε γ} {c : γ} :
    (r >>= f) = .ok c ↔ ∃ b, r = .ok b ∧ f b = .ok c :=
  ⟨ok_of_bind, by rintro ⟨b, rfl, h⟩; exact h⟩

theorem ok_of_map {r : Except ε β} {f : β → γ} {c : γ} (h : f <$> r = .ok c) :
    ∃ b, r = .ok b ∧ f b = c := by
  cases r with
  | ok b => exact ⟨b, rfl, Except.ok.inj h⟩
  | error e => cases h

theorem exists_ok_of_isOk {r : Except ε β} (h : r.isOk = true) : ∃ b, r = .ok b := by
  cases r with
  | ok b => exact ⟨b, rfl⟩
  | error e => cases h

theorem exists_ok_of_any {r : Except ε β} {p : β → Bool} (h : r.toOption.any p = true) :
    ∃ b, r = .ok b ∧ p b = true := by
  cases r with
  | ok b => exact ⟨b, rfl, h⟩
  | error e => cases h

theorem mapM_of_mem {f : β → Except ε γ} {g : β → γ} {l : List β}
    (h : ∀ b ∈ l, f b = .ok (g b)) : l.mapM f = .ok (l.map g) := by
  induction l with
  | nil => rfl
  | cons b l ih =>
    rw [List.mapM_cons, h b List.mem_cons_self, ok_bind,
      ih fun b' hb' => h b' (List.mem_cons_of_mem b hb')]
    rfl

theorem mapM_of_forall₂ {δ : Type} {R : β → γ → Prop} {f : β → Except ε δ} {g : γ → δ}
    {l : List β} {l' : List γ} (h : List.Forall₂ R l l') (hf : ∀ b c, R b c → f b = .ok (g c)) :
    l.mapM f = .ok (l'.map g) := by
  induction h with
  | nil => rfl
  | cons hr _ ih =>
    rw [List.mapM_cons, hf _ _ hr, ok_bind, ih]
    rfl

theorem forall₂_of_mapM {ι : Type} {R : β → γ → Prop} {f : ι → Except ε β} {g : ι → Except ε γ} :
    ∀ {l : List ι} {bs : List β} {cs : List γ},
      (∀ i ∈ l, ∀ b c, f i = .ok b → g i = .ok c → R b c) →
        l.mapM f = .ok bs → l.mapM g = .ok cs → List.Forall₂ R bs cs
  | [], _, _, _, hf, hg => by
    cases hf
    cases hg
    exact .nil
  | i :: l, _, _, h, hf, hg => by
    rw [List.mapM_cons] at hf hg
    obtain ⟨b, hb, hf⟩ := ok_of_bind hf
    obtain ⟨bs, hbs, hf⟩ := ok_of_bind hf
    obtain ⟨c, hc, hg⟩ := ok_of_bind hg
    obtain ⟨cs, hcs, hg⟩ := ok_of_bind hg
    cases hf
    cases hg
    exact .cons (h i List.mem_cons_self b c hb hc)
      (forall₂_of_mapM (fun j hj => h j (List.mem_cons_of_mem i hj)) hbs hcs)

def Yields (r : Except ε β) (P : β → Prop) (Q : ε → Prop) : Prop :=
  match r with
  | .ok b => P b
  | .error e => Q e

namespace Yields

variable {P P' : β → Prop} {Q Q' : ε → Prop} {R : γ → Prop}

theorem ok {b : β} (h : P b) : Yields (.ok b : Except ε β) P Q := h

theorem error {e : ε} (h : Q e) : Yields (.error e : Except ε β) P Q := h

theorem mono {r : Except ε β} (h : Yields r P Q) (hP : ∀ b, P b → P' b) (hQ : ∀ e, Q e → Q' e) :
    Yields r P' Q' := by
  cases r with
  | ok b => exact hP b h
  | error e => exact hQ e h

theorem forget {r : Except ε β} (h : Yields r P Q) : Yields r (fun _ => True) Q :=
  h.mono (fun _ _ => True.intro) fun _ => id

theorem and {r : Except ε β} (h : Yields r P Q) (h' : Yields r P' Q') :
    Yields r (fun b => P b ∧ P' b) Q := by
  cases r with
  | ok b => exact ⟨h, h'⟩
  | error e => exact h

theorem trivial (r : Except ε β) : Yields r (fun _ => True) fun _ => True := by
  cases r <;> exact True.intro

theorem bind {r : Except ε β} {f : β → Except ε γ} (h : Yields r P Q)
    (hf : ∀ b, P b → Yields (f b) R Q) : Yields (r >>= f) R Q := by
  cases r with
  | ok b => exact hf b h
  | error e => exact h

theorem map {r : Except ε β} {f : β → γ} (h : Yields r (fun b => R (f b)) Q) :
    Yields (f <$> r) R Q := by
  cases r with
  | ok b => exact h
  | error e => exact h

theorem mapError {ε' : Type} {r : Except ε β} {f : ε → ε'} {Q' : ε' → Prop}
    (h : Yields r P fun e => Q' (f e)) : Yields (r.mapError f) P Q' := by
  cases r with
  | ok b => exact h
  | error e => exact h

theorem mapM {ι : Type} {f : ι → Except ε β} {P : ι → β → Prop} :
    ∀ {l : List ι}, (∀ i ∈ l, Yields (f i) (P i) Q) → Yields (l.mapM f) (List.Forall₂ P l) Q
  | [], _ => by
    rw [List.mapM_nil]
    exact ok .nil
  | i :: l, h => by
    rw [List.mapM_cons]
    apply bind (h i List.mem_cons_self)
    intro b hb
    apply bind (mapM fun j hj => h j (List.mem_cons_of_mem i hj))
    intro bs hbs
    exact ok (.cons hb hbs)

theorem length_mapM {ι : Type} (f : ι → Except ε β) (l : List ι) :
    Yields (l.mapM f) (·.length = l.length) fun _ => True := by
  apply (mapM (P := fun _ _ => True) fun i _ => trivial (f i)).mono _ fun _ => id
  intro bs hbs
  exact hbs.length_eq.symm

end Yields

theorem run_bind_ok {x : EStateM ε σ β} {f : β → EStateM ε σ γ} {s s' : σ} {b : β}
    (h : x s = .ok b s') : (x >>= f) s = f b s' := by
  simp only [Bind.bind, EStateM.bind, h]

theorem run_bind_error {x : EStateM ε σ β} {f : β → EStateM ε σ γ} {s s' : σ} {e : ε}
    (h : x s = .error e s') : (x >>= f) s = .error e s' := by
  simp only [Bind.bind, EStateM.bind, h]

/-- From one state a program comes to an answer and a state of `P`, or to an error and a state of
`Q`. -/
def Leads (x : EStateM ε σ β) (s : σ) (P : β → σ → Prop) (Q : ε → σ → Prop) : Prop :=
  match x s with
  | .ok b s' => P b s'
  | .error e s' => Q e s'

namespace Leads

variable {P P' : β → σ → Prop} {Q Q' : ε → σ → Prop} {R : γ → σ → Prop} {s : σ}
  {x : EStateM ε σ β}

theorem of_ok {b : β} {s' : σ} (hr : x s = .ok b s') : Leads x s P Q ↔ P b s' := by
  rw [Leads, hr]

theorem of_error {e : ε} {s' : σ} (hr : x s = .error e s') : Leads x s P Q ↔ Q e s' := by
  rw [Leads, hr]

theorem traced (h : Leads x s P Q) :
    Leads x s (fun b s' => x s = .ok b s' ∧ P b s') fun e s' => x s = .error e s' ∧ Q e s' := by
  cases hr : x s with
  | ok b s' => exact (of_ok hr).mpr ⟨rfl, (of_ok hr).mp h⟩
  | error e s' => exact (of_error hr).mpr ⟨rfl, (of_error hr).mp h⟩

theorem mono (h : Leads x s P Q) (hP : ∀ b s', P b s' → P' b s') (hQ : ∀ e s', Q e s' → Q' e s') :
    Leads x s P' Q' := by
  cases hr : x s with
  | ok b s' => exact (of_ok hr).mpr (hP b s' ((of_ok hr).mp h))
  | error e s' => exact (of_error hr).mpr (hQ e s' ((of_error hr).mp h))

theorem and (h : Leads x s P Q) (h' : Leads x s P' Q') :
    Leads x s (fun b s' => P b s' ∧ P' b s') fun e s' => Q e s' ∧ Q' e s' := by
  cases hr : x s with
  | ok b s' => exact (of_ok hr).mpr ⟨(of_ok hr).mp h, (of_ok hr).mp h'⟩
  | error e s' => exact (of_error hr).mpr ⟨(of_error hr).mp h, (of_error hr).mp h'⟩

theorem pure {b : β} (h : P b s) : Leads (Pure.pure b : EStateM ε σ β) s P Q := h

theorem throw {e : ε} (h : Q e s) : Leads (MonadExcept.throw e : EStateM ε σ β) s P Q := h

theorem get_bind {f : σ → EStateM ε σ β} (h : Leads (f s) s P Q) :
    Leads (MonadState.get >>= f) s P Q := h

theorem bind {f : β → EStateM ε σ γ} (hx : Leads x s P Q)
    (hf : ∀ b s', P b s' → Leads (f b) s' R Q) : Leads (x >>= f) s R Q := by
  cases hr : x s with
  | ok b s' =>
    rw [Leads, run_bind_ok hr]
    exact hf b s' ((of_ok hr).mp hx)
  | error e s' => exact (of_error (run_bind_error hr)).mpr ((of_error hr).mp hx)

end Leads

/-- From every state of `I`, a program ends in a state of `I`, with an answer of `P` or an error of
`Q`. -/
def Ensures (I : σ → Prop) (x : EStateM ε σ β) (P : β → Prop) (Q : ε → Prop) : Prop :=
  ∀ s, I s → match x s with
    | .ok b s' => I s' ∧ P b
    | .error e s' => I s' ∧ Q e

namespace Ensures

variable {I : σ → Prop} {P P' : β → Prop} {Q Q' : ε → Prop} {R : γ → Prop} {x : EStateM ε σ β}

theorem leads_iff : Ensures I x P Q ↔
    ∀ s, I s → Leads x s (fun b s' => I s' ∧ P b) fun e s' => I s' ∧ Q e := Iff.rfl

theorem mono (h : Ensures I x P Q) (hP : ∀ b, P b → P' b) (hQ : ∀ e, Q e → Q' e) :
    Ensures I x P' Q' := by
  intro s hs
  apply (leads_iff.mp h s hs).mono
  · exact fun b _ => And.imp_right (hP b)
  · exact fun e _ => And.imp_right (hQ e)

theorem pure {b : β} (h : P b) : Ensures I (Pure.pure b : EStateM ε σ β) P Q :=
  fun _ hs => ⟨hs, h⟩

theorem throw {e : ε} (h : Q e) : Ensures I (MonadExcept.throw e : EStateM ε σ β) P Q :=
  fun _ hs => ⟨hs, h⟩

theorem bind {f : β → EStateM ε σ γ} (hx : Ensures I x P Q)
    (hf : ∀ b, P b → Ensures I (f b) R Q) : Ensures I (x >>= f) R Q := by
  intro s hs
  apply (leads_iff.mp hx s hs).bind
  rintro b s' ⟨hs', hb⟩
  exact hf b hb s' hs'

theorem get : Ensures I (MonadState.get : EStateM ε σ σ) I Q := fun _ hs => ⟨hs, hs⟩

theorem set {s : σ} (h : I s) :
    Ensures I (MonadStateOf.set s : EStateM ε σ PUnit) (fun _ => True) Q := fun _ _ => ⟨h, trivial⟩

theorem modify {f : σ → σ} (h : ∀ s, I s → I (f s)) :
    Ensures I (modify f : EStateM ε σ PUnit) (fun _ => True) Q := fun s hs => ⟨h s hs, trivial⟩

theorem mapM {ι : Type} {f : ι → EStateM ε σ β} {P : ι → β → Prop} :
    ∀ {l : List ι}, (∀ i ∈ l, Ensures I (f i) (P i) Q) →
      Ensures I (l.mapM f) (List.Forall₂ P l) Q
  | [], _ => by
    rw [List.mapM_nil]
    exact pure .nil
  | i :: l, h => by
    rw [List.mapM_cons]
    apply bind (h i List.mem_cons_self)
    intro b hb
    apply bind (mapM fun j hj => h j (List.mem_cons_of_mem i hj))
    intro bs hbs
    exact pure (.cons hb hbs)

end Ensures

/-- From every state of `I`, whatever a program answers is the answer of a pure computation, and if
`c` holds then so is its error. -/
def Realizes (I : σ → Prop) (c : Prop) (x : EStateM ε σ β) (r : Except ε β) : Prop :=
  Ensures I x (fun b => r = .ok b) fun e => c → r = .error e

namespace Realizes

variable {I : σ → Prop} {c c' : Prop}

theorem mono {x : EStateM ε σ β} {r : Except ε β} (h : Realizes I c x r) (hc : c' → c) :
    Realizes I c' x r :=
  Ensures.mono h (fun _ => id) fun _ he h' => he (hc h')

theorem ok {b : β} : Realizes I c (pure b : EStateM ε σ β) (.ok b) := Ensures.pure rfl

theorem error {e : ε} : Realizes I c (throw e : EStateM ε σ β) (.error e) :=
  Ensures.throw fun _ => rfl

theorem bind {x : EStateM ε σ β} {r : Except ε β} {f : β → EStateM ε σ γ} {g : β → Except ε γ}
    (h : Realizes I c x r) (hf : ∀ b, r = .ok b → Realizes I c (f b) (g b)) :
    Realizes I c (x >>= f) (r >>= g) := by
  apply Ensures.bind (P := fun b => r = .ok b)
  · apply Ensures.mono h (fun _ => id)
    intro e he hc
    rw [he hc]
    rfl
  · rintro b rfl
    exact hf b rfl

theorem mapM {ι : Type} {f : ι → EStateM ε σ β} {g : ι → Except ε β} :
    ∀ {l : List ι}, (∀ i ∈ l, Realizes I c (f i) (g i)) → Realizes I c (l.mapM f) (l.mapM g)
  | [], _ => by
    rw [List.mapM_nil, List.mapM_nil]
    exact ok
  | i :: l, h => by
    rw [List.mapM_cons, List.mapM_cons]
    apply bind (h i List.mem_cons_self)
    intro b _
    apply bind (mapM fun j hj => h j (List.mem_cons_of_mem i hj))
    intro bs _
    exact ok

end Realizes

namespace Evaluation

variable {α : Type} {I : Database α → Prop} {P : β → Prop} {Q : EvalError α → Prop}

theorem leads_ofQuery {q : Query α β} {db : Database α} {P : β → Database α → Prop}
    {Q : EvalError α → Database α → Prop} (h : Leads q db P fun e => Q (.database e)) :
    Leads (Evaluation.ofQuery q) db P Q := by
  rw [Leads] at h
  rw [Leads, Evaluation.ofQuery]
  cases hr : q db <;> rwa [hr] at h

theorem ensures_ofQuery {q : Query α β} (h : Ensures I q P fun e => Q (.database e)) :
    Ensures I (Evaluation.ofQuery q) P Q :=
  fun db hdb => leads_ofQuery (h db hdb)

theorem ensures_ofExcept {r : Except (EvalError α) β} (h : Yields r P Q) :
    Ensures I (Evaluation.ofExcept r) P Q := by
  intro db hdb
  cases r with
  | ok b => exact ⟨hdb, h⟩
  | error e => exact ⟨hdb, h⟩

end Evaluation

theorem Query.leads_outcome {α : Type} {db : Database α} {q : Query α β}
    {P : β → Database α → Prop} {Q Q' : DatabaseError α → Database α → Prop}
    (h : Leads q db P Q) :
    Leads q.outcome db (fun r db' => Yields r (P · db') (Q · db')) Q' := by
  rw [Leads] at h
  rw [Leads, Query.outcome]
  cases hr : q db <;> rwa [hr] at h

theorem Query.ensures_outcome {α : Type} {I : Database α → Prop} {q : Query α β} {P : β → Prop}
    {Q Q' : DatabaseError α → Prop} (h : Ensures I q P Q) :
    Ensures I q.outcome (fun r => Yields r P Q) Q' := by
  intro db hdb
  apply (Query.leads_outcome (h db hdb)).mono _ fun _ _ => id
  rintro (e | b) db' hr
  · exact hr
  · exact hr

theorem Database.ensures_onCache {α : Type} {I : Database α → Prop} {f : Cache α → β × Cache α}
    {P : β → Prop} {Q : DatabaseError α → Prop}
    (h : ∀ db, I db → I { db with cache := (f db.cache).2 } ∧ P (f db.cache).1) :
    Ensures I (Database.onCache f) P Q := fun db hdb => h db hdb

theorem Expr.find?_of_callee {α : Type} [Number α] {name : String} {count : Nat}
    {op : Operator α} (h : callee name count = .ok op) : Catalogue.find? name = some op := by
  obtain ⟨op', hop, h⟩ := ok_of_bind h
  obtain ⟨_, _, h⟩ := ok_of_bind h
  cases h
  rw [resolve] at hop
  split at hop
  · rename_i hfind
    cases hop
    exact hfind
  · cases hop

end Synoptic
