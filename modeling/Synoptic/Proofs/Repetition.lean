import Synoptic.Proofs.Footprint
import Synoptic.Proofs.Queries.Vector

/-!
Evaluation repeated at once. What has succeeded has left all that it read in the cache, so the second
time every lookup hits: nothing is read and no slot changes. The answer is the same, or there is none,
and then a field that was looked up is held by two slots that disagree on it: a partner that is stored
as one surface and put together as a vector.
-/

namespace Synoptic

variable {α β γ : Type}

def Cache.Concordant (c : Cache α) (d : Descriptor α) : Prop :=
  ∀ i j e e', c.get? i = some e → c.get? j = some e' → e.descriptor.SameField d →
    e'.descriptor.SameField d → e.field = e'.field

theorem CacheEntry.Faithful.reading_or {a : Archive α} {t : ComponentTable} {e : CacheEntry α}
    {d : Descriptor α} [Number α] (h : e.Faithful a t d) :
    a.reading d = .ok (e.projection, e.field) ∨
      Database.declaredVector? t d ≠ none ∧ e.field.single? = none := by
  rcases h with h | ⟨_, v, hv, hassembly⟩
  · exact .inl h
  · exact .inr ⟨by rw [hv]; nofun, Archive.single?_of_assembly hassembly⟩

namespace Database

def hinted (db : Database α) (hint : Option Nat) : Database α :=
  { db with cache := { db.cache with lastHit := hint } }

def Keeps (db db' : Database α) : Prop :=
  ∀ i e, db.cache.get? i = some e → db'.cache.get? i = some e

/-- A program that came to an answer comes to it again and moves the last hit at most, or it fails,
doing no more, and the slots of a field that it looks up disagree. -/
inductive Repeats {ε : Type} (looked : Descriptor α → Prop) (x : EStateM ε (Database α) β) (b : β)
    (db : Database α) : Prop
  | again (hint : Option Nat) (h : x db = .ok b (db.hinted hint))
  | refused (hint : Option Nat) (err : ε) (h : x db = .error err (db.hinted hint))
      (d : Descriptor α) (hd : looked d) (hdiscord : ¬ db.cache.Concordant d)

namespace Repeats

variable {ε : Type} {looked looked' : Descriptor α → Prop} {x y : EStateM ε (Database α) β} {b : β}
  {db : Database α}

theorem mono (h : Repeats looked x b db) (hlooked : ∀ d, looked d → looked' d) :
    Repeats looked' x b db := by
  cases h with
  | again hint h => exact .again hint h
  | refused hint err h d hd hdiscord => exact .refused hint err h d (hlooked d hd) hdiscord

theorem of_hinted {hint : Option Nat} (h : Repeats looked y b (db.hinted hint))
    (hxy : x db = y (db.hinted hint)) : Repeats looked x b db := by
  cases h with
  | again hint' h => exact .again hint' (hxy.trans h)
  | refused hint' err h d hd hdiscord => exact .refused hint' err (hxy.trans h) d hd hdiscord

theorem ofQuery {q : Query α β} (h : Repeats looked q b db) :
    Repeats looked (Evaluation.ofQuery q) b db := by
  cases h with
  | again hint h => exact .again hint (by rw [Evaluation.ofQuery, h])
  | refused hint err h d hd hdiscord =>
    exact .refused hint (.database err) (by rw [Evaluation.ofQuery, h]) d hd hdiscord

end Repeats

theorem Keeps.trans {db db₁ db₂ : Database α} (h : Keeps db db₁) (h' : Keeps db₁ db₂) :
    Keeps db db₂ := fun i e he => h' i e (h i e he)

variable [Number α] {a : Archive α} {t : ComponentTable}

theorem Coherent.hinted {db : Database α} (h : Coherent a t db) (hint : Option Nat) :
    Coherent a t (db.hinted hint) :=
  h.withCache fun _ he => .inl he

/-- From a coherent database a program that succeeds keeps the slots, and repeats on whatever keeps
those that it leaves. -/
def Settles {ε : Type} (a : Archive α) (t : ComponentTable) (x : EStateM ε (Database α) β)
    (looked : Descriptor α → Prop) : Prop :=
  ∀ db, Coherent a t db → Leads x db
    (fun b db₁ => Coherent a t db₁ ∧ db.Keeps db₁ ∧
      ∀ db₂, Coherent a t db₂ → db₁.Keeps db₂ → Repeats looked x b db₂) fun _ _ => True

namespace Settles

variable {ε : Type} {looked looked' : Descriptor α → Prop} {x y : EStateM ε (Database α) β}

theorem mono (h : Settles a t x looked) (hlooked : ∀ d, looked d → looked' d) :
    Settles a t x looked' := by
  intro db hdb
  apply (h db hdb).mono _ fun _ _ => id
  rintro b db₁ ⟨hdb₁, hkeeps, hagain⟩
  exact ⟨hdb₁, hkeeps, fun db₂ hdb₂ hkeeps₂ => (hagain db₂ hdb₂ hkeeps₂).mono hlooked⟩

theorem congr (h : Settles a t y looked) (hxy : ∀ db, Coherent a t db → x db = y db) :
    Settles a t x looked := by
  intro db hdb
  rw [Leads, hxy db hdb]
  apply (h db hdb).mono _ fun _ _ => id
  rintro b db₁ ⟨hdb₁, hkeeps, hagain⟩
  refine ⟨hdb₁, hkeeps, fun db₂ hdb₂ hkeeps₂ => ?_⟩
  have hsame : db₂.hinted db₂.cache.lastHit = db₂ := rfl
  exact Repeats.of_hinted (hsame ▸ hagain db₂ hdb₂ hkeeps₂) (hxy db₂ hdb₂)

theorem pure (b : β) : Settles a t (Pure.pure b : EStateM ε (Database α) β) looked :=
  fun _ hdb => ⟨hdb, fun _ _ => id, fun db₂ _ _ => .again db₂.cache.lastHit rfl⟩

theorem of_ensures_false {Q : ε → Prop} (h : Ensures (Coherent a t) x (fun _ => False) Q) :
    Settles a t x looked := by
  intro db hdb
  apply (Ensures.leads_iff.mp h db hdb).mono
  · exact fun _ _ hx => hx.2.elim
  · exact fun _ _ _ => trivial

theorem throw (e : ε) : Settles a t (MonadExcept.throw e : EStateM ε (Database α) β) looked :=
  of_ensures_false (Q := fun _ => True) (Ensures.throw trivial)

theorem bind {f : β → EStateM ε (Database α) γ} (h : Settles a t x looked)
    (hf : ∀ b, Settles a t (f b) looked) : Settles a t (x >>= f) looked := by
  intro db hdb
  apply Leads.bind (h db hdb)
  rintro b db₁ ⟨hdb₁, hkeeps₁, hx⟩
  apply (hf b db₁ hdb₁).mono _ fun _ _ => id
  rintro c db₂ ⟨hdb₂, hkeeps₂, hagain⟩
  refine ⟨hdb₂, hkeeps₁.trans hkeeps₂, fun db₃ hdb₃ hkeeps₃ => ?_⟩
  -- The second part has kept what the first part needs.
  cases hx db₃ hdb₃ (hkeeps₂.trans hkeeps₃) with
  | again hint h =>
    exact (hagain (db₃.hinted hint) (hdb₃.hinted hint) hkeeps₃).of_hinted (run_bind_ok h)
  | refused hint err h d hd hdiscord => exact .refused hint err (run_bind_error h) d hd hdiscord

theorem mapM {ι : Type} {f : ι → EStateM ε (Database α) β} :
    ∀ {l : List ι}, (∀ i ∈ l, Settles a t (f i) looked) → Settles a t (l.mapM f) looked
  | [], _ => by
    rw [List.mapM_nil]
    exact pure []
  | i :: l, h => by
    rw [List.mapM_cons]
    apply bind (h i List.mem_cons_self)
    intro b
    apply bind (mapM fun j hj => h j (List.mem_cons_of_mem i hj))
    exact fun bs => pure (b :: bs)

theorem ofQuery {q : Query α β} (h : Settles a t q looked) :
    Settles a t (Evaluation.ofQuery q) looked := by
  intro db hdb
  apply Evaluation.leads_ofQuery
  apply (h db hdb).mono _ fun _ _ _ => trivial
  rintro b db₁ ⟨hdb₁, hkeeps, hagain⟩
  exact ⟨hdb₁, hkeeps, fun db₂ hdb₂ hkeeps₂ => (hagain db₂ hdb₂ hkeeps₂).ofQuery⟩

theorem ofExcept (r : Except (EvalError α) β) : Settles a t (Evaluation.ofExcept r) looked := by
  cases r with
  | ok b => exact pure b
  | error e => exact throw e

theorem ofExcept_bind {r : Except (EvalError α) β} {f : β → Evaluation α γ}
    (hf : ∀ b, r = .ok b → Settles a t (f b) looked) :
    Settles a t (Evaluation.ofExcept r >>= f) looked := by
  cases r with
  | ok b => exact hf b rfl
  | error e => exact throw e

end Settles

/-! ### Entries -/

def HoldsEntry (a : Archive α) (t : ComponentTable) (d : Descriptor α) (e : CacheEntry α)
    (db : Database α) : Prop :=
  e.Faithful a t d ∧ ∃ i, db.cache.get? i = some e ∧ e.descriptor.SameField d

/-- A query for the entry of a descriptor: it leaves the entry in a slot, and where some slot has one
it is a hit. -/
structure Asks (a : Archive α) (t : ComponentTable) (x : Query α (CacheEntry α))
    (d : Descriptor α) : Prop where
  asked : ∀ db, Coherent a t db → Leads x db
    (fun e db₁ => Coherent a t db₁ ∧ db.Keeps db₁ ∧ HoldsEntry a t d e db₁) fun _ _ => True
  again : ∀ db, Coherent a t db → ∀ e, HoldsEntry a t d e db →
    ∃ hint e', x db = .ok e' (db.hinted hint) ∧ HoldsEntry a t d e' db

theorem entry_asks (d : Descriptor α) : Asks a t (entry d) d where
  asked db hdb := by
    apply ((entry_leads d db).and (ensures_entry d db hdb)).mono _ fun _ _ _ => trivial
    rintro e db₁ ⟨⟨hgrows, hrecalls⟩, hdb₁, hfaithful⟩
    have hsame := hrecalls.sameField
    obtain ⟨i, _, he⟩ := hrecalls
    exact ⟨hdb₁, hgrows.kept, hfaithful, i, he, hsame⟩
  again db hdb e := by
    rintro ⟨_, i, he, hsame⟩
    obtain ⟨j, hj⟩ := Cache.exists_scan? (p := (·.SameField d)) he (decide_eq_true hsame)
    obtain ⟨e', he', hsame'⟩ := Cache.scan?_some hj
    replace hsame' := of_decide_eq_true hsame'
    have hfaithful := Archive.faithful_of_sameField hsame' (hdb.faithful e' (Cache.mem_of_get? he'))
    exact ⟨some j, e', entry_hit hj he', hfaithful, j, he', hsame'⟩

theorem partnerEntry_asks (d : Descriptor α) (partner : String) :
    Asks a t (partnerEntry d partner) (d.component partner d.kind) where
  asked db hdb := by
    apply Leads.bind (Query.leads_outcome ((entry_asks _).asked db hdb))
    intro r db₁ hr
    cases r with
    | ok e => exact Leads.pure hr
    | error err => exact Leads.throw trivial
  again db hdb e h := by
    obtain ⟨hint, e', hrun, he'⟩ := (entry_asks _).again db hdb e h
    have houtcome : (entry (d.component partner d.kind)).outcome db =
        .ok (.ok e') (db.hinted hint) := by
      rw [Query.outcome, hrun]
    exact ⟨hint, e', run_bind_ok houtcome, he'⟩

theorem Asks.settles {x : Query α (CacheEntry α)} {d : Descriptor α} (hx : Asks a t x d)
    {f : CacheEntry α → Query α γ} {looked : Descriptor α → Prop}
    (hf : ∀ e, Settles a t (f e) looked)
    (hcongr : ∀ e e', e.projection = e'.projection → e.field = e'.field → f e = f e')
    (hvector : declaredVector? t d ≠ none →
      looked d ∧ ∀ e, e.field.single? = none → ∀ db, ∃ err, f e db = .error err db) :
    Settles a t (x >>= f) looked := by
  intro db hdb
  apply Leads.bind (hx.asked db hdb)
  rintro e db₁ ⟨hdb₁, hkeeps₁, hfaithful, i, he, hsame⟩
  apply (hf e db₁ hdb₁).traced.mono _ fun _ _ _ => trivial
  rintro c db₂ ⟨hrun, hdb₂, hkeeps₂, hagain⟩
  refine ⟨hdb₂, hkeeps₁.trans hkeeps₂, fun db₃ hdb₃ hkeeps₃ => ?_⟩
  -- The entry was read, for what was put together would have been refused.
  have hread : a.reading d = .ok (e.projection, e.field) := by
    rcases hfaithful.reading_or with h | ⟨hd, hsingle⟩
    · exact h
    · obtain ⟨err, hfails⟩ := (hvector hd).2 e hsingle db₁
      cases hrun.symm.trans hfails
  have he₃ := hkeeps₃ i e (hkeeps₂ i e he)
  obtain ⟨hint, e', hx', hfaithful', j, he', hsame'⟩ := hx.again db₃ hdb₃ e ⟨hfaithful, i, he₃, hsame⟩
  have hrest : (x >>= f) db₃ = f e' (db₃.hinted hint) := run_bind_ok hx'
  rcases hfaithful'.reading_or with hread' | ⟨hd, hsingle⟩
  · obtain ⟨hp, hfield⟩ := Prod.mk.inj (Except.ok.inj (hread.symm.trans hread'))
    rw [hcongr e' e hp.symm hfield.symm] at hrest
    exact (hagain (db₃.hinted hint) (hdb₃.hinted hint) hkeeps₃).of_hinted hrest
  · obtain ⟨hlooked, hfails⟩ := hvector hd
    obtain ⟨err, hfails'⟩ := hfails e' hsingle (db₃.hinted hint)
    refine .refused hint err (hrest.trans hfails') d hlooked fun hconcordant => ?_
    have hfield := hconcordant i j e e' he₃ he' hsame hsame'
    obtain ⟨err', hfails⟩ := hfails e (hfield ▸ hsingle) db₁
    cases hrun.symm.trans hfails

/-! ### Queries -/

theorem settles_singleSurface (d : Descriptor α) (element : String) (f : Field α)
    {looked : Descriptor α → Prop} : Settles a t (singleSurface d element f) looked := by
  rw [singleSurface]
  cases f.single? with
  | some s => exact Settles.pure s
  | none => exact Settles.throw _

theorem settles_turnedField (d : Descriptor α) (axis : Axis) (partner : String)
    (target : Projection α) (f g : Field α) {looked : Descriptor α → Prop} :
    Settles a t (turnedField d axis partner target f g) looked := by
  apply (settles_singleSurface d d.element f).bind
  intro mine
  apply (settles_singleSurface d partner g).bind
  intro theirs
  dsimp only
  cases Reprojection.components (axis.arrange mine theirs).1 (axis.arrange mine theirs).2 target with
  | ok turned => exact Settles.pure _
  | error e => exact Settles.throw _

theorem settles_componentField {d : Descriptor α} (hd : declaredVector? t d = none) (axis : Axis)
    (partner : String) (target : Projection α) :
    Settles a t (componentField d axis partner target) (· = d.component partner d.kind) := by
  apply (entry_asks d).settles
  · intro requested
    split
    · apply (partnerEntry_asks d partner).settles
      · intro other
        split
        · exact settles_turnedField d axis partner target requested.field other.field
        · exact Settles.throw _
      · intro e e' hp hf
        rw [hp, hf]
      · refine fun _ => ⟨rfl, fun e hsingle db => ?_⟩
        split
        · exact turnedField_fails d axis partner target requested.field hsingle db
        · exact ⟨_, rfl⟩
    · exact Settles.pure _
  · intro e e' hp hf
    rw [hp, hf]
  · exact fun hvector => absurd hd hvector

theorem settles_fieldFor {d : Descriptor α} (hd : declaredVector? t d = none)
    (target : Projection α) : Settles a t (fieldFor d target) (OrPartner t d) := by
  cases hp : t.partner? d.element with
  | some r =>
    obtain ⟨partner, axis⟩ := r
    have hsettles : Settles a t (componentField d axis partner target) (OrPartner t d) := by
      apply (settles_componentField hd axis partner target).mono
      rintro _ rfl
      exact .inr ⟨partner, axis, hp, rfl⟩
    apply hsettles.congr
    intro db hdb
    refine (run_bind_ok rfl).trans ?_
    simp only [hdb.components, hd, hp]
  | none =>
    have hsettles : Settles a t (field d) (OrPartner t d) := by
      apply (entry_asks d).settles fun e => Settles.pure e.field
      · intro e e' _ hf
        rw [hf]
      · exact fun hvector => absurd hd hvector
    apply hsettles.congr
    intro db hdb
    refine (run_bind_ok rfl).trans ?_
    simp only [hdb.components, hd, hp]

end Database

theorem Archive.single?_of_vectorReading [Number α] {a : Archive α} {d : Descriptor α}
    {v : VectorElement} {f : Field α} (h : a.vectorReading d v = .ok f) : f.single? = none := by
  rw [vectorReading] at h
  split at h
  · split at h
    · rename_i hf
      cases h
      obtain ⟨u, v, rfl⟩ := Field.isVector_iff.mp hf
      rfl
    · exact single?_of_assembly h
  · exact single?_of_assembly h

/-! ### Evaluation -/

namespace Expr

open Database

variable [Number α] {a : Archive α} {t : ComponentTable}

theorem leaf_settles (d : Descriptor α) (ctx : Context α) (whole : Bool) :
    Settles a t (leaf d ctx whole) ((Expr.field d).Reads ctx t) := by
  cases hd : declaredVector? t (situated d ctx) with
  | none =>
    have hreads : ∀ d', OrPartner t (situated d ctx) d' → (Expr.field d).Reads ctx t d' := by
      intro d' hd'
      rw [situated_eq_completed] at hd'
      exact ⟨d, List.mem_singleton.mpr rfl, [], .field d, nofun, hd'⟩
    apply ((settles_fieldFor hd ctx.projection).mono hreads).ofQuery.bind
    intro field
    cases field.single? with
    | some s => exact Settles.ofExcept _
    | none => exact Settles.throw _
  | some v =>
    -- A vector is no single surface, so that the leaf always fails.
    apply Settles.of_ensures_false (Q := fun _ => True)
    apply Ensures.bind (P := fun f => f.single? = none)
    · apply Evaluation.ensures_ofQuery
      apply Ensures.mono (fieldFor_realizes (situated d ctx) ctx.projection) _ fun _ _ => trivial
      intro f hf
      simp only [Archive.fieldReading, hd] at hf
      exact Archive.single?_of_vectorReading hf
    · intro f hf
      rw [hf]
      exact Ensures.throw trivial

mutual

theorem eval_settles :
    ∀ (e : Expr α) (ctx : Context α) (whole : Bool),
      Settles a t (e.eval ctx whole) (e.Reads ctx t)
  | .constant x, ctx, whole => Settles.pure _
  | .field d, ctx, whole => leaf_settles d ctx whole
  | .call name args, ctx, whole => by
    rw [eval]
    apply Settles.ofExcept_bind
    intro op hcallee
    have hop := find?_of_callee hcallee
    dsimp only
    split
    · rename_i hclass
      apply ((evalSeries_settles args _ _).mono _).bind
      · exact fun members => Settles.ofExcept _
      · rintro d ⟨e, he, m, hm, hd⟩
        exact (Reads.series hop hclass he hm hd).callContext
    · rename_i hclass
      apply ((evalArgs_settles args _ _).mono _).bind
      · exact fun values => Settles.ofExcept _
      · rintro d ⟨e, he, hd⟩
        exact (Reads.call hop hclass he hd).callContext

theorem evalSeries_settles :
    ∀ (es : List (Expr α)) (ctx : Context α) (whole : Bool),
      Settles a t (evalSeries es ctx whole)
        (fun d => ∃ e ∈ es, ∃ m ∈ ctx.offsets, e.Reads (ctx.shifted m) t d)
  | [], ctx, whole => Settles.pure _
  | e :: es, ctx, whole => by
    rw [evalSeries]
    apply Settles.mapM
    intro m hm
    apply (eval_settles e (ctx.shifted m) whole).mono
    exact fun d hd => ⟨e, List.mem_cons_self, m, hm, hd⟩

theorem evalArgs_settles :
    ∀ (es : List (Expr α)) (ctx : Context α) (whole : Nat → Bool),
      Settles a t (evalArgs es ctx whole) (fun d => ∃ e ∈ es, e.Reads ctx t d)
  | [], ctx, whole => Settles.pure _
  | e :: es, ctx, whole => by
    rw [evalArgs]
    apply ((eval_settles e ctx (whole 0)).mono fun d hd => ⟨e, List.mem_cons_self, hd⟩).bind
    intro v
    apply ((evalArgs_settles es ctx fun i => whole (i + 1)).mono
      fun d ⟨e', he', hd⟩ => ⟨e', List.mem_cons_of_mem e he', hd⟩).bind
    exact fun vs => Settles.pure (v :: vs)

end

theorem evaluate_settles (e : Expr α) (ctx : Context α) :
    Settles a t (e.evaluate ctx) (e.Reads ctx t) :=
  Settles.ofExcept_bind fun _ _ => eval_settles e ctx false

/-- Evaluating again right after a success reads nothing and moves the last hit at most. The value is
the same, or there is none: then two slots of one field that is looked up disagree, and some field of
the expression is a component whose partner is itself a declared vector. Offsets out of the calendar
count as none. -/
theorem evaluate_again {history : List (Access α)} {e : Expr α} {ctx : Context α} {v : Value α}
    {db : Database α} (h : e.evaluate ctx ((Database.new a t).after history) = .ok v db) :
    ∃ hint, e.evaluate ctx db = .ok v (db.hinted hint) ∨
      (∃ err, e.evaluate ctx db = .error err (db.hinted hint)) ∧
        (∃ d, e.Reads ctx t d ∧ ¬ db.cache.Concordant d) ∧ ¬ PlainPartners t e.fields := by
  have hbefore := Database.after_coherent (Database.Coherent.new a t) history
  have hsettles := evaluate_settles e ctx _ hbefore
  rw [Leads, h] at hsettles
  obtain ⟨hafter, _, hagain⟩ := hsettles
  cases hagain db hafter fun _ _ => id with
  | again hint hrun => exact ⟨hint, .inl hrun⟩
  | refused hint err hrun d hd hdiscord =>
    refine ⟨hint, .inr ⟨⟨err, hrun⟩, ⟨d, hd, hdiscord⟩, fun hplain => ?_⟩⟩
    have hfirst := (e.evaluate_realizes ctx).answer_eq hplain hbefore
    have hsecond := (e.evaluate_realizes ctx).answer_eq hplain hafter
    rw [answer, h] at hfirst
    rw [answer, hrun] at hsecond
    cases hfirst.trans hsecond.symm

namespace Veering

def sum : Expr Float :=
  .call "plus" (["u", "v"].map fun element =>
    .field { source := "test", element, level := " ", kind := .continuous })

def turned : List (Access Float) :=
  [.fieldFor (descriptor "u" .epoch) context.projection, .delete (descriptor "v" .epoch)]

end Veering

theorem evaluate_again_veering :
    ∃ v db, Veering.sum.evaluate Veering.context (Veering.database.after Veering.turned) = .ok v db ∧
      ∃ hint, Veering.sum.evaluate Veering.context db = .ok v (db.hinted hint) := by
  have hok : (answer (Veering.sum.evaluate Veering.context)
      (Veering.database.after Veering.turned)).isOk = true := by decide +kernel
  cases h : Veering.sum.evaluate Veering.context (Veering.database.after Veering.turned) with
  | error err db =>
    rw [answer, h] at hok
    cases hok
  | ok v db =>
    obtain ⟨hint, hrun | ⟨_, _, hpartners⟩⟩ := evaluate_again h
    · exact ⟨v, db, rfl, hint, hrun⟩
    · refine absurd ?_ hpartners
      intro d hd _ partner axis _
      have hkind : d.kind = .continuous := by
        rcases List.mem_cons.mp hd with rfl | hd
        · rfl
        · cases List.mem_singleton.mp hd
          rfl
      rw [hkind]
      rfl

namespace Nested

def twofold : List (Access Float) :=
  [.field (descriptor "shear" .vector), .field (descriptor "b" .continuous),
    .field { descriptor "shear" .vector with source := "TEST" },
    .fieldFor (descriptor "shear" .vector) context.projection, .delete (descriptor "b" .continuous)]

end Nested

/-- The first evaluation finds the one slot and the second begins where it ended, before the other. -/
theorem evaluate_again_ne :
    ∃ v db, (Expr.field (Nested.descriptor "u" .vector)).evaluate Nested.context
        ((Database.new Nested.archive Nested.table).after Nested.twofold) = .ok v db ∧
      ∀ db', (Expr.field (Nested.descriptor "u" .vector)).evaluate Nested.context db ≠ .ok v db' := by
  have hfirst : (answer ((Expr.field (Nested.descriptor "u" .vector)).evaluate Nested.context)
      ((Database.new Nested.archive Nested.table).after Nested.twofold)).isOk = true := by
    decide +kernel
  have hsecond : (answer ((Expr.field (Nested.descriptor "u" .vector)).evaluate Nested.context)
      (stateAfter ((Expr.field (Nested.descriptor "u" .vector)).evaluate Nested.context)
        ((Database.new Nested.archive Nested.table).after Nested.twofold))).isOk = false := by
    decide +kernel
  cases h : (Expr.field (Nested.descriptor "u" .vector)).evaluate Nested.context
    ((Database.new Nested.archive Nested.table).after Nested.twofold) with
  | error err db =>
    rw [answer, h] at hfirst
    cases hfirst
  | ok v db =>
    refine ⟨v, db, rfl, fun db' hrun => ?_⟩
    rw [stateAfter, h, answer, hrun] at hsecond
    cases hsecond

end Expr

end Synoptic
