import Synoptic.Proofs.Queries.Pair

namespace Synoptic

variable {α β γ : Type}

namespace Database

/-! ### The table of components -/

def KeepsComponents (q : Query α β) : Prop :=
  ∀ t, Ensures (·.components = t) q (fun _ => True) fun _ => True

theorem keepsComponents_takeCategory (kind : FieldKind) :
    KeepsComponents (takeCategory kind : Query α Category) := by
  intro t db hdb
  cases kind <;> exact ⟨hdb, trivial⟩

theorem keepsComponents_onCache (f : Cache α → β × Cache α) : KeepsComponents (onCache f) :=
  fun _ _ hdb => ⟨hdb, trivial⟩

theorem keepsComponents_readFile (path : Path) (d : Descriptor α) :
    KeepsComponents (readFile path d) := by
  intro t
  apply Ensures.bind Ensures.get
  intro db hdb
  cases db.archive.read? path with
  | some r => exact Ensures.bind (Ensures.set hdb) fun _ _ => Ensures.pure trivial
  | none => exact Ensures.throw trivial

theorem keepsComponents_fetch (d : Descriptor α) : KeepsComponents (fetch d) := by
  intro t
  apply Ensures.bind (keepsComponents_takeCategory d.kind t)
  intro category _
  apply Ensures.bind Ensures.get
  intro db _
  cases db.archive.locate? d with
  | none => exact Ensures.throw trivial
  | some path =>
    apply Ensures.bind (keepsComponents_readFile path d t)
    intro file _
    cases file.take? category d.kind d.element d.level with
    | some field => exact Ensures.pure trivial
    | none => exact Ensures.throw trivial

variable [Number α]

theorem keepsComponents_entry (d : Descriptor α) : KeepsComponents (entry d) := by
  intro t
  apply Ensures.bind (keepsComponents_onCache _ t)
  intro found _
  cases found with
  | some e => exact Ensures.pure trivial
  | none =>
    apply Ensures.bind (keepsComponents_fetch d t)
    rintro ⟨projection, field⟩ _
    exact Ensures.bind (keepsComponents_onCache _ t) fun _ _ => Ensures.pure trivial

/-! ### Programs that add -/

omit [Number α]

def Gains (t : ComponentTable) (new : Descriptor α → Prop) (db db' : Database α) : Prop :=
  Grows db db' (fun e => new e.descriptor) ∧ db'.components = t

/-- Under the declarations of a table, a program adds fields of the descriptors at most, whatever it
comes to. -/
def Adds {ε : Type} (t : ComponentTable) (x : EStateM ε (Database α) β)
    (new : Descriptor α → Prop) : Prop :=
  ∀ db, db.components = t → Leads x db (fun _ => Gains t new db) fun _ => Gains t new db

namespace Adds

variable {ε : Type} {t : ComponentTable} {new new' : Descriptor α → Prop}
  {x : EStateM ε (Database α) β}

theorem mono (h : Adds t x new) (hnew : ∀ d, new d → new' d) : Adds t x new' := by
  intro db hdb
  apply (h db hdb).mono
  · exact fun _ _ h => ⟨h.1.mono fun e => hnew e.descriptor, h.2⟩
  · exact fun _ _ h => ⟨h.1.mono fun e => hnew e.descriptor, h.2⟩

theorem pure (b : β) : Adds t (Pure.pure b : EStateM ε (Database α) β) new :=
  fun db hdb => ⟨(Undisturbed.refl db).grows, hdb⟩

theorem throw (e : ε) : Adds t (MonadExcept.throw e : EStateM ε (Database α) β) new :=
  fun db hdb => ⟨(Undisturbed.refl db).grows, hdb⟩

theorem bind {f : β → EStateM ε (Database α) γ} (h : Adds t x new)
    (hf : ∀ b, Adds t (f b) new) : Adds t (x >>= f) new := by
  intro db hdb
  apply Leads.bind (h db hdb)
  intro b db₁ h₁
  apply (hf b db₁ h₁.2).mono
  · exact fun _ _ h₂ => ⟨h₁.1.trans h₂.1, h₂.2⟩
  · exact fun _ _ h₂ => ⟨h₁.1.trans h₂.1, h₂.2⟩

theorem mapM {ι : Type} {f : ι → EStateM ε (Database α) β} :
    ∀ {l : List ι}, (∀ i ∈ l, Adds t (f i) new) → Adds t (l.mapM f) new
  | [], _ => by
    rw [List.mapM_nil]
    exact pure []
  | i :: l, h => by
    rw [List.mapM_cons]
    apply bind (h i List.mem_cons_self)
    intro b
    apply bind (mapM fun j hj => h j (List.mem_cons_of_mem i hj))
    exact fun bs => pure (b :: bs)

theorem outcome {q : Query α β} (h : Adds t q new) : Adds t q.outcome new := by
  intro db hdb
  apply (Query.leads_outcome (h db hdb)).mono
  · intro r db' hr
    cases r <;> exact hr
  · exact fun _ _ => id

theorem ofQuery {q : Query α β} (h : Adds t q new) : Adds t (Evaluation.ofQuery q) new :=
  fun db hdb => Evaluation.leads_ofQuery (h db hdb)

theorem ofExcept (r : Except (EvalError α) β) : Adds t (Evaluation.ofExcept r) new := by
  cases r with
  | ok b => exact pure b
  | error e => exact throw e

theorem ofExcept_bind {r : Except (EvalError α) β} {f : β → Evaluation α γ}
    (hf : ∀ b, r = .ok b → Adds t (f b) new) : Adds t (Evaluation.ofExcept r >>= f) new := by
  cases r with
  | ok b => exact hf b rfl
  | error e => exact throw e

theorem stateAfter (h : Adds t x new) {db : Database α} (hdb : db.components = t) :
    Gains t new db (stateAfter x db) := (h db hdb).stateAfter

end Adds

/-! ### Queries -/

variable {t : ComponentTable}

theorem adds_singleSurface (d : Descriptor α) (element : String) (f : Field α)
    {new : Descriptor α → Prop} : Adds t (singleSurface d element f) new := by
  rw [singleSurface]
  cases f.single? with
  | some s => exact Adds.pure s
  | none => exact Adds.throw _

def OrPartner (t : ComponentTable) (d d' : Descriptor α) : Prop :=
  d' = d ∨ ∃ partner axis, t.partner? d.element = some (partner, axis) ∧
    d' = { d with element := partner }

variable [Number α]

theorem adds_entry (d : Descriptor α) : Adds t (entry d) (· = d) := by
  intro db hdb
  apply ((entry_leads d db).and (keepsComponents_entry d t db hdb)).mono
  · rintro e db' ⟨⟨hgrows, _⟩, ht, _⟩
    refine ⟨hgrows.mono ?_, ht⟩
    rintro _ ⟨rfl, hd, _⟩
    exact hd
  · exact fun _ _ ⟨hgrows, ht, _⟩ => ⟨hgrows.mono fun _ h => h.elim, ht⟩

theorem adds_partnerEntry (d : Descriptor α) (partner : String) :
    Adds t (partnerEntry d partner) (· = d.component partner d.kind) := by
  apply (adds_entry _).outcome.bind
  intro r
  cases r with
  | ok e => exact Adds.pure e
  | error e => exact Adds.throw _

theorem adds_componentField (d : Descriptor α) (axis : Axis) (partner : String)
    (target : Projection α) :
    Adds t (componentField d axis partner target)
      (fun d' => d' = d ∨ d' = d.component partner d.kind) := by
  apply ((adds_entry d).mono fun _ => .inl).bind
  intro requested
  split
  · apply ((adds_partnerEntry d partner).mono fun _ => .inr).bind
    intro other
    split
    · apply (adds_singleSurface d d.element requested.field).bind
      intro mine
      apply (adds_singleSurface d partner other.field).bind
      intro theirs
      dsimp only
      cases Reprojection.components (axis.arrange mine theirs).1 (axis.arrange mine theirs).2
        target with
      | ok turned => exact Adds.pure _
      | error e => exact Adds.throw _
    · exact Adds.throw _
  · exact Adds.pure _

theorem adds_fieldFor {d : Descriptor α} (h : declaredVector? t d = none)
    (target : Projection α) : Adds t (fieldFor d target) (OrPartner t d) := by
  intro db hdb
  apply Leads.get_bind
  dsimp only
  rw [hdb, h]
  dsimp only
  cases hp : t.partner? d.element with
  | some r =>
    obtain ⟨partner, axis⟩ := r
    apply (adds_componentField d axis partner target).mono _ db hdb
    rintro d' (rfl | rfl)
    · exact .inl rfl
    · exact .inr ⟨partner, axis, hp, rfl⟩
  | none =>
    apply Adds.bind ((adds_entry d).mono fun _ => .inl) _ db hdb
    exact fun e => Adds.pure e.field

end Database

/-! ### Evaluation -/

def Descriptor.completed (d : Descriptor α) (time : Timestamp) (level : Option (Level α)) :
    Descriptor α :=
  { d with
    validTime := d.validTime <|> some time
    level :=
      if d.level.toList.all Text.isBlank then (level.map (·.name)).getD d.level else d.level }

theorem Expr.situated_eq_completed (d : Descriptor α) (ctx : Context α) :
    situated d ctx = d.completed ctx.time ctx.level := by
  rw [situated, Descriptor.completed]
  congr 1
  · cases d.validTime <;> rfl
  · cases ctx.level with
    | none => exact (ite_self _).symm
    | some level => rfl

variable [Number α]

def Context.timeAfter (ctx : Context α) (minutes : List α) : Timestamp :=
  minutes.foldl (fun time m => time.shift (Number.round (m * 60))) ctx.time

namespace Expr

/-- An expression names a field below so many calls of series. -/
inductive Names : Expr α → Descriptor α → Nat → Prop
  | field (d : Descriptor α) : Names (.field d) d 0
  | series {name args e d n} {op : Operator α} (hop : Catalogue.find? name = some op)
    (hclass : op.action.class = .series) (he : e ∈ args) (hd : Names e d n) :
    Names (.call name args) d (n + 1)
  | call {name args e d n} {op : Operator α} (hop : Catalogue.find? name = some op)
    (hclass : op.action.class ≠ .series) (he : e ∈ args) (hd : Names e d n) :
    Names (.call name args) d n

omit [Number α] in
theorem mem_fieldsAll {es : List (Expr α)} {e : Expr α} (he : e ∈ es) {d : Descriptor α}
    (hd : d ∈ e.fields) : d ∈ fieldsAll es := by
  induction es with
  | nil => cases he
  | cons e' es ih =>
    cases he with
    | head => exact List.mem_append_left _ hd
    | tail _ he => exact List.mem_append_right _ (ih he)

theorem Names.mem_fields {e : Expr α} {d : Descriptor α} {n : Nat} (h : e.Names d n) :
    d ∈ e.fields := by
  induction h with
  | field d => exact List.mem_singleton.mpr rfl
  | series _ _ he _ ih => exact mem_fieldsAll he ih
  | call _ _ he _ ih => exact mem_fieldsAll he ih

/-- What evaluation in a context may read: a field of the expression, completed from the context
after one of its offsets for each series around the field, or the partner of such a field. -/
def Reads (e : Expr α) (ctx : Context α) (t : ComponentTable) (d' : Descriptor α) : Prop :=
  ∃ d ∈ e.fields, ∃ offsets, e.Names d offsets.length ∧ (∀ m ∈ offsets, m ∈ ctx.offsets) ∧
    Database.OrPartner t (d.completed (ctx.timeAfter offsets) ctx.level) d'

variable {t : ComponentTable}

theorem Reads.callContext {e : Expr α} {ctx : Context α} {whole : Bool} {d : Descriptor α}
    (h : e.Reads (callContext ctx whole) t d) : e.Reads ctx t d := by
  cases whole <;> exact h

theorem Reads.series {name : String} {args : List (Expr α)} {op : Operator α} {e : Expr α}
    {ctx : Context α} {m : α} {d : Descriptor α} (hop : Catalogue.find? name = some op)
    (hclass : op.action.class = .series) (he : e ∈ args) (hm : m ∈ ctx.offsets)
    (h : e.Reads (ctx.shifted m) t d) : (Expr.call name args).Reads ctx t d := by
  obtain ⟨named, _, offsets, hnames, hoffsets, hd⟩ := h
  have hcall := Names.series hop hclass he hnames
  exact ⟨named, hcall.mem_fields, m :: offsets, hcall, List.forall_mem_cons.mpr ⟨hm, hoffsets⟩, hd⟩

theorem Reads.call {name : String} {args : List (Expr α)} {op : Operator α} {e : Expr α}
    {ctx : Context α} {d : Descriptor α} (hop : Catalogue.find? name = some op)
    (hclass : op.action.class ≠ .series) (he : e ∈ args) (h : e.Reads ctx t d) :
    (Expr.call name args).Reads ctx t d := by
  obtain ⟨named, _, offsets, hnames, hd⟩ := h
  have hcall := Names.call hop hclass he hnames
  exact ⟨named, hcall.mem_fields, offsets, hcall, hd⟩

open Database

theorem leaf_adds {d : Descriptor α} (h : declaredVector? t d = none) (ctx : Context α)
    (whole : Bool) : Adds t (leaf d ctx whole) ((Expr.field d).Reads ctx t) := by
  have hreads : ∀ d', OrPartner t (situated d ctx) d' → (Expr.field d).Reads ctx t d' := by
    intro d' hd
    rw [situated_eq_completed] at hd
    exact ⟨d, List.mem_singleton.mpr rfl, [], .field d, nofun, hd⟩
  apply ((adds_fieldFor (d := situated d ctx) h ctx.projection).mono hreads).ofQuery.bind
  intro field
  cases field.single? with
  | some s => exact Adds.ofExcept _
  | none => exact Adds.throw _

def PlainFields (t : ComponentTable) (ds : List (Descriptor α)) : Prop :=
  ∀ d ∈ ds, declaredVector? t d = none

mutual

theorem eval_adds :
    ∀ (e : Expr α) (ctx : Context α) (whole : Bool), PlainFields t e.fields →
      Adds t (e.eval ctx whole) (e.Reads ctx t)
  | .constant x, ctx, whole, _ => Adds.pure _
  | .field d, ctx, whole, h => leaf_adds (h d (List.mem_singleton.mpr rfl)) ctx whole
  | .call name args, ctx, whole, h => by
    rw [eval]
    apply Adds.ofExcept_bind
    intro op hcallee
    have hop := find?_of_callee hcallee
    dsimp only
    split
    · rename_i hclass
      apply ((evalSeries_adds args _ _ h).mono _).bind
      · exact fun members => Adds.ofExcept _
      · rintro d ⟨e, he, m, hm, hd⟩
        exact (Reads.series hop hclass he hm hd).callContext
    · rename_i hclass
      apply ((evalArgs_adds args _ _ h).mono _).bind
      · exact fun values => Adds.ofExcept _
      · rintro d ⟨e, he, hd⟩
        exact (Reads.call hop hclass he hd).callContext

theorem evalSeries_adds :
    ∀ (es : List (Expr α)) (ctx : Context α) (whole : Bool), PlainFields t (fieldsAll es) →
      Adds t (evalSeries es ctx whole)
        (fun d => ∃ e ∈ es, ∃ m ∈ ctx.offsets, e.Reads (ctx.shifted m) t d)
  | [], ctx, whole, _ => Adds.pure _
  | e :: es, ctx, whole, h => by
    rw [evalSeries]
    apply Adds.mapM
    intro m hm
    apply (eval_adds e (ctx.shifted m) whole fun d hd => h d (List.mem_append_left _ hd)).mono
    exact fun d hd => ⟨e, List.mem_cons_self, m, hm, hd⟩

theorem evalArgs_adds :
    ∀ (es : List (Expr α)) (ctx : Context α) (whole : Nat → Bool), PlainFields t (fieldsAll es) →
      Adds t (evalArgs es ctx whole) (fun d => ∃ e ∈ es, e.Reads ctx t d)
  | [], ctx, whole, _ => Adds.pure _
  | e :: es, ctx, whole, h => by
    rw [evalArgs]
    have hhead := eval_adds e ctx (whole 0) fun d hd => h d (List.mem_append_left _ hd)
    have htail := evalArgs_adds es ctx (fun i => whole (i + 1))
      fun d hd => h d (List.mem_append_right _ hd)
    apply (hhead.mono fun d hd => ⟨e, List.mem_cons_self, hd⟩).bind
    intro v
    apply (htail.mono fun d ⟨e', he', hd⟩ => ⟨e', List.mem_cons_of_mem e he', hd⟩).bind
    exact fun vs => Adds.pure (v :: vs)

end

/-- Evaluation only adds what the expression names. Where none of its fields is declared to be a
vector, what was cached is in its slot whether evaluation succeeds or fails, and what is new there
is a field of the expression or the partner of one. Offsets out of the calendar count as none. -/
theorem evaluate_footprint (e : Expr α) (ctx : Context α) (db : Database α)
    (h : ∀ d ∈ e.fields, d.kind = .vector → db.components.vector? d.element = none) :
    (∀ i entry, db.cache.get? i = some entry →
        (stateAfter (e.evaluate ctx) db).cache.get? i = some entry) ∧
      ∀ i entry, (stateAfter (e.evaluate ctx) db).cache.get? i = some entry →
        db.cache.get? i = some entry ∨ e.Reads ctx db.components entry.descriptor := by
  have hplain : PlainFields db.components e.fields := by
    intro d hd
    rw [declaredVector?]
    split
    · rename_i hkind
      exact h d hd hkind
    · rfl
  have hadds : Adds db.components (e.evaluate ctx) (e.Reads ctx db.components) :=
    Adds.ofExcept_bind fun _ _ => eval_adds e ctx false hplain
  have hgrows := (hadds.stateAfter rfl).1
  exact ⟨hgrows.kept, hgrows.added⟩

namespace Veering

def descriptor (element : String) (time : Timestamp) : Descriptor Float :=
  { source := "test", element, level := "850mb", kind := .continuous, validTime := some time }

def hourBefore : Timestamp := Timestamp.epoch.shift (-3600)

def database : Database Float :=
  .new ([descriptor "u" hourBefore, descriptor "v" hourBefore, descriptor "u" .epoch,
      descriptor "v" .epoch].foldl
    (fun a d => a.put d .standard d.element d.level .continuous
      (.surface [.constant 1 ⟨2, 2, 1⟩ .standard])) .empty) ⟨[("wind", ⟨"u", "v"⟩)]⟩

def expression : Expr Float :=
  .call "ddt" [.field { source := "test", element := "u", level := " ", kind := .continuous }]

def context : Context Float :=
  { Context.standard ⟨.mercator 0, .standard, none⟩ .epoch with
    level := some ⟨"850mb", .other⟩
    seriesMin := 3 }

end Veering

theorem evaluate_footprint_veering :
    (∀ d ∈ Veering.expression.fields, d.kind = .vector →
        Veering.database.components.vector? d.element = none) ∧
      (answer (Veering.expression.evaluate Veering.context) Veering.database).isOk = false ∧
      (stateAfter (Veering.expression.evaluate Veering.context) Veering.database).cache.entries.map
          (·.descriptor) =
        [Veering.descriptor "u" Veering.hourBefore, Veering.descriptor "v" Veering.hourBefore,
          Veering.descriptor "u" .epoch, Veering.descriptor "v" .epoch] ∧
      ∀ i entry, (stateAfter (Veering.expression.evaluate Veering.context)
          Veering.database).cache.get? i = some entry →
        Veering.expression.Reads Veering.context Veering.database.components entry.descriptor := by
  have hplain : ∀ d ∈ Veering.expression.fields, d.kind = .vector →
      Veering.database.components.vector? d.element = none := by
    intro d hd hkind
    cases List.mem_singleton.mp hd
    cases hkind
  refine ⟨hplain, by decide +kernel, by decide +kernel, fun i entry he => ?_⟩
  rcases (evaluate_footprint _ _ _ hplain).2 i entry he with hold | hreads
  · cases hold
  · exact hreads

end Expr

end Synoptic
