import Synoptic.Proofs.Queries.Fetching
import Synoptic.Proofs.Queries.Tidiness
import Synoptic.Proofs.Repetition

/-!
Evaluation over a tidy database. What is read while expressions succeed goes behind what was cached
before, and no lookup comes to anything else for it, so that every expression has a meaning that lasts
as long as evaluation goes on.
-/

namespace Synoptic

variable {α : Type}

/-! ### Programs that follow computations -/

section Following

variable {ε σ β γ : Type} {I : σ → Prop}

/-- From every state of `I` a program comes to the answer of a pure computation and a state of `I`, or
fails with its error in whatever state. -/
def Follows (I : σ → Prop) (x : EStateM ε σ β) (r : Except ε β) : Prop :=
  ∀ s, I s → Leads x s (fun b s' => I s' ∧ r = .ok b) fun e _ => r = .error e

namespace Follows

theorem of_realizes {x : EStateM ε σ β} {r : Except ε β} (h : Realizes I True x r) :
    Follows I x r := by
  intro s hs
  apply (Ensures.leads_iff.mp h s hs).mono
  · exact fun _ _ => id
  · exact fun _ _ he => he.2 trivial

theorem of_refused {J : σ → Prop} {x : EStateM ε σ β} {r : Except ε β} (h : Realizes J True x r)
    (hI : ∀ s, I s → J s) (hr : ∀ b, r ≠ .ok b) : Follows I x r := by
  intro s hs
  apply (of_realizes h s (hI s hs)).mono _ fun _ _ => id
  exact fun b _ hb => absurd hb.2 (hr b)

theorem ok (b : β) : Follows I (pure b : EStateM ε σ β) (.ok b) := fun _ hs => ⟨hs, rfl⟩

theorem bind {x : EStateM ε σ β} {r : Except ε β} {f : β → EStateM ε σ γ} {g : β → Except ε γ}
    (h : Follows I x r) (hf : ∀ b, Follows I (f b) (g b)) : Follows I (x >>= f) (r >>= g) := by
  intro s hs
  apply Leads.bind ((h s hs).mono (fun _ _ => id) _)
  · rintro b s' ⟨hs', rfl⟩
    exact hf b s' hs'
  · rintro e _ rfl
    rfl

theorem mapM {ι : Type} {f : ι → EStateM ε σ β} {g : ι → Except ε β}
    (h : ∀ i, Follows I (f i) (g i)) : ∀ l : List ι, Follows I (l.mapM f) (l.mapM g)
  | [] => by
    rw [List.mapM_nil, List.mapM_nil]
    exact ok []
  | i :: l => by
    rw [List.mapM_cons, List.mapM_cons]
    exact (h i).bind fun b => (mapM h l).bind fun bs => ok (b :: bs)

theorem answer_eq {x : EStateM ε σ β} {r : Except ε β} (h : Follows I x r) {s : σ} (hs : I s) :
    answer x s = r :=
  ((h s hs).mono (fun _ _ => And.right) fun _ _ => id).answer_eq

variable {I : Database α → Prop}

theorem ofExcept (r : Except (EvalError α) β) : Follows I (Evaluation.ofExcept r) r := by
  cases r with
  | ok b => exact ok b
  | error e => exact fun _ _ => rfl

theorem ofQuery {q : Query α β} {r : Except (DatabaseError α) β} (h : Follows I q r) :
    Follows I (Evaluation.ofQuery q) (r.mapError .database) := by
  intro db hdb
  apply Evaluation.leads_ofQuery
  apply (h db hdb).mono
  · rintro b db' ⟨hdb', rfl⟩
    exact ⟨hdb', rfl⟩
  · rintro e _ rfl
    rfl

end Follows

end Following

namespace Expr

variable [Number α] {I : Database α → Prop} {read : Provider α}

mutual

theorem eval_follows (hleaf : ∀ d ctx whole, Follows I (leaf d ctx whole)
      (leafMeaning read d ctx whole)) :
    ∀ (e : Expr α) (ctx : Context α) (whole : Bool),
      Follows I (e.eval ctx whole) (e.meaning read ctx whole)
  | .constant x, _, _ => Follows.ok (Value.scalar x)
  | .field d, ctx, whole => hleaf d ctx whole
  | .call name args, ctx, whole => by
    rw [eval, meaning]
    apply (Follows.ofExcept _).bind
    intro op
    cases op.action.class with
    | series =>
      exact (evalSeries_follows hleaf args _ _).bind fun members => .ofExcept _
    | _ =>
      exact (evalArgs_follows hleaf args _ _).bind fun values => .ofExcept _

theorem evalSeries_follows (hleaf : ∀ d ctx whole, Follows I (leaf d ctx whole)
      (leafMeaning read d ctx whole)) :
    ∀ (es : List (Expr α)) (ctx : Context α) (whole : Bool),
      Follows I (evalSeries es ctx whole) (seriesMeaning read es ctx whole)
  | [], _, _ => .ok []
  | e :: _, ctx, whole => by
    rw [evalSeries, seriesMeaning]
    exact .mapM (fun minutes => eval_follows hleaf e (ctx.shifted minutes) whole) ctx.offsets

theorem evalArgs_follows (hleaf : ∀ d ctx whole, Follows I (leaf d ctx whole)
      (leafMeaning read d ctx whole)) :
    ∀ (es : List (Expr α)) (ctx : Context α) (whole : Nat → Bool),
      Follows I (evalArgs es ctx whole) (argsMeaning read es ctx whole)
  | [], _, _ => .ok []
  | e :: es, ctx, whole => by
    rw [evalArgs, argsMeaning]
    exact (eval_follows hleaf e ctx (whole 0)).bind fun v =>
      (evalArgs_follows hleaf es ctx fun i => whole (i + 1)).bind fun vs => .ok (v :: vs)

end

theorem evaluate_follows (hleaf : ∀ d ctx whole, Follows I (leaf d ctx whole)
      (leafMeaning read d ctx whole)) (e : Expr α) (ctx : Context α) :
    Follows I (e.evaluate ctx) (e.checkedMeaning read ctx) :=
  (Follows.ofExcept _).bind fun _ => eval_follows hleaf e ctx false

end Expr

/-! ### Lookups that follow each other -/

namespace Cache

def hinted (c : Cache α) (hint : Option Nat) : Cache α := { c with lastHit := hint }

def recallAfter (c : Cache α) (d d' : Descriptor α) : Option (CacheEntry α) :=
  ((c.hinted (c.scan? (·.SameField d))).scan? (·.SameField d')).bind c.get?

/-- How an entry was found behind a cache: in one of its slots, or not among them, the next search
then beginning at their first one. -/
inductive Behind [Number α] (a : Archive α) (base : Cache α) (d : Descriptor α)
    (hint hint' : Option Nat) (e : CacheEntry α) : Prop
  | kept (i : Nat) (hscan : (base.hinted hint).scan? (·.SameField d) = some i)
    (he : base.get? i = some e) (hhint : hint' = some i)
  | later (hscan : base.scan? (·.SameField d) = none)
    (hread : a.reading d = .ok (e.projection, e.field)) (hstart : (base.hinted hint').start = 0)

end Cache

namespace Database

variable [Number α] {a : Archive α} {t : ComponentTable} {base db : Database α}

/-- A database with more fields, of none of which there was one before, read from the archive and stored
behind what was cached. -/
structure Above (a : Archive α) (t : ComponentTable) (base db : Database α) : Prop where
  coherent : db.Coherent a t
  slots : ∃ more : List (CacheEntry α), db.cache.slots = base.cache.slots ++ more.map some ∧
    ∀ e ∈ more, a.reading e.descriptor = .ok (e.projection, e.field) ∧
      base.cache.scan? (·.SameField e.descriptor) = none

theorem Above.refl (h : base.Coherent a t) : Above a t base base where
  coherent := h
  slots := ⟨[], by simp, by simp⟩

theorem Above.congr {db' : Database α} (h : Above a t base db) (hcoherent : db'.Coherent a t)
    (hslots : db'.cache.slots = db.cache.slots) : Above a t base db' where
  coherent := hcoherent
  slots := hslots ▸ h.slots

theorem Above.scan?_none (h : Above a t base db) {d : Descriptor α}
    (hmiss : db.cache.scan? (·.SameField d) = none) : base.cache.scan? (·.SameField d) = none := by
  obtain ⟨more, hslots, _⟩ := h.slots
  rw [Cache.scan?_eq_none_iff] at hmiss ⊢
  intro i e he
  apply hmiss i e
  have hlt : i < base.cache.slots.length := Cache.lt_capacity he
  rw [Cache.get?, hslots, List.getElem?_append_left hlt]
  exact he

theorem Above.behind (h : Above a t base db) {d : Descriptor α} {i : Nat} {e : CacheEntry α}
    (hscan : db.cache.scan? (·.SameField d) = some i) (he : db.cache.get? i = some e) :
    base.cache.Behind a d db.cache.lastHit (some i) e := by
  obtain ⟨more, hslots, hmore⟩ := h.slots
  have hcache : db.cache = ⟨base.cache.slots ++ more.map some, db.cache.lastHit⟩ := by
    rw [← hslots]
  rw [hcache] at hscan he
  by_cases hasked : ∃ e' ∈ more, e'.descriptor.SameField d
  · obtain ⟨e', he', hsame'⟩ := hasked
    have hnone : base.cache.scan? (·.SameField d) = none := by
      have hmiss := Cache.scan?_eq_none_iff.mp (hmore e' he').2
      refine Cache.scan?_eq_none_iff.mpr fun j e'' he'' => ?_
      have hno : ¬ e''.descriptor.SameField e'.descriptor := of_decide_eq_false (hmiss j e'' he'')
      exact decide_eq_false fun hsame => hno (hsame.trans hsame'.symm)
    have hsame := Cache.Recalls.sameField ⟨i, hscan, he⟩
    by_cases hi : i < base.cache.slots.length
    · rw [Cache.get?_append_left hi] at he
      have hno := Cache.scan?_eq_none_iff.mp hnone i e he
      exact absurd hsame (of_decide_eq_false hno)
    · have hmem := Cache.mem_of_get?_append (Nat.le_of_not_lt hi) he
      exact .later hnone (Archive.reading_ok_of_sameField hsame (hmore e hmem).1) (if_neg hi)
  · have hnone : ∀ e' ∈ more, decide (e'.descriptor.SameField d) = false := fun e' he' =>
      decide_eq_false fun hsame => hasked ⟨e', he', hsame⟩
    rw [Cache.scan?_append (p := (·.SameField d)) hnone] at hscan
    have hi : i < base.cache.slots.length := by
      obtain ⟨e', he', _⟩ := Cache.scan?_some hscan
      exact Cache.lt_capacity he'
    rw [Cache.get?_append_left hi] at he
    exact .kept i hscan he rfl

theorem entry_above (hfull : none ∉ base.cache.slots) (h : Above a t base db) (d : Descriptor α) :
    Leads (entry d) db
      (fun e db' => Above a t base db' ∧
        base.cache.Behind a d db.cache.lastHit db'.cache.lastHit e)
      fun err _ => base.cache.scan? (·.SameField d) = none ∧ a.reading d = .error err := by
  have hreading : db.archive.readingAs db.preferPlot d = a.reading d := by
    rw [h.coherent.files.readingAs_eq, h.coherent.noWish]
    rfl
  have hentry := entry_entering d db
  have hcoherent := ensures_entry d db h.coherent
  have hmissed := @entry_missed _ _ d db
  rw [Leads] at hmissed ⊢
  generalize entry d db = r at hentry hcoherent hmissed ⊢
  cases hentry with
  | hit hscan he => exact ⟨h.congr hcoherent.1 rfl, h.behind hscan he⟩
  | @fetched p f db' hmiss hread hrest =>
    have hnone := h.scan?_none hmiss
    obtain ⟨more, hslots, hmore⟩ := h.slots
    have hfull' : none ∉ db'.cache.slots := by
      rw [hrest.slots, hslots]
      simpa using hfull
    have hread' := hreading.symm.trans hread
    refine ⟨⟨hcoherent.1, more ++ [.stamped d p f], ?_, ?_⟩, .later hnone hread' ?_⟩
    · rw [Cache.add_of_full hfull', hrest.slots, hslots]
      simp
    · intro e he
      rcases List.mem_append.mp he with hold | hnew
      · exact hmore e hold
      · cases List.mem_singleton.mp hnew
        exact ⟨hread', hnone⟩
    · rw [Cache.hinted, (hmissed hmiss).lastHit]
      rfl
  | failed hmiss hread hrest => exact ⟨h.scan?_none hmiss, hreading.symm.trans hread⟩

/-! ### Readings over a cache -/

def standingPartner (a : Archive α) (base : Database α) (d : Descriptor α) (partner : String) :
    Except (DatabaseError α) (Projection α × Field α) :=
  match base.cache.recallAfter d (d.component partner d.kind) with
  | some e => .ok (e.projection, e.field)
  | none => a.partnerReading d partner

def standingComponent (a : Archive α) (base : Database α) (d : Descriptor α) (axis : Axis)
    (partner : String) (target : Projection α) : Except (DatabaseError α) (Field α) := do
  let mine ← a.reading d
  if Reprojection.isNeeded mine.1 target then
    let theirs ← base.standingPartner a d partner
    if mine.1.sameMap theirs.1 then Archive.turn d axis partner target mine.2 theirs.2
    else .error (.mismatchedProjection d)
  else .ok mine.2

/-- The field of a descriptor for use on a target, over what a database has cached. Only the partner of
a component can be something else than what is read. -/
def standing (a : Archive α) (t : ComponentTable) (base : Database α) : Provider α :=
  fun d target =>
    match declaredVector? t d with
    | some v => a.vectorReading d v
    | none =>
      match t.partner? d.element with
      | some (partner, axis) => base.standingComponent a d axis partner target
      | none => (a.reading d).map (·.2)

section Tidy

variable (hcoherent : base.Coherent a t) (htidy : base.cache.Tidy t)

include hcoherent htidy

theorem entry_standing (h : Above a t base db) {d : Descriptor α} (hd : declaredVector? t d = none) :
    Leads (entry d) db
      (fun e db' => Above a t base db' ∧ a.reading d = .ok (e.projection, e.field) ∧
        ∀ p, (base.cache.hinted db'.cache.lastHit).scan? p =
          (base.cache.hinted (base.cache.scan? (·.SameField d))).scan? p)
      fun err _ => a.reading d = .error err := by
  apply (entry_above htidy.full h d).mono _ fun _ _ => And.right
  rintro e db' ⟨h', hbehind⟩
  refine ⟨h', ?_⟩
  cases hbehind with
  | kept i hscan he hhint =>
    have hsame : e.descriptor.SameField d := by
      obtain ⟨e', he', hsame⟩ := Cache.scan?_some hscan
      cases Option.some.inj (he'.symm.trans he)
      exact of_decide_eq_true hsame
    have hplain := (declaredVector?_congr hsame).trans hd
    have hbase : base.cache.scan? (·.SameField d) = some i := by
      apply Cache.scan?_eq_some he (decide_eq_true hsame)
      intro j e' he' hsame'
      exact (htidy.unique i j e e' he he' (hsame.trans (of_decide_eq_true hsame').symm) hplain).symm
    have hfaithful := hcoherent.faithful e (Cache.mem_of_get? he)
    refine ⟨?_, fun p => by rw [hbase, hhint]⟩
    rcases hfaithful with hread | ⟨_, v, hv, _⟩
    · exact Archive.reading_ok_of_sameField hsame hread
    · rw [hplain] at hv
      cases hv
  | later hscan hread hstart =>
    refine ⟨hread, fun p => ?_⟩
    rw [hscan]
    have hslots : (base.cache.hinted db'.cache.lastHit).slots = (base.cache.hinted none).slots := rfl
    exact Cache.scan?_congr hslots hstart p

omit hcoherent in
theorem partnerEntry_standing (h : Above a t base db) (d : Descriptor α) (partner : String)
    (hhint : ∀ p, (base.cache.hinted db.cache.lastHit).scan? p =
      (base.cache.hinted (base.cache.scan? (·.SameField d))).scan? p) :
    Leads (partnerEntry d partner) db
      (fun e db' => Above a t base db' ∧
        base.standingPartner a d partner = .ok (e.projection, e.field))
      fun err _ => base.standingPartner a d partner = .error err := by
  have hlater : base.cache.scan? (·.SameField (d.component partner d.kind)) = none →
      base.standingPartner a d partner = a.partnerReading d partner := by
    intro hscan
    have hnone : base.cache.recallAfter d (d.component partner d.kind) = none := by
      have hscan' : (base.cache.hinted (base.cache.scan? (·.SameField d))).scan?
          (·.SameField (d.component partner d.kind)) = none :=
        Cache.scan?_eq_none_iff.mpr (Cache.scan?_eq_none_iff.mp hscan)
      rw [Cache.recallAfter, hscan']
      rfl
    rw [standingPartner, hnone]
  apply Leads.bind (Query.leads_outcome (entry_above htidy.full h _))
  intro r db' hr
  cases r with
  | ok e =>
    obtain ⟨h', hbehind⟩ := hr
    refine Leads.pure ⟨h', ?_⟩
    cases hbehind with
    | kept i hscan he _ =>
      have hrecall : base.cache.recallAfter d (d.component partner d.kind) = some e := by
        rw [Cache.recallAfter, ← hhint, hscan]
        exact he
      rw [standingPartner, hrecall]
    | later hscan hread _ =>
      rw [hlater hscan, Archive.partnerReading, hread]
      rfl
  | error err =>
    obtain ⟨hscan, hread⟩ := hr
    apply Leads.throw
    rw [hlater hscan, Archive.partnerReading, hread]
    rfl

theorem componentField_standing {d : Descriptor α} (hd : declaredVector? t d = none) (axis : Axis)
    (partner : String) (target : Projection α) :
    Follows (Above a t base) (componentField d axis partner target)
      (base.standingComponent a d axis partner target) := by
  intro db h
  apply Leads.bind ((entry_standing hcoherent htidy h hd).mono (fun _ _ => id) _)
  · rintro requested db₁ ⟨h₁, hread, hhint⟩
    rw [standingComponent, hread, ok_bind]
    split
    · apply Leads.bind ((partnerEntry_standing htidy h₁ d partner hhint).mono (fun _ _ => id) _)
      · rintro other db₂ ⟨h₂, hpartner⟩
        rw [hpartner, ok_bind]
        split
        · exact Follows.of_realizes (turnedField_realizes d axis partner target _ _) db₂ h₂
        · exact Leads.throw rfl
      · intro err _ hpartner
        rw [hpartner]
        rfl
    · exact Leads.pure ⟨h₁, rfl⟩
  · intro err _ hread
    rw [standingComponent, hread]
    rfl

theorem fieldFor_standing {d : Descriptor α} (hd : declaredVector? t d = none)
    (target : Projection α) :
    Follows (Above a t base) (fieldFor d target) (base.standing a t d target) := by
  intro db h
  apply Leads.get_bind
  dsimp only
  rw [h.coherent.components, standing, hd]
  cases t.partner? d.element with
  | some r => exact componentField_standing hcoherent htidy hd r.2 r.1 target db h
  | none =>
    apply Leads.bind ((entry_standing hcoherent htidy h hd).mono (fun _ _ => id) _)
    · rintro e db' ⟨h', hread, _⟩
      rw [hread]
      exact Leads.pure ⟨h', rfl⟩
    · intro err _ hread
      rw [hread]
      rfl

end Tidy

end Database

namespace Expr

variable [Number α] {a : Archive α} {t : ComponentTable} {base : Database α}

open Database

theorem leaf_standing (hcoherent : base.Coherent a t) (htidy : base.cache.Tidy t)
    (d : Descriptor α) (ctx : Context α) (whole : Bool) :
    Follows (Above a t base) (leaf d ctx whole) (leafMeaning (base.standing a t) d ctx whole) := by
  cases hd : declaredVector? t (situated d ctx) with
  | none =>
    apply (fieldFor_standing hcoherent htidy hd ctx.projection).ofQuery.bind
    intro field
    cases field.single? with
    | some s => exact .ofExcept _
    | none => exact fun _ _ => rfl
  | some v =>
    -- A vector is no single surface, so that the leaf fails whatever it leaves.
    have hplain : d.PlainPartner t := fun hnone => nomatch hd.symm.trans hnone
    have hsame : leafMeaning (base.standing a t) d ctx whole =
        leafMeaning (a.fieldReading t) d ctx whole := by
      simp only [leafMeaning, standing, Archive.fieldReading, hd]
    rw [hsame]
    refine .of_refused ((leaf_realizes d ctx whole).mono fun _ => hplain) (fun _ h => h.coherent) ?_
    intro w hw
    obtain ⟨field, hfield, hw⟩ := ok_of_bind hw
    simp only [Archive.fieldReading, hd] at hfield
    cases hreading : a.vectorReading (situated d ctx) v with
    | error e =>
      rw [hreading] at hfield
      cases hfield
    | ok f =>
      rw [hreading] at hfield
      cases hfield
      rw [Archive.single?_of_vectorReading hreading] at hw
      cases hw

theorem answer_standing (hcoherent : base.Coherent a t) (htidy : base.cache.Tidy t) (e : Expr α)
    (ctx : Context α) :
    answer (e.evaluate ctx) base = e.checkedMeaning (base.standing a t) ctx :=
  (evaluate_follows (leaf_standing hcoherent htidy) e ctx).answer_eq (.refl hcoherent)

theorem answer_afterEvaluations (a : Archive α) (t : ComponentTable)
    (history : List (Expr α × Context α)) (e : Expr α) (ctx : Context α) :
    answer (e.evaluate ctx) ((Database.new a t).afterEvaluations history) =
      e.checkedMeaning (((Database.new a t).afterEvaluations history).standing a t) ctx := by
  have hcoherent := after_coherent (Coherent.new a t)
    (history.map fun asked => .evaluate asked.1 asked.2)
  have hnew : Tidied t (Database.new a t) := ⟨Cache.Tidy.empty, rfl⟩
  have htidied := afterEvaluations_tidied hnew history
  exact answer_standing hcoherent htidied.1 e ctx

end Expr

end Synoptic
