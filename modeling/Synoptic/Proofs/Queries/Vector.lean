import Synoptic.Proofs.History
import Synoptic.Proofs.Queries.Entry

namespace Synoptic

variable {α : Type}

theorem Field.isVector_iff {f : Field α} : f.isVector = true ↔ ∃ u v, f = .surface [u, v] := by
  constructor
  · intro h
    unfold isVector at h
    split at h
    · exact ⟨_, _, rfl⟩
    · cases h
  · rintro ⟨u, v, rfl⟩
    rfl

namespace Database

variable [Number α]

theorem vectorComponent_leads (vector : Descriptor α) (element : String) (db : Database α) :
    Leads (vectorComponent vector element) db
      (fun r db' => Grows db db' (·.descriptor = vector.component element .continuous) ∧
        (db.cache.Stamped → db'.cache.Stamped) ∧
        db'.Caches (vector.component element .continuous) r.1 r.2)
      fun _ db' => Grows db db' (·.descriptor = vector.component element .continuous) := by
  apply Leads.bind (Query.leads_outcome (entry_leads (vector.component element .continuous) db))
  intro r db' hr
  cases r with
  | error e => exact Leads.throw (Grows.mono hr fun _ hfalse => hfalse.elim)
  | ok e =>
    obtain ⟨hgrows, hrecalls⟩ := hr
    have hnew : Grows db db' (·.descriptor = vector.component element .continuous) := by
      apply hgrows.mono
      rintro e' ⟨rfl, hd, _⟩
      exact hd
    dsimp only
    cases hs : e.field.single? with
    | none => exact Leads.throw hnew
    | some s =>
      obtain ⟨i, _, he⟩ := id hrecalls
      refine Leads.pure ⟨hnew, ?_, i, e, he, hrecalls.sameField, rfl, Field.single?_iff.mp hs⟩
      apply hgrows.stamped
      rintro e' ⟨rfl, _, hstamped⟩
      exact hstamped

def HasWhole (db : Database α) (d : Descriptor α) : Prop :=
  ∃ e db', entry d db = .ok e db' ∧ e.field.isVector = true

def ConsistsOf (db : Database α) (d : Descriptor α) (x y : String) (f : Field α) : Prop :=
  ∃ p q u v, db.Caches (d.component x .continuous) p u ∧
    db.Caches (d.component y .continuous) q v ∧ p.sameMap q = true ∧ f = .surface [u, v]

/-- What holds when a vector field has been read. -/
structure VectorRead (d : Descriptor α) (x y : String) (db : Database α) (f : Field α)
    (db' : Database α) : Prop where
  components : ∃ u v, f = .surface [u, v]
  stored : ∃ e, db'.cache.Recalls d e ∧ e.field = f ∧ db'.lastProjection = some e.projection
  again : ∃ db'', vectorField d x y db' = .ok f db'' ∧ db''.lastProjection = db'.lastProjection ∧
    db''.archive = db'.archive ∧ db''.cache.slots = db'.cache.slots
  assembled : ¬ db.HasWhole d → db'.ConsistsOf d x y f

structure VectorRefused (d : Descriptor α) (db db' : Database α) : Prop where
  lastProjection : db'.lastProjection = db.lastProjection
  kept : ∀ i e, db.cache.get? i = some e → db'.cache.get? i = some e
  noVector : ∀ i e, db'.cache.get? i = some e → e.descriptor.SameField d →
    (∃ u v, e.field = .surface [u, v]) → db.cache.get? i = some e

theorem vectorField_of_recalls {d : Descriptor α} {db : Database α} {e : CacheEntry α}
    (hd : d.kind = .vector) (h : db.cache.Recalls d e) (hv : e.field.isVector = true)
    (x y : String) : ∃ hint, vectorField d x y db =
      .ok e.field { db with
        cache := { db.cache with lastHit := hint }, lastProjection := some e.projection } := by
  obtain ⟨i, hi, he⟩ := h
  refine ⟨some i, ?_⟩
  have hentry := entry_hit hi he
  simp only [vectorField, hd, ne_eq, not_true_eq_false, if_false, bind, EStateM.bind,
    Query.outcome, hentry, hv, if_true]
  rfl

theorem vectorRead_of_recalls {d : Descriptor α} {x y : String} {db db' : Database α}
    {e : CacheEntry α} (hd : d.kind = .vector) (h : db'.cache.Recalls d e)
    (hv : e.field.isVector = true) (hlast : db'.lastProjection = some e.projection)
    (hassembled : ¬ db.HasWhole d → db'.ConsistsOf d x y e.field) :
    VectorRead d x y db e.field db' where
  components := Field.isVector_iff.mp hv
  stored := ⟨e, h, rfl, hlast⟩
  again := by
    obtain ⟨hint, hagain⟩ := vectorField_of_recalls hd h hv x y
    exact ⟨_, hagain, hlast.symm, rfl, rfl⟩
  assembled := hassembled

omit [Number α] in
theorem Grows.vectorRefused {d : Descriptor α} {db db' : Database α} {new : CacheEntry α → Prop}
    (h : Grows db db' new)
    (hnew : ∀ e, new e → e.descriptor.SameField d → e.field.isVector = false) :
    VectorRefused d db db' where
  lastProjection := h.lastProjection
  kept := h.kept
  noVector i e he hsame hv := by
    rcases h.added i e he with hold | hfresh
    · exact hold
    · have hno := hnew e hfresh hsame
      rw [Field.isVector_iff.mpr hv] at hno
      cases hno

theorem caches_replace {db : Database α} {d c : Descriptor α} {p q : Projection α} {s : Spline α}
    (h : db.Caches c p s) (hkind : c.kind ≠ d.kind) (f : Field α) (last : Option (Projection α)) :
    Caches { db with cache := (db.cache.replace d q f).2, lastProjection := last } c p s := by
  obtain ⟨i, e, he, hsame, hrest⟩ := h
  have hother : e.descriptor.kind ≠ d.kind := by
    obtain ⟨_, _, _, _, _, _, hsameKind⟩ := hsame
    rwa [hsameKind]
  exact ⟨i, e, Cache.get?_replace_of_kind he hother, hsame, hrest⟩

theorem assemble_leads {d : Descriptor α} {db : Database α} (hd : d.kind = .vector)
    (hs : db.cache.Stamped) (x y : String) :
    Leads (assemble d x y) db
      (fun f db' => ∃ e, db'.cache.Recalls d e ∧ e.field = f ∧ f.isVector = true ∧
        db'.lastProjection = some e.projection ∧ db'.ConsistsOf d x y f)
      fun _ db' => Grows db db' (·.descriptor.kind = .continuous) := by
  have hkind : ∀ {element : String} {e : CacheEntry α},
      e.descriptor = d.component element .continuous → e.descriptor.kind = .continuous := by
    intro element e he
    rw [he]
    rfl
  apply Leads.bind ((vectorComponent_leads d x db).mono (fun _ _ => id) _)
  · rintro ⟨p, u⟩ db₁ ⟨hx, hsx, hu⟩
    have hgrown := hx.mono fun _ => hkind
    apply Leads.bind ((vectorComponent_leads d y db₁).mono (fun _ _ => id) _)
    · rintro ⟨q, v⟩ db₂ ⟨hy, hsy, hv⟩
      replace hu := hy.caches hu
      dsimp only
      split
      · rename_i hmap
        have hp : (Field.surface [u, v]).stamp p = p := by
          obtain ⟨i, e, he, _, rfl, hf⟩ := hu
          have hstamped := hsy (hsx hs) i e he
          rw [CacheEntry.IsStamped, hf] at hstamped
          exact hstamped
        have hother : ∀ element, (d.component element .continuous).kind ≠ d.kind := by
          rw [hd]
          exact fun _ => nofun
        have hget := Cache.get?_replace_self db₂.cache d p (.surface [u, v])
        refine ⟨.stamped d p (.surface [u, v]), ⟨_, Cache.scan?_replace _ d p _, hget⟩, rfl, rfl, ?_,
          p, q, u, v, caches_replace hu (hother x) _ _, caches_replace hv (hother y) _ _, hmap, rfl⟩
        exact congrArg some hp.symm
      · exact Leads.throw (hgrown.trans (hy.mono fun _ => hkind))
    · intro _ db₂ hy
      exact hgrown.trans (hy.mono fun _ => hkind)
  · intro _ db₁ hx
    exact hx.mono fun _ => hkind

theorem assemble_contract {d : Descriptor α} {db db₁ : Database α} {new : CacheEntry α → Prop}
    (hd : d.kind = .vector) (hs : db.cache.Stamped) (hgrows : Grows db db₁ new)
    (hnew : ∀ e, new e → e.IsStamped ∧ e.field.isVector = false) (x y : String) :
    Leads (assemble d x y) db₁ (VectorRead d x y db) fun _ => VectorRefused d db := by
  apply (assemble_leads hd (hgrows.stamped (fun e he => (hnew e he).1) hs) x y).mono
  · rintro f db₂ ⟨e, hrecalls, rfl, hv, hlast, hconsists⟩
    exact vectorRead_of_recalls hd hrecalls hv hlast fun _ => hconsists
  · intro _ db₂ hgrows'
    apply ((hgrows.mono fun _ => Or.inl).trans (hgrows'.mono fun _ => Or.inr)).vectorRefused
    rintro e (hfresh | hcontinuous) hsame
    · exact (hnew e hfresh).2
    · obtain ⟨_, _, _, _, _, _, hkind⟩ := hsame
      rw [hcontinuous, hd] at hkind
      cases hkind

/-- Reading a vector field: the field returned has two components and is cached, the projection
read last is the one stored with it, and another call returns it with nothing read. If it was put
together, its components are those cached on one map. If it cannot be had, all that was cached is
still there, no vector is cached in its place and the projection read last is the same. -/
theorem vectorField_contract (db : Database α) (h : db.cache.Reached) (d : Descriptor α)
    (hd : d.kind = .vector) (x y : String) :
    Leads (vectorField d x y) db (VectorRead d x y db) fun _ => VectorRefused d db := by
  simp only [vectorField, hd, ne_eq, not_true_eq_false, if_false]
  apply Leads.bind (Query.leads_outcome (entry_leads d db).traced)
  intro r db₁ hr
  cases r with
  | ok e =>
    obtain ⟨hrun, hgrows, hrecalls⟩ := hr
    dsimp only
    split
    · rename_i hv
      exact vectorRead_of_recalls hd hrecalls hv rfl fun hnot => absurd ⟨e, db₁, hrun, hv⟩ hnot
    · rename_i hv
      apply assemble_contract hd h.stamped hgrows
      rintro _ ⟨rfl, _, hstamped⟩
      exact ⟨hstamped, eq_false_of_ne_true hv⟩
  | error err =>
    obtain ⟨_, hgrows⟩ := hr
    cases err with
    | fetch _ => exact assemble_contract hd h.stamped hgrows (fun _ hfalse => hfalse.elim) x y
    | _ => exact Leads.throw (hgrows.vectorRefused fun _ hfalse => hfalse.elim)

namespace Wind

def descriptor (element : String) (kind : FieldKind) : Descriptor Float :=
  { source := "test", element, level := "", kind, validTime := some .epoch }

def database : Database Float :=
  .new ([("wind", FieldKind.vector), ("u", .continuous), ("v", .continuous)].foldl
    (fun a (element, kind) =>
      a.put (descriptor element kind) .standard element "" kind
        (.surface [.constant 1 ⟨2, 2, 1⟩ .standard])) .empty) .empty

end Wind

theorem vectorField_contract_wind :
    Wind.database.cache.Reached ∧ (Wind.descriptor "wind" .vector).kind = .vector ∧
      ∃ f db', vectorField (Wind.descriptor "wind" .vector) "u" "v" Wind.database = .ok f db' ∧
        VectorRead (Wind.descriptor "wind" .vector) "u" "v" Wind.database f db' ∧
        db'.ConsistsOf (Wind.descriptor "wind" .vector) "u" "v" f := by
  have h := vectorField_contract Wind.database .empty (Wind.descriptor "wind" .vector) rfl "u" "v"
  have hok : (answer (vectorField (Wind.descriptor "wind" .vector) "u" "v") Wind.database).isOk =
      true := by decide +kernel
  have hpart : (answer (entry (Wind.descriptor "wind" .vector)) Wind.database).toOption.any
      (·.field.isVector) = false := by decide +kernel
  rw [Leads] at h
  split at h
  · rename_i f db' hrun
    refine ⟨.empty, rfl, f, db', hrun, h, h.assembled ?_⟩
    rintro ⟨e, db₁, hentry, hv⟩
    rw [answer, hentry] at hpart
    exact Bool.false_ne_true (hpart.symm.trans hv)
  · rename_i hrun
    rw [answer, hrun] at hok
    cases hok

end Database

end Synoptic
