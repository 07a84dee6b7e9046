import Synoptic.Proofs.Cache.Replacement
import Synoptic.Proofs.Cache.Stamp
import Synoptic.Proofs.Outcome
import Synoptic.Proofs.Reading

namespace Synoptic

variable {α : Type}

theorem Field.single?_iff {f : Field α} {s : Spline α} :
    f.single? = some s ↔ f = .surface [s] := by
  constructor
  · intro h
    unfold single? at h
    split at h
    · rw [Option.some.inj h]
    · cases h
  · rintro rfl
    rfl

def Cache.Recalls (c : Cache α) (d : Descriptor α) (e : CacheEntry α) : Prop :=
  ∃ i, c.scan? (·.SameField d) = some i ∧ c.get? i = some e

theorem Cache.Recalls.sameField {c : Cache α} {d : Descriptor α} {e : CacheEntry α}
    (h : c.Recalls d e) : e.descriptor.SameField d := by
  obtain ⟨i, hi, he⟩ := h
  obtain ⟨e', he', hsame⟩ := scan?_some hi
  cases Option.some.inj (he'.symm.trans he)
  exact of_decide_eq_true hsame

namespace Database

/-- One database after another: what was cached is still in its slot and what is new there is as
described, the metafiles are the same, and no other vector field was read last. -/
structure Grows (db db' : Database α) (new : CacheEntry α → Prop) : Prop where
  kept : ∀ i e, db.cache.get? i = some e → db'.cache.get? i = some e
  added : ∀ i e, db'.cache.get? i = some e → db.cache.get? i = some e ∨ new e
  files : db'.archive.SameFiles db.archive
  lastProjection : db'.lastProjection = db.lastProjection

namespace Grows

variable {db db₁ db₂ : Database α} {new new' : CacheEntry α → Prop}

theorem mono (h : Grows db db₁ new) (hnew : ∀ e, new e → new' e) : Grows db db₁ new' :=
  ⟨h.kept, fun i e he => (h.added i e he).imp_right (hnew e), h.files, h.lastProjection⟩

theorem trans (h : Grows db db₁ new) (h' : Grows db₁ db₂ new) : Grows db db₂ new where
  kept i e he := h'.kept i e (h.kept i e he)
  added i e he := (h'.added i e he).elim (h.added i e) .inr
  files := ⟨h'.files.1.trans h.files.1, h'.files.2.trans h.files.2⟩
  lastProjection := h'.lastProjection.trans h.lastProjection

end Grows

def Caches (db : Database α) (d : Descriptor α) (p : Projection α) (s : Spline α) : Prop :=
  ∃ i e, db.cache.get? i = some e ∧ e.descriptor.SameField d ∧ e.projection = p ∧
    e.field = .surface [s]

theorem Grows.caches {db db' : Database α} {new : CacheEntry α → Prop} {d : Descriptor α}
    {p : Projection α} {s : Spline α} (h : Grows db db' new) (hc : db.Caches d p s) :
    db'.Caches d p s := by
  obtain ⟨i, e, he, hrest⟩ := hc
  exact ⟨i, e, h.kept i e he, hrest⟩

/-- Looking up and reading change nothing but the last hit, the count of reads and the wish for
plots. -/
structure Undisturbed (db db' : Database α) : Prop where
  slots : db'.cache.slots = db.cache.slots
  files : db'.archive.SameFiles db.archive
  lastProjection : db'.lastProjection = db.lastProjection

namespace Undisturbed

variable {db db₁ db₂ : Database α}

theorem refl (db : Database α) : Undisturbed db db := ⟨rfl, ⟨rfl, rfl⟩, rfl⟩

theorem trans (h : Undisturbed db db₁) (h' : Undisturbed db₁ db₂) : Undisturbed db db₂ :=
  ⟨h'.slots.trans h.slots, ⟨h'.files.1.trans h.files.1, h'.files.2.trans h.files.2⟩,
    h'.lastProjection.trans h.lastProjection⟩

theorem get?_eq (h : Undisturbed db db₁) : db₁.cache.get? = db.cache.get? :=
  Cache.get?_congr h.slots

theorem grows (h : Undisturbed db db₁) {new : CacheEntry α → Prop} : Grows db db₁ new :=
  ⟨fun _ _ he => h.get?_eq ▸ he, fun _ _ he => .inl (h.get?_eq ▸ he), h.files, h.lastProjection⟩

end Undisturbed

theorem takeCategory_leads (kind : FieldKind) (db : Database α)
    {Q : DatabaseError α → Database α → Prop} :
    Leads (takeCategory kind) db
      (fun c db' => Undisturbed db db' ∧ db'.archive = db.archive ∧
        c = categoryFor db.preferPlot kind) Q := by
  cases kind <;> exact ⟨⟨rfl, ⟨rfl, rfl⟩, rfl⟩, rfl, rfl⟩

theorem readFile_leads (path : Path) (d : Descriptor α) (db : Database α) :
    Leads (readFile path d) db
      (fun file db' => Undisturbed db db' ∧ (db.archive.read? path).map (·.1) = some file)
      fun e db' => Undisturbed db db' ∧ (db.archive.read? path).map (·.1) = none ∧
        e = .fetch (.unreadable path d) := by
  apply Leads.get_bind
  cases hread : db.archive.read? path with
  | some r => exact ⟨⟨rfl, Archive.read?_sameFiles hread, rfl⟩, rfl⟩
  | none => exact ⟨.refl db, rfl, rfl⟩

variable [Number α]

theorem Grows.stamped {db db' : Database α} {new : CacheEntry α → Prop} (h : Grows db db' new)
    (hnew : ∀ e, new e → e.IsStamped) (hs : db.cache.Stamped) : db'.cache.Stamped := by
  intro i e he
  rcases h.added i e he with hold | hfresh
  · exact hs i e hold
  · exact hnew e hfresh

theorem fetch_leads (d : Descriptor α) (db : Database α) :
    Leads (fetch d) db
      (fun r db' => Undisturbed db db' ∧
        db.archive.readingAs db.preferPlot d = .ok (r.2.stamp r.1, r.2))
      fun e db' => Undisturbed db db' ∧ db.archive.readingAs db.preferPlot d = .error e := by
  apply Leads.bind (takeCategory_leads d.kind db)
  rintro category db₁ ⟨h₁, harchive, rfl⟩
  apply Leads.get_bind
  rw [harchive]
  cases hlocate : db.archive.locate? d with
  | none => exact ⟨h₁, by simp only [Archive.readingAs, hlocate]⟩
  | some path =>
    apply Leads.bind ((readFile_leads path d db₁).mono (fun _ _ => id) _)
    · rintro file db₂ ⟨h₂, hfile⟩
      rw [harchive] at hfile
      split
      · rename_i field htake
        exact ⟨h₁.trans h₂, by simp only [Archive.readingAs, hlocate, hfile, htake]⟩
      · rename_i htake
        exact ⟨h₁.trans h₂, by simp only [Archive.readingAs, hlocate, hfile, htake]⟩
    · rintro e db₂ ⟨h₂, hnone, rfl⟩
      rw [harchive] at hnone
      exact ⟨h₁.trans h₂, by simp only [Archive.readingAs, hlocate, hnone]⟩

inductive Entering (d : Descriptor α) (db : Database α) :
    EStateM.Result (DatabaseError α) (Database α) (CacheEntry α) → Prop
  | hit {i e} (hscan : db.cache.scan? (·.SameField d) = some i) (he : db.cache.get? i = some e) :
    Entering d db (.ok e { db with cache := { db.cache with lastHit := some i } })
  | fetched {p f db'} (hmiss : db.cache.scan? (·.SameField d) = none)
      (hread : db.archive.readingAs db.preferPlot d = .ok (f.stamp p, f))
      (hrest : Undisturbed db db') :
    Entering d db (.ok (.stamped d p f) { db' with cache := (db'.cache.add d p f).2 })
  | failed {err db'} (hmiss : db.cache.scan? (·.SameField d) = none)
      (hread : db.archive.readingAs db.preferPlot d = .error err)
      (hrest : Undisturbed db db') :
    Entering d db (.error err db')

omit [Number α] in
theorem cached?_eq (d : Descriptor α) (db : Database α) :
    cached? d db = .ok ((db.cache.scan? (·.SameField d)).bind db.cache.get?)
      { db with cache := { db.cache with lastHit := db.cache.scan? (·.SameField d) } } := rfl

theorem entry_hit {d : Descriptor α} {db : Database α} {i : Nat} {e : CacheEntry α}
    (hscan : db.cache.scan? (·.SameField d) = some i) (he : db.cache.get? i = some e) :
    entry d db = .ok e { db with cache := { db.cache with lastHit := some i } } := by
  have hcached := cached?_eq d db
  rw [hscan, Option.bind_some, he] at hcached
  simp only [entry, bind, EStateM.bind, hcached]
  rfl

theorem entry_entering (d : Descriptor α) (db : Database α) : Entering d db (entry d db) := by
  cases hscan : db.cache.scan? (·.SameField d) with
  | some i =>
    obtain ⟨e, he, _⟩ := Cache.scan?_some hscan
    rw [entry_hit hscan he]
    exact .hit hscan he
  | none =>
    have hcached := cached?_eq d db
    rw [hscan, Option.bind_none] at hcached
    have hmissed : Undisturbed db { db with cache := { db.cache with lastHit := none } } :=
      ⟨rfl, ⟨rfl, rfl⟩, rfl⟩
    have hfetch := fetch_leads d { db with cache := { db.cache with lastHit := none } }
    rw [Leads] at hfetch
    simp only [entry, bind, EStateM.bind, hcached]
    split at hfetch
    · rename_i r db' hr
      rw [hr]
      exact .fetched hscan hfetch.2 (hmissed.trans hfetch.1)
    · rename_i err db' hr
      rw [hr]
      exact .failed hscan hfetch.2 (hmissed.trans hfetch.1)

/-- The entry that is returned is cached afterwards and found by the next lookup. At most it itself
is new, and an error leaves nothing new. -/
theorem entry_leads (d : Descriptor α) (db : Database α) :
    Leads (entry d) db
      (fun e db' => Grows db db' (fun e' => e' = e ∧ e.descriptor = d ∧ e.IsStamped) ∧
        db'.cache.Recalls d e)
      fun _ db' => Grows db db' fun _ => False := by
  have h := entry_entering d db
  rw [Leads]
  generalize entry d db = r at h ⊢
  cases h with
  | @hit i e hscan he =>
    have hsame := Cache.Recalls.sameField ⟨i, hscan, he⟩
    have hmoved : Undisturbed db { db with cache := { db.cache with lastHit := some i } } :=
      ⟨rfl, ⟨rfl, rfl⟩, rfl⟩
    exact ⟨hmoved.grows, i, Cache.scan?_lastHit rfl he (decide_eq_true hsame), he⟩
  | @fetched p f db' hmiss hread hrest =>
    have hget := hrest.get?_eq
    refine ⟨⟨?_, ?_, hrest.files, hrest.lastProjection⟩, _, ?_, Cache.get?_add_self ..⟩
    · intro i e he
      exact Cache.get?_add_of_some (hget ▸ he) d p f
    · intro i e he
      rcases Cache.added_or_get? he with ⟨_, rfl⟩ | hold
      · exact .inr ⟨rfl, rfl, CacheEntry.isStamped_stamped d p f⟩
      · exact .inl (hget ▸ hold)
    · apply Cache.scan?_eq_some (Cache.get?_add_self ..) (decide_eq_true (.refl d))
      intro i e he hsame
      rcases Cache.added_or_get? he with ⟨hi, _⟩ | hold
      · exact hi
      · rw [Cache.scan?_eq_none_iff.mp hmiss i e (hget ▸ hold)] at hsame
        cases hsame
  | failed hmiss hread hrest => exact hrest.grows

end Database

end Synoptic
