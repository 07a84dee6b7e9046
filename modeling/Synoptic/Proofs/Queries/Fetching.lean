import Synoptic.Proofs.Queries.Entry

namespace Synoptic

variable {α : Type}

def FetchError.reads : FetchError α → Nat
  | .notPresent .. => 1
  | _ => 0

namespace Cache

/-- A slot was empty or there was none at its place, all before it were taken, and an entry was put
into it. -/
structure Stores (c : Cache α) (i : Nat) (e : CacheEntry α) (c' : Cache α) : Prop where
  empty : c.get? i = none
  first : ∀ j < i, ∃ e', c.get? j = some e'
  place : i ≤ c.capacity
  capacity : c'.capacity = max c.capacity (i + 1)
  get? : ∀ j, c'.get? j = if j = i then some e else c.get? j

theorem exists_of_full {c : Cache α} {j : Nat} (h : j < c.slots.length)
    (hfull : c.slots[j].isNone = false) : ∃ e, c.get? j = some e := by
  rw [get?, List.getElem?_eq_getElem h]
  exact Option.isSome_iff_exists.mp (Option.isNone_eq_false_iff.mp hfull)

theorem Stores.of_slots {c c₀ c' : Cache α} {i : Nat} {e : CacheEntry α} (h : c.Stores i e c')
    (hslots : c₀.slots = c.slots) : c₀.Stores i e c' := by
  have hget := get?_congr hslots
  have hcapacity : c₀.capacity = c.capacity := congrArg List.length hslots
  exact ⟨hget ▸ h.empty, hget ▸ h.first, hcapacity ▸ h.place, hcapacity ▸ h.capacity, hget ▸ h.get?⟩

theorem Stores.scan? {c c' : Cache α} {i : Nat} {e : CacheEntry α} (h : c.Stores i e c')
    (hmiss : c.scan? (·.SameField e.descriptor) = none) :
    c'.scan? (·.SameField e.descriptor) = some i := by
  have hi : c'.get? i = some e := by rw [h.get?, if_pos rfl]
  apply scan?_eq_some hi (decide_eq_true (.refl _))
  intro j e' he' hsame
  rw [h.get?] at he'
  split at he'
  · assumption
  · rw [scan?_eq_none_iff.mp hmiss j e' he'] at hsame
    cases hsame

variable [Number α]

theorem stores_add (c : Cache α) (d : Descriptor α) (p : Projection α) (f : Field α) :
    c.Stores (c.add d p f).1 (.stamped d p f) (c.add d p f).2 := by
  have hslot := get?_add_slot c d p f
  have hget := get?_add c d p f
  cases hfind : c.slots.findIdx? (·.isNone) with
  | some i =>
    have hadd : c.add d p f = (i, { c with slots := c.slots.set i (some (.stamped d p f)) }) := by
      simp only [add, hfind]
    obtain ⟨h, _, hfirst⟩ := List.findIdx?_eq_some_iff_getElem.mp hfind
    rw [hadd] at hslot hget ⊢
    refine ⟨hslot, ?_, Nat.le_of_lt h, ?_, hget⟩
    · intro j hj
      exact exists_of_full (Nat.lt_trans hj h) (eq_false_of_ne_true (hfirst j hj))
    · simp only [capacity, List.length_set]
      omega
  | none =>
    have hadd : c.add d p f =
        (c.capacity, { c with slots := c.slots ++ [some (.stamped d p f)] }) := by
      simp only [add, hfind]
    rw [hadd] at hslot hget ⊢
    refine ⟨hslot, ?_, Nat.le_refl _, ?_, hget⟩
    · intro j hj
      exact exists_of_full hj (List.findIdx?_eq_none_iff.mp hfind _ (List.getElem_mem hj))
    · simp only [capacity, List.length_append, List.length_singleton]
      omega

theorem lastHit_add (c : Cache α) (d : Descriptor α) (p : Projection α) (f : Field α) :
    (c.add d p f).2.lastHit = c.lastHit := by
  rw [add]
  split <;> rfl

end Cache

theorem Archive.read?_eq_some {a b : Archive α} {path : Path} {file : Metafile α}
    (h : a.read? path = some (file, b)) :
    a.file? path = some file ∧ b = { a with reads := a.reads + 1 } := by
  rw [read?] at h
  split at h
  · cases h
  · obtain ⟨_, hfile, hb⟩ := Option.map_eq_some_iff.mp h
    cases hb
    exact ⟨hfile, rfl⟩

namespace Database

def missed (d : Descriptor α) (reads : Nat) (cache : Cache α) (db : Database α) : Database α :=
  { db with
    archive := { db.archive with reads := db.archive.reads + reads }
    cache
    preferPlot := if d.kind = .scattered then false else db.preferPlot }

theorem takeCategory_missed (d : Descriptor α) (db : Database α)
    {Q : DatabaseError α → Database α → Prop} :
    Leads (takeCategory d.kind) db
      (fun c db' => c = categoryFor db.preferPlot d.kind ∧ db' = db.missed d 0 db.cache) Q := by
  rw [missed]
  cases d.kind <;> exact ⟨rfl, rfl⟩

theorem readFile_missed (path : Path) (d : Descriptor α) (db : Database α) :
    Leads (readFile path d) (db.missed d 0 db.cache)
      (fun file db' => db.archive.file? path = some file ∧ db' = db.missed d 1 db.cache)
      fun err db' => err = .fetch (.unreadable path d) ∧ db' = db.missed d 0 db.cache := by
  apply Leads.get_bind
  cases hread : (db.missed d 0 db.cache).archive.read? path with
  | none => exact ⟨rfl, rfl⟩
  | some r =>
    obtain ⟨hfile, harchive⟩ := Archive.read?_eq_some hread
    refine ⟨hfile, ?_⟩
    change { db.missed d 0 db.cache with archive := r.2 } = _
    rw [harchive]
    rfl

def ReadAs (db : Database α) (d : Descriptor α) (projection : Projection α) (f : Field α) : Prop :=
  ∃ path file, db.archive.locate? d = some path ∧ db.archive.file? path = some file ∧
    file.projection = projection ∧
      file.take? (categoryFor db.preferPlot d.kind) d.kind d.element d.level = some f

theorem fetch_missed (d : Descriptor α) (db : Database α) :
    Leads (fetch d) db
      (fun r db' => db.ReadAs d r.1 r.2 ∧ db' = db.missed d 1 db.cache)
      fun err db' => ∃ reason, err = .fetch reason ∧ db' = db.missed d reason.reads db.cache := by
  apply Leads.bind (takeCategory_missed d db)
  rintro _ _ ⟨rfl, rfl⟩
  apply Leads.get_bind
  have hsame : (db.missed d 0 db.cache).archive.locate? d = db.archive.locate? d := rfl
  rw [hsame]
  cases hlocate : db.archive.locate? d with
  | none => exact ⟨_, rfl, rfl⟩
  | some path =>
    apply Leads.bind ((readFile_missed path d db).mono (fun _ _ => id) _)
    · rintro file _ ⟨hfile, rfl⟩
      split
      · rename_i field htake
        exact ⟨⟨path, file, hlocate, hfile, rfl, htake⟩, rfl⟩
      · exact ⟨_, rfl, rfl⟩
    · rintro _ _ ⟨rfl, rfl⟩
      exact ⟨_, rfl, rfl⟩

variable [Number α]

/-- What a miss that was answered leaves behind: one metafile was read, and the field is in the first
empty slot or a new last one, where it is found. -/
structure Fetched (d : Descriptor α) (db : Database α) (e : CacheEntry α) (db' : Database α) :
    Prop where
  read : ∃ projection, db.ReadAs d projection e.field ∧ e = .stamped d projection e.field
  rest : db' = db.missed d 1 db'.cache
  lastHit : db'.cache.lastHit = none
  slot : ∃ i, db.cache.Stores i e db'.cache ∧ (db'.cache.lookup d).1 = some i

theorem entry_missed {d : Descriptor α} {db : Database α}
    (hmiss : db.cache.scan? (·.SameField d) = none) :
    Leads (entry d) db (Fetched d db) fun err db' => ∃ reason, err = .fetch reason ∧
      db' = db.missed d reason.reads { db.cache with lastHit := none } := by
  have hcached : Leads (cached? d) db
      (fun o db' => o = none ∧ db' = { db with cache := { db.cache with lastHit := none } })
      fun _ _ => False := by
    rw [Leads, cached?_eq, hmiss]
    exact ⟨rfl, rfl⟩
  apply Leads.bind (hcached.mono (fun _ _ => id) fun _ _ => False.elim)
  rintro _ _ ⟨rfl, rfl⟩
  apply Leads.bind ((fetch_missed d _).mono (fun _ _ => id) fun _ _ => id)
  rintro ⟨p, f⟩ _ ⟨hread, rfl⟩
  have hstores : db.cache.Stores _ _ _ :=
    (Cache.stores_add { db.cache with lastHit := none } d p f).of_slots rfl
  exact ⟨⟨p, hread, rfl⟩, rfl, Cache.lastHit_add .., _, hstores, hstores.scan? hmiss⟩

def entryOr (lost : DatabaseError α) (d : Descriptor α) : Query α (CacheEntry α) := do
  match ← cached? d with
  | some e => return e
  | none =>
    let (projection, field) ← fetch d
    let i ← onCache (·.add d projection field)
    match (← get).cache.get? i with
    | some e => return e
    | none => throw lost

theorem entryOr_eq (lost : DatabaseError α) (d : Descriptor α) : entryOr lost d = entry d := by
  apply congrArg (cached? d >>= ·)
  funext cached
  cases cached with
  | some e => rfl
  | none =>
    apply congrArg (fetch d >>= ·)
    funext ⟨p, f⟩ db
    have hget := Cache.get?_add_self db.cache d p f
    have hadd : onCache (·.add d p f) db =
        .ok (db.cache.add d p f).1 { db with cache := (db.cache.add d p f).2 } := rfl
    have hstate : ∀ db : Database α, (get : Query α (Database α)) db = .ok db db := fun _ => rfl
    dsimp only
    rw [run_bind_ok hadd, run_bind_ok hadd, run_bind_ok (hstate _), hget]

/-- Asking for a field is atomic. What is cached is returned and nothing is read; what is fetched is
read once and stored in one slot; and what cannot be had changes no slot. -/
theorem field_atomic (d : Descriptor α) (db : Database α) :
    ((∃ i e, db.cache.get? i = some e ∧ e.descriptor.SameField d) →
      ∃ i e, db.cache.get? i = some e ∧ e.descriptor.SameField d ∧
        field d db = .ok e.field { db with cache := { db.cache with lastHit := some i } }) ∧
    ((∀ i e, db.cache.get? i = some e → ¬ e.descriptor.SameField d) →
      Leads (field d) db (fun f db' => ∃ e, f = e.field ∧ Fetched d db e db') fun err db' =>
        ∃ reason, err = .fetch reason ∧
          db' = db.missed d reason.reads { db.cache with lastHit := none }) ∧
    ∀ lost, entryOr lost d db = entry d db := by
  refine ⟨?_, ?_, fun lost => congrFun (entryOr_eq lost d) db⟩
  · rintro ⟨i₀, e₀, he₀, hsame₀⟩
    obtain ⟨i, hscan⟩ := Cache.exists_scan? (p := (·.SameField d)) he₀ (decide_eq_true hsame₀)
    obtain ⟨e, he, hsame⟩ := Cache.scan?_some hscan
    refine ⟨i, e, he, of_decide_eq_true hsame, ?_⟩
    exact run_bind_ok (entry_hit hscan he)
  · intro hmiss
    have hscan : db.cache.scan? (·.SameField d) = none :=
      Cache.scan?_eq_none_iff.mpr fun i e he => decide_eq_false (hmiss i e he)
    apply Leads.bind (entry_missed hscan)
    intro e db' he
    exact ⟨e, rfl, he⟩

namespace Lone

def descriptor (element : String) : Descriptor Float :=
  { source := "test", element, level := "", kind := .continuous, validTime := some .epoch }

def database : Database Float :=
  .new (.put .empty (descriptor "u") .standard "u" "" .continuous
    (.surface [.constant 1 ⟨2, 2, 1⟩ .standard])) .empty

theorem missed (element : String) :
    ∀ i e, database.cache.get? i = some e → ¬ e.descriptor.SameField (descriptor element) :=
  fun _ _ he => nomatch he

end Lone

theorem field_atomic_lone :
    (∀ i e, Lone.database.cache.get? i = some e →
      ¬ e.descriptor.SameField (Lone.descriptor "u")) ∧
    ∃ e db', field (Lone.descriptor "u") Lone.database = .ok e.field db' ∧
      Fetched (Lone.descriptor "u") Lone.database e db' ∧
        ∃ (e' : CacheEntry Float) (db'' : Database Float),
          field (Lone.descriptor "u") db' = .ok e'.field db'' ∧ db''.archive = db'.archive := by
  refine ⟨Lone.missed "u", ?_⟩
  have hmiss := (field_atomic (Lone.descriptor "u") Lone.database).2.1 (Lone.missed "u")
  have hok : (match field (Lone.descriptor "u") Lone.database with
      | .ok _ _ => true
      | .error _ _ => false) = true := by decide +kernel
  rw [Leads] at hmiss
  split at hmiss
  · rename_i db' hrun
    obtain ⟨e, rfl, he⟩ := hmiss
    obtain ⟨i, hstores, _⟩ := he.slot
    obtain ⟨p, _, hstamped⟩ := he.read
    have hi : db'.cache.get? i = some e := by rw [hstores.get?, if_pos rfl]
    have hsame : e.descriptor.SameField (Lone.descriptor "u") := by
      rw [hstamped]
      exact .refl _
    obtain ⟨_, e', _, _, hhit⟩ := (field_atomic (Lone.descriptor "u") db').1 ⟨i, e, hi, hsame⟩
    exact ⟨e, db', hrun, he, e', _, hhit, rfl⟩
  · rename_i hrun
    rw [hrun] at hok
    cases hok

/-- A metafile is read even if the field turns out not to be there. -/
theorem field_failure_reads :
    ¬ ∀ (d : Descriptor Float) (db db' : Database Float) (err : DatabaseError Float),
      (∀ i e, db.cache.get? i = some e → ¬ e.descriptor.SameField d) →
        field d db = .error err db' →
          db' = { db with
            cache := { db.cache with lastHit := none }
            preferPlot := if d.kind = .scattered then false else db.preferPlot } := by
  intro h
  have hreads : (match field (Lone.descriptor "v") Lone.database with
      | .error _ db' => db'.archive.reads
      | .ok _ _ => 0) = 1 := by decide +kernel
  have hbefore : Lone.database.archive.reads = 0 := by decide +kernel
  cases hrun : field (Lone.descriptor "v") Lone.database with
  | ok f db' =>
    rw [hrun] at hreads
    cases hreads
  | error err db' =>
    rw [hrun, h _ _ db' err (Lone.missed "v") hrun] at hreads
    exact Nat.zero_ne_one (hbefore.symm.trans hreads)

end Database

end Synoptic
