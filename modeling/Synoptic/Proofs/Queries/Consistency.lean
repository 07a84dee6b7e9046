import Synoptic.Proofs.Projection.Equality
import Synoptic.Proofs.Queries.Keeping
import Synoptic.Proofs.Queries.Vector

/-!
Consistency of what is cached: a field is of a category that its kind can have, the components of a
surface are on the map it is stored with, and the grid there is that of its first component. An
archive whose surfaces are on the maps of their metafiles gives such entries only, whether they are
read whole or put together from components.
-/

namespace Synoptic

variable {α : Type}

def FieldKind.categories : FieldKind → List Category
  | .continuous | .vector => [.surface]
  | .discrete | .wind => [.features .areas]
  | .line => [.features .curves]
  | .scattered => [.features .plots, .features .spots]
  | .lchain => [.features .lchains]

theorem Database.categoryFor_mem (wish : Bool) (kind : FieldKind) :
    categoryFor wish kind ∈ kind.categories := by
  cases kind <;> cases wish <;> decide

variable [Number α]

def Field.LiesOn (p : Projection α) : Field α → Prop
  | .surface components => components ≠ [] ∧ ∀ s ∈ components, s.projection.sameMap p = true
  | .features _ _ => True

instance (p : Projection α) : DecidablePred (Field.LiesOn p) := fun f => by
  cases f <;> unfold Field.LiesOn <;> infer_instance

structure CacheEntry.Consistent (e : CacheEntry α) : Prop where
  category : e.field.category ∈ e.descriptor.kind.categories
  map : e.field.LiesOn e.projection
  grid : ∀ s rest, e.field = .surface (s :: rest) → e.projection.grid = some s.nodes

theorem Field.sameMap_stamp (f : Field α) (p q : Projection α) :
    q.sameMap (f.stamp p) = q.sameMap p := by
  rw [stamp]
  cases f.grid? <;> rfl

theorem Field.LiesOn.stamp {f : Field α} {p : Projection α} (h : f.LiesOn p) :
    f.LiesOn (f.stamp p) := by
  cases f with
  | surface components =>
    refine ⟨h.1, fun s hs => ?_⟩
    rw [sameMap_stamp]
    exact h.2 s hs
  | features set items => trivial

theorem CacheEntry.consistent_stamped {d : Descriptor α} {p : Projection α} {f : Field α}
    (hcategory : f.category ∈ d.kind.categories) (hmap : f.LiesOn p) :
    (CacheEntry.stamped d p f).Consistent where
  category := hcategory
  map := hmap.stamp
  grid := by
    rintro s rest hf
    change f = .surface (s :: rest) at hf
    rw [hf]
    rfl

def Cache.Consistent (c : Cache α) : Prop := ∀ i e, c.get? i = some e → e.Consistent

theorem Cache.Consistent.of_write {c c' : Cache α} (h : c.Consistent) {i : Nat}
    {d : Descriptor α} {p : Projection α} {f : Field α}
    (hnew : (CacheEntry.stamped d p f).Consistent)
    (hget : ∀ j, c'.get? j = if j = i then some (.stamped d p f) else c.get? j) :
    c'.Consistent :=
  Cache.forall_of_write h (by rintro _ ⟨⟩; exact hnew) hget

theorem Cache.Consistent.delete {c : Cache α} (h : c.Consistent) (d : Descriptor α) :
    (c.delete d).2.Consistent :=
  Cache.forall_of_write h (by rintro _ ⟨⟩) (get?_delete c d)

def Archive.Mapped (a : Archive α) : Prop :=
  ∀ file ∈ a.files, ∀ stored ∈ file.2.fields, stored.2.2.LiesOn file.2.projection

instance (a : Archive α) : Decidable a.Mapped := by unfold Archive.Mapped; infer_instance

omit [Number α] in
theorem Metafile.mem_of_take? {m : Metafile α} {category : Category} {kind : FieldKind}
    {element level : String} {f : Field α} (h : m.take? category kind element level = some f) :
    ∃ stored ∈ m.fields, stored.2.2 = f := by
  rw [take?] at h
  split at h
  · rename_i hfind
    split at h
    · cases h
      exact ⟨_, List.mem_of_find?_eq_some hfind, rfl⟩
    · cases h
  · cases h

omit [Number α] in
theorem Archive.mem_of_read? {a : Archive α} {path : Path} {file : Metafile α}
    (h : (a.read? path).map (·.1) = some file) : ∃ p, (p, file) ∈ a.files := by
  rw [read?] at h
  split at h
  · cases h
  · rw [Option.map_map, file?] at h
    obtain ⟨_, hm, rfl⟩ := Option.map_eq_some_iff.mp h
    obtain ⟨⟨p, _⟩, hfind, rfl⟩ := Option.map_eq_some_iff.mp hm
    exact ⟨p, List.mem_of_find?_eq_some hfind⟩

theorem Archive.Mapped.stamped {a : Archive α} (h : a.Mapped) {wish : Bool} {d : Descriptor α}
    {p : Projection α} {f : Field α} (hread : a.readingAs wish d = .ok (f.stamp p, f)) :
    (CacheEntry.stamped d p f).Consistent := by
  have hcategory : f.category ∈ d.kind.categories := by
    rw [readingAs_category hread]
    exact Database.categoryFor_mem wish d.kind
  have hmap : f.LiesOn (f.stamp p) := by
    rw [readingAs] at hread
    split at hread
    · cases hread
    · split at hread
      · cases hread
      · rename_i file hfile
        split at hread
        · rename_i field htake
          obtain ⟨hp, rfl⟩ := Prod.mk.inj (Except.ok.inj hread)
          obtain ⟨path, hmem⟩ := mem_of_read? hfile
          obtain ⟨stored, hstored, rfl⟩ := Metafile.mem_of_take? htake
          exact hp ▸ (h _ hmem stored hstored).stamp
        · cases hread
  have hstamp : CacheEntry.stamped d p f = CacheEntry.stamped d (f.stamp p) f := by
    rw [CacheEntry.stamped, CacheEntry.stamped, f.stamp_stamp]
  exact hstamp ▸ CacheEntry.consistent_stamped hcategory hmap

namespace Database

/-- What is cached is consistent, over the metafiles of an archive. -/
structure Consistent (a : Archive α) (db : Database α) : Prop where
  files : db.archive.SameFiles a
  entries : db.cache.Consistent

namespace Consistent

variable {a : Archive α} {db : Database α}

theorem new (a : Archive α) (t : ComponentTable) : Consistent a (.new a t) :=
  ⟨⟨rfl, rfl⟩, fun _ _ he => nomatch he⟩

theorem withCache (h : Consistent a db) {cache : Cache α} (hc : cache.Consistent) :
    Consistent a { db with cache } := ⟨h.files, hc⟩

theorem of_undisturbed {db' : Database α} (h : Consistent a db) (hrest : Undisturbed db db') :
    Consistent a db' where
  files := ⟨hrest.files.1.trans h.files.1, hrest.files.2.trans h.files.2⟩
  entries i e he := h.entries i e (hrest.get?_eq ▸ he)

end Consistent

variable {a : Archive α}

theorem ensures_entry_consistent (h : a.Mapped) (d : Descriptor α) :
    Ensures (Consistent a) (entry d) CacheEntry.Consistent fun _ => True := by
  intro db hdb
  have hentry := entry_entering d db
  generalize entry d db = r at hentry ⊢
  cases hentry with
  | hit hscan he => exact ⟨hdb.withCache hdb.entries, hdb.entries _ _ he⟩
  | fetched hmiss hread hrest =>
    have hstamped := h.stamped ((hdb.files.readingAs_eq _ d).symm.trans hread)
    have hdb' := hdb.of_undisturbed hrest
    exact ⟨hdb'.withCache (hdb'.entries.of_write hstamped (Cache.get?_add _ _ _ _)), hstamped⟩
  | failed hmiss hread hrest => exact ⟨hdb.of_undisturbed hrest, trivial⟩

theorem ensures_vectorComponent_consistent (h : a.Mapped) (vector : Descriptor α)
    (element : String) :
    Ensures (Consistent a) (vectorComponent vector element)
      (fun r => r.2.projection.sameMap r.1 = true) fun _ => True := by
  apply Ensures.bind (Query.ensures_outcome (ensures_entry_consistent h _))
  intro r hr
  cases r with
  | error e => exact Ensures.throw trivial
  | ok e =>
    dsimp only
    cases hs : e.field.single? with
    | none => exact Ensures.throw trivial
    | some s =>
      apply Ensures.pure
      have hmap := CacheEntry.Consistent.map (show e.Consistent from hr)
      rw [Field.single?_iff.mp hs] at hmap
      exact hmap.2 s List.mem_cons_self

theorem ensures_assemble_consistent {a : Archive Float} (h : a.Mapped) {d : Descriptor Float}
    (hd : d.kind = .vector) (x y : String) :
    Ensures (Consistent a) (assemble d x y) (fun _ => True) fun _ => True := by
  apply Ensures.bind (ensures_vectorComponent_consistent h d x)
  rintro ⟨p, u⟩ hu
  apply Ensures.bind (ensures_vectorComponent_consistent h d y)
  rintro ⟨q, v⟩ hv
  dsimp only
  split
  · rename_i hpq
    have hvp : v.projection.sameMap p = true :=
      Projection.sameMap_trans hv ((q.sameMap_comm p).trans hpq)
    have hlies : (Field.surface [u, v]).LiesOn p := by
      refine ⟨List.cons_ne_nil u [v], fun s hs => ?_⟩
      rcases List.mem_pair.mp hs with rfl | rfl
      · exact hu
      · exact hvp
    have hstamped : (CacheEntry.stamped d p (.surface [u, v])).Consistent := by
      apply CacheEntry.consistent_stamped _ hlies
      rw [hd]
      exact List.mem_singleton_self _
    apply Ensures.bind (P := fun _ => True)
    · apply ensures_onCache
      intro db hdb
      exact ⟨hdb.withCache (hdb.entries.of_write hstamped (Cache.get?_replace _ _ _ _)), trivial⟩
    · intro _ _
      exact Ensures.bind (Ensures.modify fun db hdb => ⟨hdb.files, hdb.entries⟩)
        fun _ _ => Ensures.pure trivial
  · exact Ensures.throw trivial

theorem keptByReading_consistent {a : Archive Float} (h : a.Mapped) :
    KeptByReading (·.kind = .vector) (Consistent a) where
  declared _ _ _ _ hkind := hkind
  entry d := (ensures_entry_consistent h d).mono (fun _ _ => trivial) fun _ => id
  assemble _ x y hd := ensures_assemble_consistent h hd x y
  remember _ := Ensures.modify fun _ hdb => ⟨hdb.files, hdb.entries⟩

end Database

inductive Request (α : Type)
  | access (access : Access α)
  | vectorField (d : Descriptor α) (x y : String)
  | componentField (d : Descriptor α) (axis : Axis) (partner : String) (target : Projection α)
  | wishPlots

def Request.run : Request α → Database α → Database α
  | .access asked => asked.run
  | .vectorField d x y => stateAfter (Database.vectorField d x y)
  | .componentField d axis partner target =>
    stateAfter (Database.componentField d axis partner target)
  | .wishPlots => stateAfter Database.wishPlots

def Database.afterRequests (db : Database α) (requests : List (Request α)) : Database α :=
  requests.foldl (fun db request => request.run db) db

variable {a : Archive Float} {db : Database Float}

theorem Access.run_consistent (h : a.Mapped) (hdb : db.Consistent a) (access : Access Float) :
    (access.run db).Consistent a := by
  have hkept := Database.keptByReading_consistent h
  cases access with
  | evaluate e ctx => exact (e.evaluate_keeps hkept.readingKeeps ctx).stateAfter hdb
  | field d => exact (hkept.field d).stateAfter hdb
  | fieldWithProjection d => exact (hkept.fieldWithProjection d).stateAfter hdb
  | fieldFor d target => exact (hkept.readingKeeps d target).stateAfter hdb
  | delete d => exact hdb.withCache (hdb.entries.delete d)
  | clear => exact hdb.withCache fun _ _ he => nomatch he

theorem Request.run_consistent (h : a.Mapped) (hdb : db.Consistent a) (request : Request Float) :
    (request.run db).Consistent a := by
  have hkept := Database.keptByReading_consistent h
  cases request with
  | access asked => exact asked.run_consistent h hdb
  | vectorField d x y => exact (hkept.vectorField id x y).stateAfter hdb
  | componentField d axis partner target =>
    exact (hkept.componentField d axis partner target).stateAfter hdb
  | wishPlots => exact ⟨hdb.files, hdb.entries⟩

theorem Database.afterRequests_consistent (h : a.Mapped) (hdb : db.Consistent a)
    (requests : List (Request Float)) : (db.afterRequests requests).Consistent a := by
  induction requests generalizing db with
  | nil => exact hdb
  | cons request requests ih => exact ih (request.run_consistent h hdb)

namespace CacheEntry

/-- Over an archive whose surfaces are on the maps of their metafiles, whatever is asked of a
database, in whatever order and whether it succeeds or fails: every slot that is not empty holds a
field that its kind can have, with the components of a surface on the map stored beside it and the
grid of the first one. -/
theorem consistent_of_requests (a : Archive Float) (t : ComponentTable) (h : a.Mapped)
    (requests : List (Request Float)) {i : Nat} {e : CacheEntry Float}
    (he : ((Database.new a t).afterRequests requests).cache.get? i = some e) : e.Consistent :=
  (Database.afterRequests_consistent h (.new a t) requests).entries i e he

end CacheEntry

namespace Database.Wind

def requests : List (Request Float) :=
  [.wishPlots, .vectorField (descriptor "wind" .vector) "u" "v",
    .access (.delete (descriptor "u" .continuous)),
    .componentField (descriptor "v" .continuous) .y "u" ⟨.mercator 0, .standard, none⟩]

end Database.Wind

open Database in
theorem CacheEntry.consistent_of_requests_wind :
    Wind.database.archive.Mapped ∧
      (∃ e, (Wind.database.afterRequests Wind.requests).cache.get? 0 = some e ∧
        e.field.isVector = true ∧ e.Consistent) ∧
      ∃ e, (Wind.database.afterRequests Wind.requests).cache.get? 1 = some e ∧ e.Consistent := by
  have hmapped : Wind.database.archive.Mapped := by decide +kernel
  have hwind : ((Wind.database.afterRequests Wind.requests).cache.get? 0).any
      (·.field.isVector) = true := by decide +kernel
  have hcomponent : ((Wind.database.afterRequests Wind.requests).cache.get? 1).isSome = true := by
    decide +kernel
  obtain ⟨e, he, hv⟩ := Option.any_eq_true _ _ |>.mp hwind
  obtain ⟨e', he'⟩ := Option.isSome_iff_exists.mp hcomponent
  exact ⟨hmapped, ⟨e, he, hv, consistent_of_requests _ .empty hmapped Wind.requests he⟩,
    e', he', consistent_of_requests _ .empty hmapped Wind.requests he'⟩

end Synoptic
