import Synoptic.Proofs.History
import Synoptic.Proofs.Projection.Equality
import Synoptic.Proofs.Queries.Entry

namespace Synoptic

/-! ### What is stored -/

variable {α : Type}

def Cache.Unique (c : Cache α) : Prop :=
  ∀ i j e e', c.get? i = some e → c.get? j = some e' → e.descriptor.SameField e'.descriptor → i = j

namespace Database

def Lacks (db : Database α) (d : Descriptor α) : Prop :=
  ∀ i e, db.cache.get? i = some e → ¬ e.descriptor.SameField d

variable [Number α]

/-- A field is stored on a projection: it is cached so, or it is not cached and read so from the
archive. -/
def Stores (db : Database α) (d : Descriptor α) (p : Projection α) (f : Field α) : Prop :=
  (∃ i e, db.cache.get? i = some e ∧ e.descriptor.SameField d ∧ e.projection = p ∧ e.field = f) ∨
    db.Lacks d ∧ ∃ wish, db.archive.readingAs wish d = .ok (p, f)

theorem Stores.eq_of_surface {db : Database α} {d : Descriptor α} {p q : Projection α}
    {s : Spline α} {f : Field α} (hunique : db.cache.Unique) (h : db.Stores d p (.surface [s]))
    (h' : db.Stores d q f) : q = p ∧ f = .surface [s] := by
  rcases h with ⟨i, e, he, hsame, hp, hs⟩ | ⟨hlacks, wish, hread⟩
  · rcases h' with ⟨j, e', he', hsame', hq, hf⟩ | ⟨hlacks', _⟩
    · cases hunique i j e e' he he' (hsame.trans hsame'.symm)
      cases Option.some.inj (he.symm.trans he')
      exact ⟨hq.symm.trans hp, hf.symm.trans hs⟩
    · exact absurd hsame (hlacks' i e he)
  · rcases h' with ⟨j, e', he', hsame', _⟩ | ⟨_, wish', hread'⟩
    · exact absurd hsame' (hlacks j e' he')
    · rw [Archive.readingAs_surface hread rfl wish'] at hread'
      cases hread'
      exact ⟨rfl, rfl⟩

def OffMap (db : Database α) (d : Descriptor α) (target : Projection α) : Prop :=
  ∀ p f, db.Stores d p f → p.sameMap target = false

/-- One database after another, as queries for components leave it: what was cached is in its slot,
and no field is stored otherwise than before. -/
structure Evolves (db db' : Database α) : Prop where
  kept : ∀ i e, db.cache.get? i = some e → db'.cache.get? i = some e
  unique : db.cache.Unique → db'.cache.Unique
  stored : ∀ d p f, db'.Stores d p f → db.Stores d p f
  surfaces : ∀ d p s, db.Stores d p (.surface [s]) → db'.Stores d p (.surface [s])

namespace Evolves

variable {db db₁ db₂ : Database α}

theorem trans (h : Evolves db db₁) (h' : Evolves db₁ db₂) : Evolves db db₂ where
  kept i e he := h'.kept i e (h.kept i e he)
  unique hunique := h'.unique (h.unique hunique)
  stored d p f hf := h.stored d p f (h'.stored d p f hf)
  surfaces d p s hs := h'.surfaces d p s (h.surfaces d p s hs)

theorem of_undisturbed (h : Undisturbed db db₁) : Evolves db db₁ := by
  have hget := h.get?_eq
  have hstores : db₁.Stores = db.Stores := by
    funext d p f
    simp only [Stores, Lacks, hget, h.files.readingAs_eq]
  constructor
  · exact fun i e he => hget ▸ he
  · exact fun hunique => by rwa [Cache.Unique, hget]
  · exact fun d p f hf => hstores ▸ hf
  · exact fun d p s hs => hstores ▸ hs

theorem refl (db : Database α) : Evolves db db := of_undisturbed (.refl db)

theorem of_fetched {d : Descriptor α} {p : Projection α} {f : Field α} {wish : Bool}
    (hlacks : db.Lacks d) (hread : db.archive.readingAs wish d = .ok (f.stamp p, f))
    (hrest : Undisturbed db db₁) :
    Evolves db { db₁ with cache := (db₁.cache.add d p f).2 } := by
  have hkept : ∀ i e, db.cache.get? i = some e → (db₁.cache.add d p f).2.get? i = some e :=
    fun i e he => Cache.get?_add_of_some (hrest.get?_eq ▸ he) d p f
  have hadded : ∀ i e, (db₁.cache.add d p f).2.get? i = some e →
      (i = (db₁.cache.add d p f).1 ∧ e = .stamped d p f) ∨ db.cache.get? i = some e :=
    fun i e he => hrest.get?_eq ▸ Cache.added_or_get? he
  constructor
  · exact hkept
  · intro hunique i j e e' he he' hsame
    have hlacks₁ : db₁.Lacks d := fun i e he => hlacks i e (hrest.get?_eq ▸ he)
    rcases Cache.eq_or_get?_of_add hlacks₁ he he' hsame with hij | ⟨hi, hj⟩
    · exact hij
    · exact hunique i j e e' (hrest.get?_eq ▸ hi) (hrest.get?_eq ▸ hj) hsame
  · rintro d' q g (⟨i, e, he, hsame, hq, hg⟩ | ⟨hlacks', wish', hread'⟩)
    · rcases hadded i e he with ⟨rfl, rfl⟩ | hi
      · cases hq
        cases hg
        refine .inr ⟨?_, wish, Archive.readingAs_ok_of_sameField wish hsame hread⟩
        exact fun j e' hj hsame' => hlacks j e' hj (hsame'.trans hsame.symm)
      · exact .inl ⟨i, e, hi, hsame, hq, hg⟩
    · refine .inr ⟨fun i e he => hlacks' i e (hkept i e he), wish', ?_⟩
      rw [← hrest.files.readingAs_eq]
      exact hread'
  · rintro d' q s (⟨i, e, he, hrest⟩ | ⟨hlacks', wish', hread'⟩)
    · exact .inl ⟨i, e, hkept i e he, hrest⟩
    · by_cases hsame : d.SameField d'
      · have hsurface := Archive.readingAs_surface hread' rfl wish
        rw [Archive.readingAs_ok_of_sameField wish hsame hread] at hsurface
        cases hsurface
        exact .inl ⟨_, _, Cache.get?_add_self .., hsame, rfl, rfl⟩
      · refine .inr ⟨?_, wish', (hrest.files.readingAs_eq wish' d').trans hread'⟩
        intro i e he
        rcases hadded i e he with ⟨rfl, rfl⟩ | hi
        · exact hsame
        · exact hlacks' i e hi

end Evolves

/-! ### One request -/

theorem entry_stores (d : Descriptor α) (db : Database α) :
    Leads (entry d) db
      (fun e db' => Evolves db db' ∧ db.Stores d e.projection e.field ∧
        ∃ i, db'.cache.get? i = some e ∧ e.descriptor.SameField d)
      fun _ db' => Evolves db db' ∧ ∀ p s, ¬ db.Stores d p (.surface [s]) := by
  have h := entry_entering d db
  have hlacks : db.cache.scan? (·.SameField d) = none → db.Lacks d := fun hmiss i e he hsame =>
    absurd hsame (of_decide_eq_false (Cache.scan?_eq_none_iff.mp hmiss i e he))
  rw [Leads]
  generalize entry d db = r at h ⊢
  cases h with
  | @hit i e hscan he =>
    have hsame := Cache.Recalls.sameField ⟨i, hscan, he⟩
    exact ⟨.of_undisturbed ⟨rfl, ⟨rfl, rfl⟩, rfl⟩, .inl ⟨i, e, he, hsame, rfl, rfl⟩, i, he, hsame⟩
  | fetched hmiss hread hrest =>
    exact ⟨.of_fetched (hlacks hmiss) hread hrest, .inr ⟨hlacks hmiss, _, hread⟩,
      _, Cache.get?_add_self .., .refl d⟩
  | failed hmiss hread hrest =>
    refine ⟨.of_undisturbed hrest, ?_⟩
    rintro p s (⟨i, e, he, hsame, _⟩ | ⟨_, wish, hsurface⟩)
    · exact hlacks hmiss i e he hsame
    · rw [Archive.readingAs_surface hsurface rfl] at hread
      cases hread

theorem partnerEntry_stores (d : Descriptor α) (partner : String) (db : Database α) :
    Leads (partnerEntry d partner) db
      (fun e db' => Evolves db db' ∧
        db.Stores (d.component partner d.kind) e.projection e.field ∧
        ∃ i, db'.cache.get? i = some e ∧ e.descriptor.SameField (d.component partner d.kind))
      fun _ db' => Evolves db db' ∧
        ∀ p s, ¬ db.Stores (d.component partner d.kind) p (.surface [s]) := by
  apply Leads.bind (Query.leads_outcome (entry_stores (d.component partner d.kind) db))
  intro r db₁ hr
  cases r with
  | ok e => exact Leads.pure hr
  | error err => exact Leads.throw hr

omit [Number α] in
theorem singleSurface_leads (d : Descriptor α) (element : String) (f : Field α)
    (db : Database α) :
    Leads (singleSurface d element f) db (fun s db' => db' = db ∧ f = .surface [s])
      fun _ db' => db' = db ∧ ∀ s, f ≠ .surface [s] := by
  rw [singleSurface]
  cases hs : f.single? with
  | some s => exact Leads.pure ⟨rfl, Field.single?_iff.mp hs⟩
  | none =>
    refine Leads.throw ⟨rfl, fun s hf => ?_⟩
    rw [hf] at hs
    cases hs

theorem turnedField_leads (d : Descriptor α) (axis : Axis) (partner : String)
    (target : Projection α) (f g : Field α) (db : Database α) :
    Leads (turnedField d axis partner target f g) db
      (fun r db' => db' = db ∧ ∃ s s' turned, f = .surface [s] ∧ g = .surface [s'] ∧
        Reprojection.components (axis.arrange s s').1 (axis.arrange s s').2 target = .ok turned ∧
        r = .surface [axis.select turned])
      fun _ db' => db' = db ∧ ∀ s s' turned, f = .surface [s] → g = .surface [s'] →
        Reprojection.components (axis.arrange s s').1 (axis.arrange s s').2 target ≠ .ok turned := by
  apply Leads.bind ((singleSurface_leads d d.element f db).mono (fun _ _ => id) _)
  · rintro s db ⟨rfl, hs⟩
    apply Leads.bind ((singleSurface_leads d partner g db).mono (fun _ _ => id) _)
    · rintro s' db ⟨rfl, hs'⟩
      dsimp only
      cases hturned : Reprojection.components (axis.arrange s s').1 (axis.arrange s s').2
        target with
      | ok turned => exact Leads.pure ⟨rfl, s, s', turned, hs, hs', hturned, rfl⟩
      | error err =>
        refine Leads.throw ⟨rfl, fun t t' turned ht ht' => ?_⟩
        cases hs.symm.trans ht
        cases hs'.symm.trans ht'
        rw [hturned]
        nofun
    · rintro e db' ⟨rfl, hno⟩
      exact ⟨rfl, fun s s' turned _ hs' => absurd hs' (hno s')⟩
  · rintro e db' ⟨rfl, hno⟩
    exact ⟨rfl, fun s s' turned hs => absurd hs (hno s)⟩

def Paired (db : Database α) (d d' : Descriptor α) (s s' : Spline α) : Prop :=
  ∃ p q, db.Stores d p (.surface [s]) ∧ db.Stores d' q (.surface [s']) ∧ p.sameMap q = true

theorem componentField_leads {d : Descriptor α} {axis : Axis} {partner : String}
    {target : Projection α} {db : Database α} (hunique : db.cache.Unique)
    (hd : db.OffMap d target) :
    Leads (componentField d axis partner target) db
      (fun f db' => Evolves db db' ∧ ∃ s s' p q turned,
        db.Paired d (d.component partner d.kind) s s' ∧
        Reprojection.components (axis.arrange s s').1 (axis.arrange s s').2 target = .ok turned ∧
        f = .surface [axis.select turned] ∧
        db'.Caches d p s ∧ db'.Caches (d.component partner d.kind) q s')
      fun _ db' => Evolves db db' ∧ ∀ s s' turned,
        db.Paired d (d.component partner d.kind) s s' →
          Reprojection.components (axis.arrange s s').1 (axis.arrange s s').2 target ≠
            .ok turned := by
  apply Leads.bind ((entry_stores d db).mono (fun _ _ => id) _)
  · rintro mine db₁ ⟨h₁, hmine, i, hi, hsame⟩
    rw [Reprojection.isNeeded, hd _ _ hmine, Bool.not_false, if_pos rfl]
    apply Leads.bind ((partnerEntry_stores d partner db₁).mono (fun _ _ => id) _)
    · rintro theirs db₂ ⟨h₂, htheirs, j, hj, hsame'⟩
      have hevolves := h₁.trans h₂
      replace htheirs := h₁.stored _ _ _ htheirs
      -- Whatever pair is stored, it is what the two entries hold.
      have hpaired : ∀ s s', db.Paired d (d.component partner d.kind) s s' →
          mine.field = .surface [s] ∧ theirs.field = .surface [s'] ∧
            mine.projection.sameMap theirs.projection = true := by
        rintro s s' ⟨p, q, hs, hs', hmap⟩
        obtain ⟨rfl, hf⟩ := hs.eq_of_surface hunique hmine
        obtain ⟨rfl, hf'⟩ := hs'.eq_of_surface hunique htheirs
        exact ⟨hf, hf', hmap⟩
      split
      · rename_i hmap
        apply (turnedField_leads d axis partner target mine.field theirs.field db₂).mono
        · rintro f db₂ ⟨rfl, s, s', turned, hs, hs', hturned, rfl⟩
          refine ⟨hevolves, s, s', mine.projection, theirs.projection, turned, ?_, hturned, rfl,
            ⟨i, mine, h₂.kept i mine hi, hsame, rfl, hs⟩, j, theirs, hj, hsame', rfl, hs'⟩
          exact ⟨_, _, hs ▸ hmine, hs' ▸ htheirs, hmap⟩
        · rintro e db₂ ⟨rfl, hno⟩
          refine ⟨hevolves, fun s s' turned h => ?_⟩
          obtain ⟨hs, hs', _⟩ := hpaired s s' h
          exact hno s s' turned hs hs'
      · rename_i hmap
        exact Leads.throw ⟨hevolves, fun s s' turned h => absurd (hpaired s s' h).2.2 hmap⟩
    · rintro e db₂ ⟨h₂, hno⟩
      refine ⟨h₁.trans h₂, ?_⟩
      rintro s s' turned ⟨p, q, _, hs', _⟩
      exact absurd (h₁.surfaces _ _ _ hs') (hno q s')
  · rintro e db₁ ⟨h₁, hno⟩
    refine ⟨h₁, ?_⟩
    rintro s s' turned ⟨p, q, hs, _⟩
    exact absurd hs (hno p s)

/-! ### Both requests -/

def pairField (dx dy : Descriptor α) (target : Projection α) : Axis → Query α (Field α)
  | .x => componentField dx .x dy.element target
  | .y => componentField dy .y dx.element target

def afterPair (dx dy : Descriptor α) (target : Projection α) (db : Database α)
    (requests : List Axis) : Database α :=
  requests.foldl (fun db axis => stateAfter (pairField dx dy target axis) db) db

theorem Paired.unique {db : Database α} {d d' : Descriptor α} {s s' t t' : Spline α}
    (hunique : db.cache.Unique) (h : db.Paired d d' s s') (h' : db.Paired d d' t t') :
    t = s ∧ t' = s' := by
  obtain ⟨p, q, hs, hs', _⟩ := h
  obtain ⟨p', q', ht, ht', _⟩ := h'
  cases (hs.eq_of_surface hunique ht).2
  cases (hs'.eq_of_surface hunique ht').2
  exact ⟨rfl, rfl⟩

theorem Paired.symm {db : Database Float} {d d' : Descriptor Float} {s s' : Spline Float}
    (h : db.Paired d d' s s') : db.Paired d' d s' s := by
  obtain ⟨p, q, hs, hs', hmap⟩ := h
  exact ⟨q, p, hs', hs, (q.sameMap_comm p).trans hmap⟩

namespace Evolves

variable {db db₁ : Database α} {d d' : Descriptor α}

theorem offMap (h : Evolves db db₁) {target : Projection α} (hd : db.OffMap d target) :
    db₁.OffMap d target := fun p f hf => hd p f (h.stored d p f hf)

theorem paired_iff (h : Evolves db db₁) {s s' : Spline α} :
    db₁.Paired d d' s s' ↔ db.Paired d d' s s' := by
  constructor
  · rintro ⟨p, q, hs, hs', hmap⟩
    exact ⟨p, q, h.stored _ _ _ hs, h.stored _ _ _ hs', hmap⟩
  · rintro ⟨p, q, hs, hs', hmap⟩
    exact ⟨p, q, h.surfaces _ _ _ hs, h.surfaces _ _ _ hs', hmap⟩

end Evolves

section

variable {dx dy : Descriptor Float} {target : Projection Float} {db : Database Float}
  (hpair : dy = { dx with element := dy.element }) (hunique : db.cache.Unique)
  (hx : db.OffMap dx target) (hy : db.OffMap dy target)

include hpair hunique hx hy

theorem pairField_leads (axis : Axis) :
    Leads (pairField dx dy target axis) db
      (fun f db' => Evolves db db' ∧ ∃ xs ys p q turned, db.Paired dx dy xs ys ∧
        Reprojection.components xs ys target = .ok turned ∧ f = .surface [axis.select turned] ∧
        db'.Caches dx p xs ∧ db'.Caches dy q ys)
      fun _ db' => Evolves db db' ∧ ∀ xs ys turned, db.Paired dx dy xs ys →
        Reprojection.components xs ys target ≠ .ok turned := by
  -- Whichever component is asked for, and whichever is read first, the two splines go into the
  -- reprojection in the order of the axes.
  have hxy : dx.component dy.element dx.kind = dy := hpair.symm
  have hyx : dy.component dx.element dy.kind = dx := by
    rw [hpair]
    rfl
  cases axis with
  | x =>
    have h : Leads (componentField dx .x dy.element target) db _ _ :=
      componentField_leads hunique hx
    rw [hxy] at h
    exact h
  | y =>
    have h : Leads (componentField dy .y dx.element target) db _ _ :=
      componentField_leads hunique hy
    rw [hyx] at h
    apply h.mono
    · rintro f db' ⟨hev, ys, xs, q, p, turned, hpaired, hturned, hf, hcy, hcx⟩
      exact ⟨hev, xs, ys, p, q, turned, hpaired.symm, hturned, hf, hcx, hcy⟩
    · rintro e db' ⟨hev, hno⟩
      exact ⟨hev, fun xs ys turned hpaired => hno ys xs turned hpaired.symm⟩

theorem evolves_pairField (axis : Axis) :
    Evolves db (stateAfter (pairField dx dy target axis) db) :=
  ((pairField_leads hpair hunique hx hy axis).mono (fun _ _ h => h.1) fun _ _ h => h.1).stateAfter

theorem evolves_afterPair (requests : List Axis) :
    Evolves db (db.afterPair dx dy target requests) := by
  induction requests generalizing db with
  | nil => exact .refl db
  | cons axis requests ih =>
    have h := evolves_pairField hpair hunique hx hy axis
    exact h.trans (ih (h.unique hunique) (h.offMap hx) (h.offMap hy))

end

/-- The components of a vector that is stored off the map of a target: however often and in whatever
order they are asked for, each request returns its half of one reprojection of the same two splines,
which are cached then, or each request fails. What is in a slot stays there. -/
theorem pairField_joint (db : Database Float) (dx dy : Descriptor Float)
    (target : Projection Float) (hunique : db.cache.Unique)
    (hpair : dy = { dx with element := dy.element }) (hx : db.OffMap dx target)
    (hy : db.OffMap dy target) :
    ((∃ xs ys turned, Reprojection.components xs ys target = .ok turned ∧
        ∀ earlier axis, ∃ db',
          pairField dx dy target axis (db.afterPair dx dy target earlier) =
            .ok (.surface [axis.select turned]) db' ∧
          (∃ p, db'.Caches dx p xs) ∧ ∃ q, db'.Caches dy q ys) ∨
      ∀ earlier axis, ∃ e db',
        pairField dx dy target axis (db.afterPair dx dy target earlier) = .error e db') ∧
    ∀ earlier axis i e, (db.afterPair dx dy target earlier).cache.get? i = some e →
      (db.afterPair dx dy target (earlier ++ [axis])).cache.get? i = some e := by
  have hevolves := evolves_afterPair hpair hunique hx hy
  have hrun := fun earlier axis => pairField_leads hpair ((hevolves earlier).unique hunique)
    ((hevolves earlier).offMap hx) ((hevolves earlier).offMap hy) axis
  constructor
  · by_cases h : ∃ xs ys turned, db.Paired dx dy xs ys ∧
      Reprojection.components xs ys target = .ok turned
    · obtain ⟨xs, ys, turned, hpaired, hturned⟩ := h
      refine .inl ⟨xs, ys, turned, hturned, fun earlier axis => ?_⟩
      have hr := hrun earlier axis
      rw [Leads] at hr
      split at hr
      · rename_i f db' hok
        obtain ⟨_, us, vs, p, q, turned', hpaired', hturned', rfl, hcx, hcy⟩ := hr
        obtain ⟨rfl, rfl⟩ := hpaired.unique hunique ((hevolves earlier).paired_iff.mp hpaired')
        cases hturned.symm.trans hturned'
        exact ⟨db', hok, ⟨p, hcx⟩, q, hcy⟩
      · have hpaired' := (hevolves earlier).paired_iff.mpr hpaired
        exact absurd hturned (hr.2 xs ys turned hpaired')
    · refine .inr fun earlier axis => ?_
      have hr := hrun earlier axis
      rw [Leads] at hr
      split at hr
      · obtain ⟨_, xs, ys, p, q, turned, hpaired, hturned, _⟩ := hr
        exact absurd ⟨xs, ys, turned, (hevolves earlier).paired_iff.mp hpaired, hturned⟩ h
      · rename_i e db' herror
        exact ⟨e, db', herror⟩
  · intro earlier axis i e he
    have hstep := evolves_pairField hpair ((hevolves earlier).unique hunique)
      ((hevolves earlier).offMap hx) ((hevolves earlier).offMap hy) axis
    rw [afterPair, List.foldl_append]
    exact hstep.kept i e he

namespace Gust

def descriptor (element : String) : Descriptor Float :=
  { source := "test", element, level := "", kind := .continuous, validTime := some .epoch }

def database : Database Float :=
  .new (["u", "v"].foldl
    (fun a element =>
      a.put (descriptor element) .standard element "" .continuous
        (.surface [.constant 1 ⟨4, 4, 1⟩ .standard])) .empty) .empty

def target : Projection Float := ⟨.mercator 0, .standard, none⟩

theorem offMap {element : String}
    (h : ∀ wish, (match database.archive.readingAs wish (descriptor element) with
      | .ok r => r.1.sameMap target
      | .error _ => false) = false) : database.OffMap (descriptor element) target := by
  rintro p f (⟨i, e, he, _⟩ | ⟨_, wish, hread⟩)
  · cases he
  · have hmap := h wish
    rw [hread] at hmap
    exact hmap

end Gust

theorem pairField_joint_gust :
    Gust.database.cache.Unique ∧
      Gust.descriptor "v" = { Gust.descriptor "u" with element := (Gust.descriptor "v").element } ∧
      Gust.database.OffMap (Gust.descriptor "u") Gust.target ∧
      Gust.database.OffMap (Gust.descriptor "v") Gust.target ∧
      ∃ xs ys turned, Reprojection.components xs ys Gust.target = .ok turned ∧
        ∀ earlier axis, ∃ db', pairField (Gust.descriptor "u") (Gust.descriptor "v") Gust.target axis
          (Gust.database.afterPair (Gust.descriptor "u") (Gust.descriptor "v") Gust.target earlier) =
            .ok (.surface [axis.select turned]) db' := by
  have hunique : Gust.database.cache.Unique := fun _ _ _ _ he => nomatch he
  have hx : Gust.database.OffMap (Gust.descriptor "u") Gust.target :=
    Gust.offMap fun wish => by cases wish <;> decide +kernel
  have hy : Gust.database.OffMap (Gust.descriptor "v") Gust.target :=
    Gust.offMap fun wish => by cases wish <;> decide +kernel
  have hok : (answer (pairField (Gust.descriptor "u") (Gust.descriptor "v") Gust.target .x)
      Gust.database).isOk = true := by decide +kernel
  refine ⟨hunique, rfl, hx, hy, ?_⟩
  obtain ⟨xs, ys, turned, hturned, hall⟩ | hfails :=
    (pairField_joint Gust.database _ _ Gust.target hunique rfl hx hy).1
  · refine ⟨xs, ys, turned, hturned, fun earlier axis => ?_⟩
    obtain ⟨db', hrun, _⟩ := hall earlier axis
    exact ⟨db', hrun⟩
  · obtain ⟨e, db', herror⟩ := hfails [] .x
    change pairField _ _ _ .x Gust.database = _ at herror
    rw [answer, herror] at hok
    cases hok

end Database

end Synoptic
