import Synoptic.Workbench
import Synoptic.Proofs.Conversion
import Synoptic.Proofs.Filing.Retrieval
import Synoptic.Proofs.History
import Synoptic.Proofs.Text.Fold
import Synoptic.Proofs.Time.Shift

namespace Synoptic

namespace Workbench

/-- A call that stores the surface through the values of a function, some minutes after the time of
the context. -/
structure Addition (α : Type) where
  element : String
  level : String
  minutes : Int
  values : Point α → α

def addSurfaces {α : Type} [Number α] (w : Workbench α) (calls : List (Addition α)) :
    Except (ValueError α) (Workbench α) :=
  calls.foldlM (fun w b => w.addSurface b.element b.level b.minutes b.values) w

def leafDescriptor {α : Type} (element level : String) : Descriptor α :=
  { source, element, level, kind := .continuous }

def leaf {α : Type} (element level : String) : Expr α := .field (leafDescriptor element level)

namespace Addition

def names {α : Type} (b : Addition α) : String × String := Metafile.key b.element b.level

/-- The call stores where the fields of a time are looked for. -/
def KeptAt {α : Type} (b : Addition α) (time : Timestamp) : Prop :=
  b.minutes = 0 ∨ (time.inLeapSecond = true ∧ time.second = 59) ∧ b.minutes = -1

def place {α : Type} (context : Context α) (b : Addition α) : Descriptor α :=
  (ofContext context).descriptor b.element b.level b.minutes

noncomputable def surface (projection : Projection ℝ) (grid : GridSpec ℝ) (b : Addition ℝ) :
    Spline ℝ :=
  .through (.ofFn grid fun ix iy => b.values (grid.node ix iy)) projection

noncomputable def store (context : Context ℝ) (grid : GridSpec ℝ) (archive : Archive ℝ)
    (b : Addition ℝ) : Archive ℝ :=
  archive.put (b.place context) context.projection b.element b.level .continuous
    (.surface [b.surface context.projection grid])

end Addition

theorem valueAt_eq_answer {α : Type} [Number α] (w : Workbench α) (e : Expr α)
    (points : Array (Point α)) :
    (w.valueAt e points).1 = answer (e.evaluate (w.context.withPoints points)) w.database := by
  rw [valueAt, evaluate, answer]
  cases e.evaluate (w.context.withPoints points) w.database <;> rfl

theorem sampled_points {context : Context ℝ} {s : Spline ℝ} {points : Array (Point ℝ)}
    (hs : s.Usable) (hmap : context.projection.sameMap s.projection = true) :
    Expr.sampled s (context.withPoints points) false =
      .ok (.samples (.ofFn points s.valueAt)) := by
  simp only [Expr.sampled, Context.withPoints, Spline.ensureUsable, if_pos hs,
    Projection.transfer_of_sameMap hmap]
  rfl

section Place

variable {α : Type} {context : Context α} {b : Addition α} {element level : String}

theorem pathFor_place_iff (element level : String)
    (h : context.time.StaysInCalendar (60 * b.minutes)) :
    (Archive.pathFor (b.place context) ==
        Archive.pathFor (Expr.situated (leafDescriptor element level) context)) = true ↔
      b.KeptAt context.time := by
  rw [Archive.pathFor_beq_iff, Addition.KeptAt, ← Timestamp.calendarMinute_shift_iff h]
  constructor
  · rintro ⟨_, _, htime⟩
    exact Option.some.inj htime
  · intro htime
    exact ⟨Path.beq_iff.mpr rfl, rfl, congrArg some htime⟩

theorem level_situated (hlevel : level.toList.all Text.isBlank = false) :
    (Expr.situated (leafDescriptor element level) context).level = level := by
  simp only [Expr.situated, leafDescriptor, hlevel]
  cases context.level <;> rfl

theorem not_blank_of_names (hnames : Metafile.key element level = b.names)
    (hlevel : b.level.toList.all Text.isBlank = false) :
    level.toList.all Text.isBlank = false := by
  have hfold : Text.fold level = Text.fold b.level := congrArg Prod.snd hnames
  rw [Bool.eq_false_iff, ne_eq, ← Text.fold_eq_empty_iff] at hlevel ⊢
  rwa [hfold]

end Place

section Calls

variable {context : Context ℝ} {grid : GridSpec ℝ} {archive : Archive ℝ} {a b : Addition ℝ}
  {before after calls : List (Addition ℝ)} {element level : String}

theorem fittable_values (hgrid : context.defaultGrid = .ok grid) (b : Addition ℝ) :
    Spline.Fittable (Grid.ofFn grid fun ix iy => b.values (grid.node ix iy)) :=
  Spline.fittable_of_valid (Context.valid_of_defaultGrid hgrid) (Grid.wellFormed_ofFn ..)

theorem addSurface_eq (hgrid : context.defaultGrid = .ok grid) :
    (⟨context, .new archive .empty⟩ : Workbench ℝ).addSurface b.element b.level b.minutes b.values =
      .ok ⟨context, .new (b.store context grid archive) .empty⟩ := by
  have hsurface : (⟨context, .new archive .empty⟩ : Workbench ℝ).surface b.values =
      .ok (b.surface context.projection grid) := by
    rw [Workbench.surface, hgrid]
    exact Spline.fit_of_fittable (fittable_values hgrid b) .origin context.projection
  rw [addSurface, hsurface]
  rfl

theorem addSurfaces_eq (hgrid : context.defaultGrid = .ok grid) :
    (⟨context, .new archive .empty⟩ : Workbench ℝ).addSurfaces calls =
      .ok ⟨context, .new (calls.foldl (Addition.store context grid) archive) .empty⟩ := by
  induction calls generalizing archive with
  | nil => rfl
  | cons b calls ih =>
    rw [addSurfaces, List.foldlM_cons, addSurface_eq hgrid, ok_bind]
    exact ih

theorem broken_stored (h : archive.broken = []) :
    (calls.foldl (Addition.store context grid) archive).broken = [] := by
  induction calls generalizing archive with
  | nil => exact h
  | cons b calls ih => exact ih (Archive.broken_put.trans h)

theorem reading_store {d : Descriptor ℝ} (hbroken : archive.broken = [])
    (hpath : (Archive.pathFor (a.place context) == Archive.pathFor d) = true)
    (hnames : a.names = Metafile.key d.element d.level) (hkind : d.kind = .continuous) :
    ∃ p, (a.store context grid archive).reading d =
      .ok (p, .surface [a.surface context.projection grid]) := by
  have hbroken : archive.broken.any (· == Archive.pathFor d) = false := by
    rw [hbroken]
    rfl
  rw [Addition.store, ← hkind]
  refine ⟨_, Archive.reading_put_self hbroken hpath hnames ?_⟩
  rw [hkind]
  rfl

theorem reading_stored {d : Descriptor ℝ} {r : Projection ℝ × Field ℝ}
    (hcalls : ∀ b ∈ calls, (Archive.pathFor (b.place context) == Archive.pathFor d) = true →
      b.names ≠ Metafile.key d.element d.level)
    (h : archive.reading d = .ok r) :
    (calls.foldl (Addition.store context grid) archive).reading d = .ok r := by
  induction calls generalizing archive with
  | nil => exact h
  | cons b calls ih =>
    exact ih (fun b' hb' => hcalls b' (List.mem_cons_of_mem b hb'))
      (Archive.reading_put_of_ne (hcalls b List.mem_cons_self) h)

theorem reading_last (grid : GridSpec ℝ) (before : List (Addition ℝ))
    (hcalendar : ∀ b ∈ a :: after, context.time.StaysInCalendar (60 * b.minutes))
    (hlevel : a.level.toList.all Text.isBlank = false) (hkept : a.KeptAt context.time)
    (hlast : ∀ b ∈ after, b.KeptAt context.time → b.names ≠ a.names)
    (hnames : Metafile.key element level = a.names) :
    ∃ p, ((before ++ a :: after).foldl (Addition.store context grid) .empty).reading
        (Expr.situated (leafDescriptor element level) context) =
      .ok (p, .surface [a.surface context.projection grid]) := by
  have hkey : a.names =
      Metafile.key element (Expr.situated (leafDescriptor element level) context).level := by
    rw [level_situated (not_blank_of_names hnames hlevel), hnames]
  have hpath := pathFor_place_iff element level (hcalendar a List.mem_cons_self)
  have hbroken : (before.foldl (Addition.store context grid) .empty).broken = [] :=
    broken_stored rfl
  rw [List.foldl_append, List.foldl_cons]
  obtain ⟨p, hstored⟩ := reading_store hbroken (hpath.mpr hkept) hkey rfl
  refine ⟨p, reading_stored ?_ hstored⟩
  intro b hb hstore
  have hpath := pathFor_place_iff element level (hcalendar b (List.mem_cons_of_mem a hb))
  exact hkey ▸ hlast b hb (hpath.mp hstore)

theorem valueAt_node (hgrid : context.defaultGrid = .ok grid) {ix iy : Nat} (hix : ix < grid.nx)
    (hiy : iy < grid.ny) :
    (a.surface context.projection grid).valueAt (grid.node ix iy) = a.values (grid.node ix iy) := by
  have hvalue := Spline.valueAt_through_node (fittable_values hgrid a) context.projection hix hiy
  rwa [Grid.get_ofFn grid _ hix hiy] at hvalue

theorem valueAt_of_reading {p : Projection ℝ} {s : Spline ℝ} (hs : s.Usable)
    (hprojection : s.projection = context.projection)
    (hread : archive.reading (Expr.situated (leafDescriptor element level) context) =
      .ok (p, .surface [s])) (points : Array (Point ℝ)) :
    ((⟨context, .new archive .empty⟩ : Workbench ℝ).valueAt (leaf element level) points).1 =
      .ok (.samples (.ofFn points s.valueAt)) := by
  have hfield : archive.fieldReading .empty
      (Expr.situated (leafDescriptor element level) (context.withPoints points))
        (context.withPoints points).projection = .ok (.surface [s]) :=
    congrArg (Except.map Prod.snd) hread
  have hmeaning : (leaf element level).checkedMeaning (archive.fieldReading .empty)
      (context.withPoints points) =
        Expr.ofValue (Expr.sampled s (context.withPoints points) false) := by
    change Expr.leafMeaning _ _ _ _ = _
    simp only [Expr.leafMeaning, hfield]
    rfl
  have hmap : context.projection.sameMap s.projection = true := by
    rw [hprojection]
    exact (Projection.sameMap_iff _ _).mpr ⟨rfl, rfl⟩
  rw [valueAt_eq_answer, Expr.answer_undeclared, hmeaning, sampled_points hs hmap]
  rfl

theorem valueAt_nodes (hgrid : context.defaultGrid = .ok grid) {p : Projection ℝ}
    (hread : archive.reading (Expr.situated (leafDescriptor element level) context) =
      .ok (p, .surface [a.surface context.projection grid])) {points : Array (Point ℝ)}
    (hpoints : ∀ p ∈ points, ∃ ix < grid.nx, ∃ iy < grid.ny, p = grid.node ix iy) :
    ((⟨context, .new archive .empty⟩ : Workbench ℝ).valueAt (leaf element level) points).1 =
      .ok (.samples ⟨points, points.map a.values⟩) := by
  have husable : (a.surface context.projection grid).Usable :=
    Spline.through_usable (fittable_values hgrid a) context.projection
  have hvalues : points.map (a.surface context.projection grid).valueAt = points.map a.values := by
    apply Array.map_congr_left
    intro p hp
    obtain ⟨ix, hix, iy, hiy, rfl⟩ := hpoints p hp
    exact valueAt_node hgrid hix hiy
  rw [valueAt_of_reading husable rfl hread, Samples.ofFn, hvalues]

/-- Stored surfaces read back. At nodes of the default grid a leaf has the values of the last of the
calls that are kept at the time of the context under its names, in any spelling, whatever the other
calls store. -/
theorem valueAt_addSurfaces (hgrid : context.defaultGrid = .ok grid)
    (hcalendar : ∀ b ∈ a :: after, context.time.StaysInCalendar (60 * b.minutes))
    (hlevel : a.level.toList.all Text.isBlank = false) (hkept : a.KeptAt context.time)
    (hlast : ∀ b ∈ after, b.KeptAt context.time → b.names ≠ a.names)
    (hnames : Metafile.key element level = a.names) {points : Array (Point ℝ)}
    (hpoints : ∀ p ∈ points, ∃ ix < grid.nx, ∃ iy < grid.ny, p = grid.node ix iy) :
    ∃ w, (ofContext context).addSurfaces (before ++ a :: after) = .ok w ∧
      (w.valueAt (leaf element level) points).1 = .ok (.samples ⟨points, points.map a.values⟩) := by
  obtain ⟨p, hread⟩ := reading_last grid before hcalendar hlevel hkept hlast hnames
  exact ⟨_, addSurfaces_eq hgrid, valueAt_nodes hgrid hread hpoints⟩

end Calls

namespace Sounding

noncomputable def points : Array (Point ℝ) := #[Coarse.spec.node 1 0, Coarse.spec.node 1 1]

theorem points_nodes :
    ∀ p ∈ points, ∃ ix < Coarse.spec.nx, ∃ iy < Coarse.spec.ny, p = Coarse.spec.node ix iy := by
  intro p hp
  have hp : p = Coarse.spec.node 1 0 ∨ p = Coarse.spec.node 1 1 := by simpa [points] using hp
  rcases hp with rfl | rfl
  · exact ⟨1, by decide, 0, by decide, rfl⟩
  · exact ⟨1, by decide, 1, by decide, rfl⟩

def slope : Addition ℝ := ⟨" TT ", "850mb", 0, Point.y⟩

def flat (level : String) (minutes : Int) (value : ℝ) : Addition ℝ :=
  ⟨"tt", level, minutes, fun _ => value⟩

theorem staysInCalendar_hour : Timestamp.epoch.StaysInCalendar (60 * 60) := by
  decide +kernel

def leapSecond : Timestamp := (Timestamp.ofString? "2016-12-31T23:59:60").getD .epoch

theorem leapSecond_ends : leapSecond.inLeapSecond = true ∧ leapSecond.second = 59 := by
  decide +kernel

theorem staysInCalendar_leapSecond : leapSecond.StaysInCalendar (60 * -1) := by
  decide +kernel

noncomputable def leapContext : Context ℝ := { Coarse.context with time := leapSecond }

theorem defaultGrid_leapContext : leapContext.defaultGrid = .ok Coarse.spec := Coarse.defaultGrid

end Sounding

theorem valueAt_addSurfaces_sounding :
    Coarse.context.defaultGrid = .ok Coarse.spec ∧ Sounding.slope.KeptAt Coarse.context.time ∧
      ∃ w, (ofContext Coarse.context).addSurfaces
          ([Sounding.flat "850mb" 0 1] ++
            Sounding.slope :: [Sounding.flat "850mb" 60 2, Sounding.flat "500mb" 0 3]) = .ok w ∧
        (w.valueAt (leaf "Tt" "850MB ") Sounding.points).1 =
          .ok (.samples ⟨Sounding.points, Sounding.points.map Sounding.slope.values⟩) := by
  have hkept : Sounding.slope.KeptAt Coarse.context.time := .inl rfl
  refine ⟨Coarse.defaultGrid, hkept, valueAt_addSurfaces Coarse.defaultGrid ?_ (by decide) hkept ?_
    (by decide) Sounding.points_nodes⟩
  · simp only [List.forall_mem_cons, List.not_mem_nil, false_imp_iff, implies_true, and_true]
    exact ⟨rfl, Sounding.staysInCalendar_hour, rfl⟩
  · simp only [List.forall_mem_cons, List.not_mem_nil, false_imp_iff, implies_true, and_true]
    refine ⟨?_, fun _ => by decide⟩
    rintro (hminutes | ⟨⟨hleap, _⟩, _⟩)
    · cases hminutes
    · cases hleap

/-- In a leap second, a surface that is stored one minute back is read in place of the one that is
stored for the time itself. -/
theorem valueAt_addSurfaces_leapSecond :
    Sounding.leapContext.defaultGrid = .ok Coarse.spec ∧
      ∃ w, (ofContext Sounding.leapContext).addSurfaces
          [Sounding.flat "850mb" 0 1, Sounding.flat "850mb" (-1) 2] = .ok w ∧
        (w.valueAt (leaf "tt" "850mb") Sounding.points).1 = .ok (.samples
          ⟨Sounding.points, Sounding.points.map (Sounding.flat "850mb" (-1) 2).values⟩) ∧
        (w.valueAt (leaf "tt" "850mb") Sounding.points).1 ≠ .ok (.samples
          ⟨Sounding.points, Sounding.points.map (Sounding.flat "850mb" 0 1).values⟩) := by
  have hkept : (Sounding.flat "850mb" (-1) 2).KeptAt Sounding.leapContext.time :=
    .inr ⟨Sounding.leapSecond_ends, rfl⟩
  have hcalendar : ∀ b ∈ [Sounding.flat "850mb" (-1) 2],
      Sounding.leapContext.time.StaysInCalendar (60 * b.minutes) := by
    rw [List.forall_mem_singleton]
    exact Sounding.staysInCalendar_leapSecond
  obtain ⟨p, hread⟩ := reading_last Coarse.spec [Sounding.flat "850mb" 0 1] hcalendar (by decide)
    hkept nofun rfl
  have hvalue := valueAt_nodes Sounding.defaultGrid_leapContext hread Sounding.points_nodes
  refine ⟨Sounding.defaultGrid_leapContext, _, addSurfaces_eq Sounding.defaultGrid_leapContext,
    hvalue, fun h => ?_⟩
  have hsamples := Value.samples.inj (Except.ok.inj (hvalue.symm.trans h))
  have hvalues := congrArg Array.toList (congrArg Samples.values hsamples)
  simp [Sounding.points, Sounding.flat] at hvalues

end Workbench

end Synoptic
