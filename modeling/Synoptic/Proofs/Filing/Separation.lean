import Synoptic.Binary64.Scalar
import Synoptic.Proofs.Filing.Path
import Synoptic.Proofs.Filing.Stamp
import Synoptic.Proofs.Keyed
import Synoptic.Proofs.Reading

/-!
Where descriptors are kept. Two of one directory are kept under one path if and only if their times
are in the same minutes, and where names are plain the directory tells the names.
-/

namespace Synoptic

variable {α : Type}

namespace Archive

theorem plain_stamp (t : Option Timestamp) : Path.Plain (stamp t).toList := by
  have hchars : ∀ c ∈ (stamp t).toList, c ≠ '/' ∧ c ≠ '.' := by
    cases t with
    | none =>
      intro c hc
      cases List.mem_singleton.mp hc
      decide
    | some t =>
      intro c hc
      rcases Timestamp.mem_compact hc with hdigit | rfl | rfl
      · constructor <;> rintro rfl <;> cases hdigit
      · decide
      · decide
  have hne : (stamp t).toList ≠ [] := by
    cases t with
    | none => nofun
    | some t =>
      intro h
      have hlength := t.two_le_length_compact
      rw [show t.compact.toList = [] from h] at hlength
      cases hlength
  exact ⟨fun h => (hchars _ h).1 rfl, hne, fun h => (hchars '.' (h ▸ List.mem_cons_self)).2 rfl⟩

/-- The subsource as it is written in a path, a hyphen for a missing one. -/
def shownSubsource (d : Descriptor α) : String :=
  Text.fold (if d.subsource.isEmpty then "-" else d.subsource)

def placeFor (d : Descriptor α) : Path :=
  (Path.ofString (Text.fold d.source)).join (.ofString (shownSubsource d))

theorem components_pathFor (d : Descriptor α) :
    (pathFor d).components = (placeFor d).components ++
      [.name (stamp d.runTime).toList, .name (stamp d.validTime).toList] := by
  change (((placeFor d).join (.ofString (stamp d.runTime))).join
    (.ofString (stamp d.validTime))).components = _
  rw [Path.ofString, Path.ofString, (plain_stamp d.validTime).components_join,
    (plain_stamp d.runTime).components_join, List.append_assoc]
  rfl

theorem pathFor_beq_iff (a b : Descriptor α) :
    (pathFor a == pathFor b) = true ↔ (placeFor a == placeFor b) = true ∧
      a.runTime.map (·.calendarMinute) = b.runTime.map (·.calendarMinute) ∧
      a.validTime.map (·.calendarMinute) = b.validTime.map (·.calendarMinute) := by
  rw [Path.beq_iff, Path.beq_iff, components_pathFor, components_pathFor, ← stamp_eq_iff,
    ← stamp_eq_iff]
  constructor
  · intro h
    obtain ⟨hplace, hstamps⟩ := List.append_inj' h rfl
    obtain ⟨hrun, hvalid⟩ := List.cons.inj hstamps
    have hrun := String.toList_injective (Path.Component.name.inj hrun)
    have hvalid := String.toList_injective (Path.Component.name.inj (List.cons.inj hvalid).1)
    exact ⟨hplace, hrun, hvalid⟩
  · rintro ⟨hplace, hrun, hvalid⟩
    rw [hplace, hrun, hvalid]

/-- The names of a descriptor are single components, or the subsource is blank, and the subsource is
not the hyphen that stands for a missing one. -/
structure PlainlyNamed (d : Descriptor α) : Prop where
  source : Path.Plain (Text.fold d.source).toList
  subsource : Text.fold d.subsource = "" ∨ Path.Plain (Text.fold d.subsource).toList
  ne_hyphen : Text.fold d.subsource ≠ "-"

theorem shownSubsource_cases (d : Descriptor α) :
    Text.fold d.subsource = "" ∧ shownSubsource d = "-" ∨
      shownSubsource d = Text.fold d.subsource := by
  rw [shownSubsource]
  split
  · rename_i h
    rw [String.isEmpty_iff.mp h]
    exact .inl ⟨rfl, rfl⟩
  · exact .inr rfl

namespace PlainlyNamed

variable {a b d : Descriptor α}

theorem shown (h : PlainlyNamed d) :
    (shownSubsource d).toList = [] ∨ Path.Plain (shownSubsource d).toList := by
  rcases shownSubsource_cases d with ⟨_, hhyphen⟩ | hfold
  · rw [hhyphen]
    exact .inr ⟨by decide, by decide, by decide⟩
  · rw [hfold]
    exact h.subsource.imp_left fun hblank => congrArg String.toList hblank

theorem components_placeFor (h : PlainlyNamed d) :
    (placeFor d).components =
      .name (Text.fold d.source).toList :: Path.names (shownSubsource d).toList := by
  rw [placeFor, Path.ofString, Path.ofString]
  rcases h.shown with hblank | hplain
  · rw [hblank, Path.components_join _ rfl (by decide), h.source.components_eq]
    rfl
  · rw [hplain.components_join, h.source.components_eq, hplain.names_eq]
    rfl

theorem names_eq_of_place (ha : PlainlyNamed a) (hb : PlainlyNamed b)
    (h : (placeFor a == placeFor b) = true) :
    Text.fold a.source = Text.fold b.source ∧ Text.fold a.subsource = Text.fold b.subsource := by
  rw [Path.beq_iff, ha.components_placeFor, hb.components_placeFor] at h
  obtain ⟨hsource, hnames⟩ := List.cons.inj h
  refine ⟨String.toList_injective (Path.Component.name.inj hsource), ?_⟩
  have hshown : shownSubsource a = shownSubsource b :=
    String.toList_injective (Path.names_injective ha.shown hb.shown hnames)
  rcases shownSubsource_cases a with ⟨hblank, hhyphen⟩ | hfold
  · rcases shownSubsource_cases b with ⟨hblank', _⟩ | hfold'
    · rw [hblank, hblank']
    · exact absurd (hfold'.symm.trans (hshown.symm.trans hhyphen)) hb.ne_hyphen
  · rcases shownSubsource_cases b with ⟨_, hhyphen'⟩ | hfold'
    · exact absurd (hfold.symm.trans (hshown.trans hhyphen')) ha.ne_hyphen
    · rw [← hfold, hshown, hfold']

end PlainlyNamed

structure PlainlyKept (d : Descriptor α) : Prop extends PlainlyNamed d where
  runTime : ∀ t ∈ d.runTime, t.OnMinute
  validTime : ∀ t ∈ d.validTime, t.OnMinute

theorem eq_of_calendarMinutes {t u : Option Timestamp} (ht : ∀ x ∈ t, x.OnMinute)
    (hu : ∀ x ∈ u, x.OnMinute) (h : t.map (·.calendarMinute) = u.map (·.calendarMinute)) :
    t = u := by
  cases t with
  | none =>
    cases u with
    | none => rfl
    | some u => cases h
  | some t =>
    cases u with
    | none => cases h
    | some u =>
      rw [(ht t rfl).eq_of_calendarMinute (hu u rfl) (Option.some.inj h)]

theorem find?_replaced (files : List (Path × Metafile α)) (p q : Path) (m : Metafile α) :
    (files.map fun e => if e.1 == p then (e.1, m) else e).find? (·.1 == q) =
      (files.find? (·.1 == q)).map fun e => if e.1 == p then (e.1, m) else e := by
  refine Keyed.find?_map files (· == q) fun e => ?_
  split <;> rfl

theorem file?_setFile (archive : Archive α) (p q : Path) (m : Metafile α) :
    (archive.setFile p m).file? q = if p == q then some m else archive.file? q := by
  rw [setFile]
  split
  · rename_i hany
    rw [file?, file?, find?_replaced]
    cases hfound : archive.files.find? (·.1 == q) with
    | none =>
      obtain ⟨e, he, hep⟩ := List.any_eq_true.mp hany
      have hpq : ¬ (p == q) = true := by
        intro hpq
        exact List.find?_eq_none.mp hfound e he (Path.beq_trans hep hpq)
      rw [if_neg hpq]
      rfl
    | some e =>
      have heq := List.find?_some hfound
      rw [Option.map_some, Option.map_some, Path.beq_of_beq heq]
      split <;> rfl
  · rename_i hany
    rw [file?, file?, List.find?_append, List.find?_singleton]
    by_cases hpq : (p == q) = true
    · have hnone : archive.files.find? (·.1 == q) = none := by
        rw [List.find?_eq_none]
        intro e he heq
        exact hany (List.any_eq_true.mpr ⟨e, he, (Path.beq_of_beq heq).trans hpq⟩)
      rw [hnone, if_pos hpq, if_pos hpq]
      rfl
    · rw [if_neg hpq, if_neg hpq, Option.or_none]

theorem readingAs_congr [Number α] {archive archive' : Archive α} {d : Descriptor α}
    (hfile : archive.file? (pathFor d) = archive'.file? (pathFor d))
    (hbroken : archive.broken = archive'.broken) (wish : Bool) :
    archive.readingAs wish d = archive'.readingAs wish d := by
  have hread : (archive.read? (pathFor d)).map (·.1) = (archive'.read? (pathFor d)).map (·.1) := by
    rw [read?, read?, hfile, hbroken]
    split
    · rfl
    · rw [Option.map_map, Option.map_map]
      rfl
  rw [readingAs, readingAs, locate?, locate?, hfile, hbroken]
  split
  · rfl
  · rename_i path hfound
    obtain rfl : pathFor d = path := by
      split at hfound
      · exact Option.some.inj hfound
      · cases hfound
    rw [hread]

theorem readingAs_insert [Number α] {a b : Descriptor α} (h : (pathFor a == pathFor b) = false)
    (archive : Archive α) (m : Metafile α) (wish : Bool) :
    (archive.insert a m).readingAs wish b = archive.readingAs wish b := by
  apply readingAs_congr
  · rw [insert, file?_setFile, h]
    rfl
  · rw [insert, setFile]
    split <;> rfl

/-- What keeps descriptors apart. Their paths are equal if and only if their places are and their
times are in the same minutes; equal places of plain names mean equal names; so where times are at
the start of a minute as well, equal paths mean equal names and times. A metafile that is kept under
another path is not read. -/
theorem pathFor_separates [Number α] (a b : Descriptor α) :
    ((pathFor a == pathFor b) = true ↔ (placeFor a == placeFor b) = true ∧
        a.runTime.map (·.calendarMinute) = b.runTime.map (·.calendarMinute) ∧
        a.validTime.map (·.calendarMinute) = b.validTime.map (·.calendarMinute)) ∧
      (PlainlyNamed a → PlainlyNamed b → (placeFor a == placeFor b) = true →
        Text.fold a.source = Text.fold b.source ∧
          Text.fold a.subsource = Text.fold b.subsource) ∧
      (PlainlyKept a → PlainlyKept b → (pathFor a == pathFor b) = true →
        Text.fold a.source = Text.fold b.source ∧ Text.fold a.subsource = Text.fold b.subsource ∧
          a.runTime = b.runTime ∧ a.validTime = b.validTime) ∧
      ∀ (archive : Archive α) (m : Metafile α) (wish : Bool), (pathFor a == pathFor b) = false →
        (archive.insert a m).readingAs wish b = archive.readingAs wish b := by
  refine ⟨pathFor_beq_iff a b, PlainlyNamed.names_eq_of_place, ?_,
    fun archive m wish h => readingAs_insert h archive m wish⟩
  intro ha hb h
  obtain ⟨hplace, hrun, hvalid⟩ := (pathFor_beq_iff a b).mp h
  obtain ⟨hsource, hsubsource⟩ := ha.names_eq_of_place hb.toPlainlyNamed hplace
  exact ⟨hsource, hsubsource, eq_of_calendarMinutes ha.runTime hb.runTime hrun,
    eq_of_calendarMinutes ha.validTime hb.validTime hvalid⟩

namespace Forecast

def descriptor (source subsource : String) (time : Timestamp) : Descriptor Float :=
  { source, subsource, element := "tt", level := "850mb", kind := .continuous,
    validTime := some time }

theorem plainlyKept {time : Timestamp} (h : time.OnMinute) :
    PlainlyKept (descriptor " GEM " "glb" time) where
  source := by
    change Path.Plain (Text.fold " GEM ").toList
    exact ⟨by decide, by decide, by decide⟩
  subsource := by
    change _ ∨ Path.Plain (Text.fold "glb").toList
    exact .inr ⟨by decide, by decide, by decide⟩
  ne_hyphen := by
    change Text.fold "glb" ≠ "-"
    decide
  runTime t ht := absurd ht (Option.not_mem_none t)
  validTime := by
    rintro t ⟨⟩
    exact h

def hourLater : Timestamp := Timestamp.epoch.shift 3600

def halfMinuteLater : Timestamp := Timestamp.epoch.shift 30

end Forecast

theorem pathFor_separates_forecast :
    PlainlyKept (Forecast.descriptor " GEM " "glb" .epoch) ∧
      PlainlyKept (Forecast.descriptor " GEM " "glb" Forecast.hourLater) ∧
      (pathFor (Forecast.descriptor " GEM " "glb" .epoch) ==
        pathFor (Forecast.descriptor " GEM " "glb" Forecast.hourLater)) = false ∧
      ∀ (m : Metafile Float) (wish : Bool),
        (Archive.empty.insert (Forecast.descriptor " GEM " "glb" .epoch) m).readingAs wish
            (Forecast.descriptor " GEM " "glb" Forecast.hourLater) =
          Archive.empty.readingAs wish (Forecast.descriptor " GEM " "glb" Forecast.hourLater) := by
  have hnow : PlainlyKept (Forecast.descriptor " GEM " "glb" .epoch) :=
    Forecast.plainlyKept ⟨by decide, by decide⟩
  have hlater : PlainlyKept (Forecast.descriptor " GEM " "glb" Forecast.hourLater) :=
    Forecast.plainlyKept ⟨by decide +kernel, by decide +kernel⟩
  obtain ⟨_, _, hseparate, hread⟩ := pathFor_separates (Forecast.descriptor " GEM " "glb" .epoch)
    (Forecast.descriptor " GEM " "glb" Forecast.hourLater)
  have hpaths : (pathFor (Forecast.descriptor " GEM " "glb" .epoch) ==
      pathFor (Forecast.descriptor " GEM " "glb" Forecast.hourLater)) = false := by
    rw [Bool.eq_false_iff]
    intro h
    obtain ⟨_, _, _, hvalid⟩ := hseparate hnow hlater h
    have htimes : Timestamp.epoch = Forecast.hourLater := Option.some.inj hvalid
    revert htimes
    decide +kernel
  exact ⟨hnow, hlater, hpaths, fun m wish => hread .empty m wish hpaths⟩

/-- Times within a minute, names with separators in them, and a hyphen for a subsource lead to one
path, and what is kept for the one is read for the other. -/
theorem pathFor_not_separates :
    (Forecast.descriptor "gem" "" .epoch).validTime ≠
        (Forecast.descriptor "gem" "" Forecast.halfMinuteLater).validTime ∧
      (pathFor (Forecast.descriptor "gem" "" .epoch) ==
        pathFor (Forecast.descriptor "gem" "" Forecast.halfMinuteLater)) = true ∧
      (∀ m : Metafile Float,
        (Archive.empty.insert (Forecast.descriptor "gem" "" .epoch) m).file?
          (pathFor (Forecast.descriptor "gem" "" Forecast.halfMinuteLater)) = some m) ∧
      (pathFor (Forecast.descriptor "gem/glb" "a" .epoch) ==
        pathFor (Forecast.descriptor "gem" "glb/a" .epoch)) = true ∧
      (pathFor (Forecast.descriptor "gem" "-" .epoch) ==
        pathFor (Forecast.descriptor "gem" "" .epoch)) = true := by
  have hpaths : (pathFor (Forecast.descriptor "gem" "" .epoch) ==
      pathFor (Forecast.descriptor "gem" "" Forecast.halfMinuteLater)) = true := by
    decide +kernel
  refine ⟨by decide +kernel, hpaths, fun m => ?_, by decide +kernel, by decide +kernel⟩
  rw [insert, file?_setFile, if_pos hpaths]

end Archive

end Synoptic
