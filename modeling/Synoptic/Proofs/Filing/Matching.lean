import Synoptic.Proofs.Cache.Search
import Synoptic.Proofs.Filing.Separation

namespace Synoptic

variable {α : Type} {a b : Descriptor α}

theorem Descriptor.Matches.take?_eq (h : a.Matches b) (m : Metafile α) (category : Category) :
    m.take? category a.kind a.element a.level = m.take? category b.kind b.element b.level := by
  obtain ⟨_, _, _, _, helement, hlevel, hkind⟩ := h
  have hkey : Metafile.key a.element a.level = Metafile.key b.element b.level :=
    Prod.ext helement hlevel
  rw [Metafile.take?, Metafile.take?, hkey, show a.kind = b.kind from hkind]

namespace Archive

theorem shownSubsource_missing (h : a.subsource = "") : shownSubsource a = "-" := by
  rw [shownSubsource, h]
  decide

theorem shownSubsource_present (h : a.subsource ≠ "") :
    shownSubsource a = Text.fold a.subsource := by
  rw [shownSubsource, if_neg (by simpa using h)]

theorem shownSubsource_eq (h : a.Matches b) (hmissing : a.subsource = "" ↔ b.subsource = "") :
    shownSubsource a = shownSubsource b := by
  by_cases ha : a.subsource = ""
  · rw [shownSubsource_missing ha, shownSubsource_missing (hmissing.mp ha)]
  · rw [shownSubsource_present ha, shownSubsource_present fun hb => ha (hmissing.mpr hb)]
    exact h.2.1

theorem pathFor_eq (h : a.Matches b) (hmissing : a.subsource = "" ↔ b.subsource = "") :
    pathFor a = pathFor b := by
  change ((placeFor a).join _).join _ = ((placeFor b).join _).join _
  obtain ⟨hsource, _, hrun, hvalid, _⟩ := id h
  have hplace : placeFor a = placeFor b := by
    rw [placeFor, placeFor, shownSubsource_eq h hmissing,
      show Text.fold a.source = Text.fold b.source from hsource]
  rw [hplace, show a.runTime = b.runTime from hrun, show a.validTime = b.validTime from hvalid]

theorem placeFor_ne (hsource : Text.fold a.source = Text.fold b.source) (ha : a.subsource = "")
    (hb : b.subsource ≠ "") (hblank : Text.fold b.subsource = "") :
    (placeFor a == placeFor b) = false := by
  rw [Bool.eq_false_iff]
  intro hplace
  rw [Path.beq_iff, placeFor, placeFor, shownSubsource_missing ha, shownSubsource_present hb, hblank,
    hsource, Path.components_join _ rfl (by decide), Path.components_join _ rfl (by decide)] at hplace
  exact absurd (List.append_cancel_left hplace) (by decide)

theorem pathFor_beq_false (h : a.Matches b) (ha : a.subsource = "") (hb : b.subsource ≠ "") :
    (pathFor a == pathFor b) = false := by
  rw [Bool.eq_false_iff]
  intro hpath
  have hblank : Text.fold b.subsource = "" := by
    rw [← show Text.fold a.subsource = Text.fold b.subsource from h.2.1, ha]
    decide
  have hplace := ((pathFor_beq_iff a b).mp hpath).1
  rw [placeFor_ne h.1 ha hb hblank] at hplace
  cases hplace

theorem pathFor_beq_iff_missing (h : a.Matches b) :
    (pathFor a == pathFor b) = true ↔ (a.subsource = "" ↔ b.subsource = "") := by
  constructor
  · intro hpath
    have hpath' : (pathFor b == pathFor a) = true := Path.beq_iff.mpr (Path.beq_iff.mp hpath).symm
    constructor
    · intro ha
      exact Decidable.byContradiction fun hb =>
        Bool.eq_false_iff.mp (pathFor_beq_false h ha hb) hpath
    · intro hb
      exact Decidable.byContradiction fun ha =>
        Bool.eq_false_iff.mp (pathFor_beq_false (Descriptor.SameField.symm h) hb ha) hpath'
  · intro hmissing
    exact Path.beq_iff.mpr (congrArg Path.components (pathFor_eq h hmissing))

theorem readingAs_ok_of_matches [Number α] (h : a.Matches b)
    (hmissing : a.subsource = "" ↔ b.subsource = "") {archive : Archive α} {wish : Bool}
    {r : Projection α × Field α} (hr : archive.readingAs wish a = .ok r) :
    archive.readingAs wish b = .ok r := by
  have hkind : a.kind = b.kind := h.2.2.2.2.2.2
  rw [readingAs, locate?, pathFor_eq h hmissing] at hr
  rw [readingAs, locate?]
  split at hr
  · cases hr
  split at hr
  · cases hr
  rename_i file _
  rw [← h.take?_eq file, ← hkind]
  split at hr
  · exact hr
  · cases hr

/-- Descriptors that match share a metafile unless the subsource of one is missing and that of the
other is blank. The same fields are taken for both from every metafile; where they share one it is
located for both alike and read alike, and where they do not, what is kept for the one changes nothing
for the other. -/
theorem pathFor_of_matches [Number α] (a b : Descriptor α) (h : a.Matches b) :
    ((pathFor a == pathFor b) = true ↔ (a.subsource = "" ↔ b.subsource = "")) ∧
      (∀ (m : Metafile α) (category : Category),
        m.take? category a.kind a.element a.level = m.take? category b.kind b.element b.level) ∧
      ((a.subsource = "" ↔ b.subsource = "") → ∀ archive : Archive α,
        archive.locate? a = archive.locate? b ∧
          ∀ wish r, archive.readingAs wish a = .ok r ↔ archive.readingAs wish b = .ok r) ∧
      (¬ (a.subsource = "" ↔ b.subsource = "") →
        ∀ (archive : Archive α) (m : Metafile α) (wish : Bool),
          (archive.insert a m).readingAs wish b = archive.readingAs wish b) := by
  refine ⟨pathFor_beq_iff_missing h, h.take?_eq, fun hmissing archive => ⟨?_, fun wish r => ?_⟩, ?_⟩
  · rw [locate?, locate?, pathFor_eq h hmissing]
  · exact ⟨readingAs_ok_of_matches h hmissing,
      readingAs_ok_of_matches (Descriptor.SameField.symm h) hmissing.symm⟩
  · intro hmissing archive m wish
    have hpaths := mt (pathFor_beq_iff_missing h).mp hmissing
    exact readingAs_insert (Bool.eq_false_iff.mpr hpaths) archive m wish

namespace Model

def descriptor (source subsource : String) : Descriptor Float :=
  { source, subsource, element := "tt", level := "850mb", kind := .continuous }

end Model

theorem pathFor_of_matches_capitals :
    (Model.descriptor " GEM" "GLB ").Matches (Model.descriptor "gem" "glb") ∧
      (pathFor (Model.descriptor " GEM" "GLB ") == pathFor (Model.descriptor "gem" "glb")) = true ∧
      ∀ archive : Archive Float, archive.locate? (Model.descriptor " GEM" "GLB ") =
        archive.locate? (Model.descriptor "gem" "glb") := by
  have hmatches : (Model.descriptor " GEM" "GLB ").Matches (Model.descriptor "gem" "glb") := by
    decide
  have hmissing : (Model.descriptor " GEM" "GLB ").subsource = "" ↔
      (Model.descriptor "gem" "glb").subsource = "" := by decide
  obtain ⟨hpaths, _, hshared, _⟩ := pathFor_of_matches _ _ hmatches
  exact ⟨hmatches, hpaths.mpr hmissing, fun archive => (hshared hmissing archive).1⟩

/-- A blank subsource matches a missing one, and what is kept for it is not located. -/
theorem pathFor_ne_of_matches :
    (Model.descriptor "gem" "").Matches (Model.descriptor "gem" " ") ∧
      (pathFor (Model.descriptor "gem" "") == pathFor (Model.descriptor "gem" " ")) = false ∧
      ∀ m : Metafile Float,
        (empty.insert (Model.descriptor "gem" "") m).locate? (Model.descriptor "gem" " ") = none := by
  have hpaths : (pathFor (Model.descriptor "gem" "") == pathFor (Model.descriptor "gem" " ")) =
      false := by decide
  refine ⟨by decide, hpaths, fun m => ?_⟩
  have hfile : (empty.insert (Model.descriptor "gem" "") m).file?
      (pathFor (Model.descriptor "gem" " ")) = none := by
    rw [insert, file?_setFile, hpaths]
    rfl
  rw [locate?, hfile]
  rfl

end Archive

end Synoptic
