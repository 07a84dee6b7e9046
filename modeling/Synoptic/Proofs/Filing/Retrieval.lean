import Synoptic.Proofs.Filing.Separation

namespace Synoptic

variable {α : Type}

namespace Metafile

variable {m : Metafile α} {element level : String} {kind : FieldKind} {field : Field α}

theorem projection_insert :
    (m.insert element level kind field).projection = m.projection := by
  rw [insert]
  split <;> rfl

theorem fields_insert :
    (m.insert element level kind field).fields =
      Keyed.set m.fields (key element level) (kind, field) := by
  rw [insert, Keyed.set]
  split <;> rfl

theorem find?_insert (k : String × String) :
    (m.insert element level kind field).fields.find? (·.1 == k) =
      if key element level == k then some (key element level, kind, field)
      else m.fields.find? (·.1 == k) := by
  rw [fields_insert, Keyed.find?_set m.fields (key element level) (kind, field) (· == k)]
  cases hfound : m.fields.find? (·.1 == k) with
  | none => rw [Option.map_none, Option.none_or]
  | some e =>
    obtain rfl : e.1 = k := by simpa using List.find?_some hfound
    rw [Option.map_some, Option.some_or, BEq.comm]
    split <;> rfl

theorem take?_insert_self {category : Category} {element' level' : String}
    (hkey : key element level = key element' level') (hcategory : field.category = category) :
    (m.insert element level kind field).take? category kind element' level' = some field := by
  rw [take?, find?_insert, if_pos (beq_iff_eq.mpr hkey)]
  exact if_pos ⟨rfl, hcategory⟩

theorem take?_insert_of_ne {category : Category} {kind' : FieldKind} {element' level' : String}
    (hkey : key element level ≠ key element' level') :
    (m.insert element level kind field).take? category kind' element' level' =
      m.take? category kind' element' level' := by
  rw [take?, take?, find?_insert, if_neg (by simpa using hkey)]

end Metafile

namespace Archive

variable {archive : Archive α} {like d : Descriptor α} {projection : Projection α}
  {element level : String} {kind : FieldKind} {field : Field α}

theorem broken_setFile (path : Path) (m : Metafile α) :
    (archive.setFile path m).broken = archive.broken := by
  rw [setFile]
  split <;> rfl

theorem broken_put : (archive.put like projection element level kind field).broken =
    archive.broken := broken_setFile ..

theorem file?_put (path : Path) :
    (archive.put like projection element level kind field).file? path =
      if pathFor like == path then
        some ((archive.fileFor like projection).insert element level kind field)
      else archive.file? path := file?_setFile ..

theorem fileFor_eq {m : Metafile α} (hpath : (pathFor like == pathFor d) = true)
    (hfile : archive.file? (pathFor d) = some m) : archive.fileFor like projection = m := by
  have hcomponents : (fun e : Path × Metafile α => e.1 == pathFor like) =
      fun e => e.1 == pathFor d := by
    funext e
    rw [Bool.eq_iff_iff, Path.beq_iff, Path.beq_iff, Path.beq_iff.mp hpath]
  rw [fileFor, file?, hcomponents]
  rw [file?] at hfile
  rw [hfile]
  rfl

variable [Number α]

theorem reading_eq_ok_iff {p : Projection α} :
    archive.reading d = .ok (p, field) ↔
      archive.broken.any (· == pathFor d) = false ∧ ∃ m, archive.file? (pathFor d) = some m ∧
        m.take? (Database.categoryFor false d.kind) d.kind d.element d.level = some field ∧
        field.stamp m.projection = p := by
  rw [reading, readingAs, locate?]
  cases hbroken : archive.broken.any (· == pathFor d) with
  | true => simp [read?, hbroken]
  | false =>
    cases hfile : archive.file? (pathFor d) with
    | none => simp
    | some m =>
      cases htake : m.take? (Database.categoryFor false d.kind) d.kind d.element d.level with
      | none => simp [read?, hbroken, hfile, htake]
      | some found =>
        simp only [read?, hbroken, hfile, Option.isSome_some, Bool.or_true, if_true,
          Bool.false_eq_true, if_false, Option.map_some, htake, Except.ok.injEq, Prod.mk.injEq,
          Option.some.injEq, exists_eq_left', true_and]
        constructor
        · rintro ⟨hstamp, rfl⟩
          exact ⟨rfl, hstamp⟩
        · rintro ⟨rfl, hstamp⟩
          exact ⟨hstamp, rfl⟩

/-- A field is read back under every spelling of its names and at every time of its minutes. -/
theorem reading_put_self (hbroken : archive.broken.any (· == pathFor d) = false)
    (hpath : (pathFor like == pathFor d) = true)
    (hkey : Metafile.key element level = Metafile.key d.element d.level)
    (hcategory : field.category = Database.categoryFor false d.kind) :
    (archive.put like projection element level d.kind field).reading d =
      .ok (field.stamp (archive.fileFor like projection).projection, field) := by
  rw [reading_eq_ok_iff, broken_put, file?_put, if_pos hpath]
  exact ⟨hbroken, _, rfl, Metafile.take?_insert_self hkey hcategory,
    congrArg field.stamp Metafile.projection_insert⟩

theorem reading_put_of_ne {r : Projection α × Field α}
    (hne : (pathFor like == pathFor d) = true →
      Metafile.key element level ≠ Metafile.key d.element d.level)
    (h : archive.reading d = .ok r) :
    (archive.put like projection element level kind field).reading d = .ok r := by
  by_cases hpath : (pathFor like == pathFor d) = true
  · obtain ⟨p, found⟩ := r
    obtain ⟨hbroken, m, hfile, htake, hstamp⟩ := reading_eq_ok_iff.mp h
    rw [reading_eq_ok_iff, broken_put, file?_put, if_pos hpath, fileFor_eq hpath hfile]
    refine ⟨hbroken, _, rfl, ?_, ?_⟩
    · rw [Metafile.take?_insert_of_ne (hne hpath), htake]
    · rw [Metafile.projection_insert, hstamp]
  · rw [← h]
    exact readingAs_insert (Bool.eq_false_iff.mpr hpath) archive _ false

end Archive

end Synoptic
