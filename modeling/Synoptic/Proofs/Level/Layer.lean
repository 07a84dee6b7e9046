import Synoptic.Proofs.Decimal.Hyphen
import Synoptic.Proofs.Level.Pressure
import Synoptic.Proofs.Text.Padding

/-!
Layers between two pressures. The name of a layer is cut at its first hyphen, so it is read as the two
pressures in it unless the first one is itself written with a hyphen, before a negative exponent.
-/

namespace Synoptic.Level

open Text Decimal

def withoutUnit (body : List Char) : List Char :=
  (dropEnding? ['h', 'p', 'a'] body <|> dropEnding? ['m', 'b'] body).getD body

theorem numeral_eq (s : List Char) : numeral s = trim (withoutUnit (lowerAscii (trim s))) := rfl

theorem eq_of_dropEnding? {ending s d : List Char} (h : dropEnding? ending s = some d) :
    s = d ++ ending := by
  rw [dropEnding?] at h
  split at h
  case isFalse => cases h
  case isTrue hsuffix =>
    obtain ⟨t, rfl⟩ := List.isSuffixOf_iff_suffix.mp hsuffix
    rw [List.length_append, Nat.add_sub_cancel, List.take_left] at h
    cases h
    rfl

def units : List (List Char) := [[], ['h', 'p', 'a'], ['m', 'b']]

theorem withoutUnit_split (body : List Char) :
    ∃ unit ∈ units, body = withoutUnit body ++ unit := by
  rw [withoutUnit]
  cases hhpa : dropEnding? ['h', 'p', 'a'] body with
  | some d => exact ⟨_, .tail _ (.head _), eq_of_dropEnding? hhpa⟩
  | none =>
    cases hmb : dropEnding? ['m', 'b'] body with
    | some d => exact ⟨_, .tail _ (.tail _ (.head _)), eq_of_dropEnding? hmb⟩
    | none => exact ⟨[], .head _, by simp⟩

variable {s t u v : List Char}

theorem mem_trimEnd {c : Char} (hc : isBlank c = false) (h : c ∈ s) : c ∈ trimEnd s := by
  obtain ⟨x, y, rfl⟩ := List.mem_iff_append.mp h
  rw [trimEnd_split hc]
  simp

theorem lowerAscii_trim_split (u v : List Char) : lowerAscii (trim (u ++ '-' :: v)) =
    lowerAscii (trimStart u) ++ '-' :: lowerAscii (trimEnd v) := by
  rw [trim_split (by decide), lowerAscii, List.map_append]
  rfl

theorem numeral_split (u v : List Char) : ∃ w, ('-' ∈ v → '-' ∈ w) ∧
    numeral (u ++ '-' :: v) = lowerAscii (trimStart u) ++ '-' :: w := by
  obtain ⟨unit, hunit, hsplit⟩ := withoutUnit_split (lowerAscii (trim (u ++ '-' :: v)))
  have hnone : ∀ unit ∈ units, '-' ∉ unit := by decide
  have hunit := hnone unit hunit
  rw [numeral_eq]
  generalize withoutUnit (lowerAscii (trim (u ++ '-' :: v))) = digits at hsplit
  rw [lowerAscii_trim_split] at hsplit
  obtain ⟨rest, hdigits, hrest⟩ :
      ∃ rest, digits = lowerAscii (trimStart u) ++ '-' :: rest ∧
        lowerAscii (trimEnd v) = rest ++ unit := by
    rcases List.append_eq_append_iff.mp hsplit with ⟨after, hdigits, hafter⟩ | ⟨_, _, hafter⟩
    · cases after with
      | nil =>
        rw [List.nil_append] at hafter
        exact absurd (hafter ▸ List.mem_cons_self) hunit
      | cons c rest =>
        obtain ⟨rfl, hrest⟩ := List.cons.inj hafter
        exact ⟨rest, hdigits, hrest⟩
    · exact absurd (hafter ▸ by simp) hunit
  refine ⟨trimEnd rest, fun hv => mem_trimEnd (by decide) ?_, ?_⟩
  · have hmem : '-' ∈ lowerAscii (trimEnd v) :=
      List.mem_map.mpr ⟨'-', mem_trimEnd (by decide) hv, rfl⟩
    rw [hrest] at hmem
    exact (List.mem_append.mp hmem).resolve_right hunit
  · rw [hdigits, trim_split (by decide), trimStart_lowerAscii, trimStart, trimStart,
      List.dropWhile_idempotent]

theorem trimEnd_of_endsInMark (h : EndsInMark s) : trimEnd s = s := by
  obtain ⟨mark, hlast, hmark⟩ := h
  obtain ⟨front, rfl⟩ := List.getLast?_eq_some_iff.mp hlast
  have hblank : isBlank mark = false := by rcases hmark with rfl | rfl <;> decide
  exact trimEnd_split hblank

theorem withoutUnit_of_endsInMark (h : EndsInMark s) : withoutUnit s = s := by
  obtain ⟨mark, hlast, hmark⟩ := h
  obtain ⟨unit, hunit, hsplit⟩ := withoutUnit_split s
  have hend : ∀ unit ∈ units, unit = [] ∨ unit.getLast? = some 'a' ∨ unit.getLast? = some 'b' := by
    decide
  rw [hsplit, List.getLast?_append] at hlast
  rcases hend unit hunit with rfl | hend | hend
  · exact (hsplit.trans (List.append_nil _)).symm
  · rw [hend] at hlast
    cases hlast
    rcases hmark with hmark | hmark <;> exact absurd hmark (by decide)
  · rw [hend] at hlast
    cases hlast
    rcases hmark with hmark | hmark <;> exact absurd hmark (by decide)

theorem numeral_of_endsInMark (h : EndsInMark (lowerAscii (trimStart s))) :
    numeral s = lowerAscii (trimStart s) := by
  have hbody : lowerAscii (trim s) = lowerAscii (trimStart s) := by
    rw [trim, ← trimEnd_lowerAscii, trimEnd_of_endsInMark h]
  rw [numeral_eq, hbody, withoutUnit_of_endsInMark h, trim, trimStart_lowerAscii, trimStart, trimStart,
    List.dropWhile_idempotent]
  exact trimEnd_of_endsInMark h

theorem readPressure_congr {α : Type} [Number α] (h : lowerAscii (trim s) = lowerAscii (trim t)) :
    readPressure (α := α) s = readPressure t := by
  rw [readPressure, readPressure, h]

theorem readPressure_trimStart {α : Type} [Number α] (s : List Char) :
    readPressure (α := α) (lowerAscii (trimStart s)) = readPressure s :=
  readPressure_congr (by rw [trim_lowerAscii, lowerAscii_lowerAscii, trim_trimStart])

theorem readPressure_trimEnd {α : Type} [Number α] (s : List Char) :
    readPressure (α := α) (lowerAscii (trimEnd s)) = readPressure s :=
  readPressure_congr (by rw [trim_lowerAscii, lowerAscii_lowerAscii, trim_trimEnd])

theorem readPressure_trim {α : Type} [Number α] (s : List Char) :
    readPressure (α := α) (lowerAscii (trim s)) = readPressure s :=
  readPressure_congr (by rw [trim_lowerAscii, lowerAscii_lowerAscii, (trimmed_trim s).trim_eq])

theorem numeral_of_readPressure {pa : Float} (h : readPressure s = some pa) :
    ∃ p : Float, Decimal.ofChars? (numeral s) = some p ∧ 0 < p := by
  obtain ⟨p, hp, -⟩ := readPressure_eq_some.mp h
  exact ⟨p, (Option.filter_eq_some_iff.mp hp).1, pos_of_hectopascals? hp⟩

theorem readPressure_of_endsInMark (h : EndsInMark (lowerAscii (trimStart s))) :
    readPressure s = (none : Option Float) := by
  by_contra hne
  obtain ⟨pa, hpa⟩ := Option.ne_none_iff_exists'.mp hne
  obtain ⟨p, hp, -⟩ := numeral_of_readPressure hpa
  obtain ⟨lit, hlit, -⟩ := Option.map_eq_some_iff.mp hp
  rw [numeral_of_endsInMark h] at hlit
  exact Literal.not_endsInMark hlit h

theorem notMem_hyphen_front (h : '-' ∉ u) : '-' ∉ lowerAscii (trimStart u) := by
  have hkeep : ∀ c : Char, c.toLower = '-' → c = '-' :=
    forall_of_letters (by decide) fun c hc h => hc.symm.trans h
  intro hmem
  obtain ⟨c, hc, hhyphen⟩ := List.mem_map.mp hmem
  exact h (hkeep c hhyphen ▸ (List.dropWhile_suffix isBlank).subset hc)

theorem hyphen_of_readPressure {pa : Float} (h : readPressure (u ++ '-' :: v) = some pa)
    (hu : '-' ∉ u) : EndsInMark (lowerAscii (trimStart u)) ∧ '-' ∉ v := by
  obtain ⟨p, hp, hpos⟩ := numeral_of_readPressure h
  obtain ⟨w, hw, hnumeral⟩ := numeral_split u v
  rw [hnumeral] at hp
  have hfront : lowerAscii (trimStart u) ≠ [] := by
    intro hnil
    rw [hnil] at hp
    exact not_pos_hyphen hp hpos
  obtain ⟨lit, hlit, -⟩ := Option.map_eq_some_iff.mp hp
  obtain ⟨hmark, hafter⟩ := Literal.hyphen hlit hfront (notMem_hyphen_front hu)
  exact ⟨hmark, fun hv => hafter (hw hv)⟩

theorem splitHyphen?_append (hu : '-' ∉ u) : splitHyphen? (u ++ '-' :: v) = some (u, v) := by
  have hall : ∀ c ∈ u, decide (c ≠ '-') = true := fun c hc =>
    decide_eq_true fun heq => hu (heq ▸ hc)
  rw [splitHyphen?, List.dropWhile_append_of_pos hall, List.takeWhile_append_of_pos hall]
  simp

def readSides {α : Type} [Number α] (u v : List Char) : LevelKind α :=
  match readPressure u, readPressure v with
  | some pu, some pv => .layer (Number.minimum pu pv) (Number.maximum pu pv)
  | _, _ => .other

theorem readKind_split {α : Type} [Number α] (hu : '-' ∉ u)
    (hnone : readPressure (α := α) (u ++ '-' :: v) = none) :
    readKind (α := α) (lowerAscii (trim (u ++ '-' :: v))) = readSides u v := by
  rw [← readPressure_trim] at hnone
  rw [lowerAscii_trim_split] at hnone ⊢
  generalize hbody : lowerAscii (trimStart u) ++ '-' :: lowerAscii (trimEnd v) = body at hnone
  have hname : ∀ name ∈ ["surface", "sfc", "msl"], String.ofList body ≠ name := by
    have hnames : ∀ name ∈ ["surface", "sfc", "msl"], '-' ∉ name.toList := by decide
    rintro name hmem rfl
    refine hnames _ hmem ?_
    rw [String.toList_ofList, ← hbody]
    simp
  simp only [List.forall_mem_cons] at hname
  have hsides : readKind (α := α) body =
      readSides (lowerAscii (trimStart u)) (lowerAscii (trimEnd v)) := by
    rw [readKind, if_neg (not_or.mpr ⟨hname.1, hname.2.1⟩), if_neg hname.2.2.1, hnone, ← hbody,
      splitHyphen?_append (notMem_hyphen_front hu)]
    rfl
  rw [hsides, readSides, readSides, readPressure_trimStart, readPressure_trimEnd]

section

variable {a b : List Char} {pa pb : Float}

theorem readKind_layer (ha : readPressure a = some pa) (hb : readPressure b = some pb)
    (hhyphen : '-' ∉ a) : readKind (lowerAscii (trim (a ++ '-' :: b))) =
      .layer (Number.minimum pa pb) (Number.maximum pa pb) := by
  have hnone : readPressure (a ++ '-' :: b) = (none : Option Float) := by
    by_contra hne
    obtain ⟨p, hp⟩ := Option.ne_none_iff_exists'.mp hne
    obtain ⟨hmark, -⟩ := hyphen_of_readPressure hp hhyphen
    cases (readPressure_of_endsInMark hmark).symm.trans ha
  rw [readKind_split hhyphen hnone, readSides, ha, hb]

theorem readKind_other (ha : readPressure a = some pa) (hhyphen : '-' ∈ a) :
    readKind (α := Float) (lowerAscii (trim (a ++ '-' :: b))) = .other := by
  obtain ⟨u, v, rfl, hu⟩ := List.eq_append_cons_of_mem hhyphen
  have hnone : readPressure (u ++ '-' :: (v ++ '-' :: b)) = (none : Option Float) := by
    by_contra hne
    obtain ⟨p, hp⟩ := Option.ne_none_iff_exists'.mp hne
    obtain ⟨-, hrest⟩ := hyphen_of_readPressure hp hu
    exact hrest (by simp)
  obtain ⟨hmark, -⟩ := hyphen_of_readPressure ha hu
  rw [List.append_assoc, List.cons_append, readKind_split hu hnone, readSides,
    readPressure_of_endsInMark hmark]

end

theorem readPressure_of_read {α : Type} [Number α] {name : String} {pa : α}
    (h : (read name : Level α).kind = .pressure pa) : readPressure name.toList = some pa := by
  rw [kind_read] at h
  have hreads := reads_readKind (α := α) (lowerAscii (trim name.toList))
  rw [h] at hreads
  cases hreads with
  | pressure hread => rwa [readPressure_trim] at hread

theorem pos_of_readPressure {pa : Float} (h : readPressure s = some pa) : 0 < pa := by
  obtain ⟨p, hp, rfl⟩ := readPressure_eq_some.mp h
  exact Binary64.mul_hundred_pos (pos_of_hectopascals? hp)

/-- A layer from one pressure down to another, as the operators see it in any context. -/
structure Spans {α : Type} [Number α] (level : Level α) (lo hi : α) : Prop where
  kind : level.kind = .layer lo hi
  upper : ∀ ctx, Catalogue.call? "uprprs" [] (Context.withLevel ctx level) = some (.ok (.scalar lo))
  lower : ∀ ctx, Catalogue.call? "lwrprs" [] (Context.withLevel ctx level) = some (.ok (.scalar hi))

theorem spans_of_kind {α : Type} [Number α] {level : Level α} {lo hi : α}
    (h : level.kind = .layer lo hi) : level.Spans lo hi := by
  obtain ⟨name, kind⟩ := level
  cases h
  exact ⟨rfl, fun _ => Catalogue.call?_pressure .upper _, fun _ => Catalogue.call?_pressure .lower _⟩

theorem extremes_of_le {x y : Float} (hx : 0 < x) (hy : 0 < y) (h : x ≤ y) :
    (Number.minimum x y = x ∧ Number.maximum x y = y) ∧
      (Number.minimum y x = x ∧ Number.maximum y x = y) := by
  refine ⟨⟨?_, if_pos h⟩, if_pos h, ?_⟩
  · rw [Number.minimum]
    split
    case isTrue hle => exact (Binary64.eq_of_le_of_le hx h hle).symm
    case isFalse => exact if_pos (Binary64.beq_self_of_pos hx)
  · rw [Number.maximum]
    split
    case isTrue hle => exact Binary64.eq_of_le_of_le hx h hle
    case isFalse => exact if_pos (Binary64.beq_self_of_pos hy)

theorem exists_extremes {x y : Float} (hx : 0 < x) (hy : 0 < y) :
    ∃ lo hi : Float, lo ≤ hi ∧ (lo = x ∧ hi = y ∨ lo = y ∧ hi = x) ∧
      (Number.minimum x y = lo ∧ Number.maximum x y = hi) ∧
      (Number.minimum y x = lo ∧ Number.maximum y x = hi) := by
  rcases Binary64.le_total_of_pos hx hy with hle | hle
  · exact ⟨x, y, hle, .inl ⟨rfl, rfl⟩, extremes_of_le hx hy hle⟩
  · obtain ⟨hyx, hxy⟩ := extremes_of_le hy hx hle
    exact ⟨y, x, hle, .inr ⟨rfl, rfl⟩, hxy, hyx⟩

theorem kind_of_alike {α : Type} [Number α] {a b name : String}
    (h : Alike name.toList (a ++ "-" ++ b).toList) :
    (read name : Level α).kind = readKind (lowerAscii (trim (a.toList ++ '-' :: b.toList))) := by
  have hyphen : "-".toList = ['-'] := rfl
  have hbody := h.lowerAscii_trim_eq
  rw [String.toList_append, String.toList_append, List.append_assoc, hyphen,
    List.singleton_append] at hbody
  rw [kind_read, hbody]

theorem read_alike {a b name : String} {pa pb : Float} (ha : readPressure a.toList = some pa)
    (hb : readPressure b.toList = some pb) (h : Alike name.toList (a ++ "-" ++ b).toList) :
    if '-' ∈ a.toList then (read name : Level Float).kind = .other
    else (read name).Spans (Number.minimum pa pb) (Number.maximum pa pb) := by
  split
  case isTrue hhyphen => rw [kind_of_alike h, readKind_other ha hhyphen]
  case isFalse hhyphen =>
    exact spans_of_kind ((kind_of_alike h).trans (readKind_layer ha hb hhyphen))

/-- Names of two pressures with a hyphen between them are read alike in either order, as the layer from
the smaller to the larger pressure, unless the name that comes first has a hyphen itself. -/
theorem read_between {a b : String} {pa pb : Float} (ha : (read a).kind = .pressure pa)
    (hb : (read b).kind = .pressure pb) :
    ∃ lo hi : Float, lo ≤ hi ∧ (lo = pa ∧ hi = pb ∨ lo = pb ∧ hi = pa) ∧
      (∀ name : String, Alike name.toList (a ++ "-" ++ b).toList →
        if '-' ∈ a.toList then (read name : Level Float).kind = .other
        else (read name).Spans lo hi) ∧
      (∀ name : String, Alike name.toList (b ++ "-" ++ a).toList →
        if '-' ∈ b.toList then (read name : Level Float).kind = .other
        else (read name).Spans lo hi) := by
  have ha := readPressure_of_read ha
  have hb := readPressure_of_read hb
  obtain ⟨lo, hi, hle, hends, ⟨hmin, hmax⟩, hmin', hmax'⟩ :=
    exists_extremes (pos_of_readPressure ha) (pos_of_readPressure hb)
  refine ⟨lo, hi, hle, hends, fun name h => ?_, fun name h => ?_⟩
  · have hread := read_alike ha hb h
    rwa [hmin, hmax] at hread
  · have hread := read_alike hb ha h
    rwa [hmin', hmax'] at hread

theorem read_between_exponent :
    (read "500" : Level Float).kind = .pressure 50000 ∧
      (read "1e-1hPa" : Level Float).kind = .pressure 10 ∧
      (read " 500-1E-1HPA" : Level Float).Spans 10 50000 := by
  have ha : (read "500" : Level Float).kind = .pressure 50000 := by decide +kernel
  have hb : (read "1e-1hPa" : Level Float).kind = .pressure 10 := by decide +kernel
  have halike : Alike " 500-1E-1HPA".toList ("500" ++ "-" ++ "1e-1hPa").toList :=
    ⟨"500-1E-1HPA".toList, "500-1e-1hPa".toList, ⟨[' '], [], rfl, rfl, by decide⟩,
      ⟨[], [], rfl, rfl, by decide⟩, by decide⟩
  obtain ⟨lo, hi, hle, hends, hname, -⟩ := read_between ha hb
  have hspans := hname _ halike
  rw [if_neg (by decide)] at hspans
  refine ⟨ha, hb, ?_⟩
  rcases hends with ⟨rfl, rfl⟩ | ⟨rfl, rfl⟩
  · exact absurd hle (by decide +kernel)
  · exact hspans

/-- In the pressure that comes first it is taken for the hyphen of the layer. -/
theorem read_between_ne :
    (read "1e-1" : Level Float).kind = .pressure 10 ∧
      (read "500" : Level Float).kind = .pressure 50000 ∧
      (read "1e-1-500" : Level Float).kind = .other ∧
      (read "500-1e-1" : Level Float).kind = .layer 10 50000 := by
  refine ⟨?_, ?_, ?_, ?_⟩ <;> decide +kernel

end Synoptic.Level
