import Synoptic.Path

namespace Synoptic.Path

theorem beq_iff {p q : Path} : (p == q) = true ↔ p.components = q.components :=
  beq_iff_eq (a := p.components)

theorem beq_trans {p q r : Path} (h : (p == q) = true) (h' : (q == r) = true) :
    (p == r) = true := beq_iff.mpr ((beq_iff.mp h).trans (beq_iff.mp h'))

theorem beq_of_beq {p q r : Path} (h : (r == q) = true) : (r == p) = (p == q) := by
  rw [Bool.eq_iff_iff, beq_iff, beq_iff, beq_iff.mp h]
  exact eq_comm

theorem pieces_ne_nil (s : List Char) : pieces s ≠ [] := by
  cases s with
  | nil => nofun
  | cons c s =>
    rw [pieces, List.foldr_cons]
    split
    · nofun
    · split <;> nofun

theorem pieces_slash (s : List Char) : pieces ('/' :: s) = [] :: pieces s := rfl

theorem pieces_cons {c : Char} (hc : c ≠ '/') {s piece : List Char} {rest : List (List Char)}
    (h : pieces s = piece :: rest) : pieces (c :: s) = (c :: piece) :: rest := by
  rw [pieces] at h ⊢
  rw [List.foldr_cons, h, if_neg hc]

theorem pieces_append (s t : List Char) : pieces (s ++ '/' :: t) = pieces s ++ pieces t := by
  induction s with
  | nil => rfl
  | cons c s ih =>
    by_cases hc : c = '/'
    · rw [hc, List.cons_append, pieces_slash, pieces_slash, ih, List.cons_append]
    · obtain ⟨piece, rest, hs⟩ := List.exists_cons_of_ne_nil (pieces_ne_nil s)
      rw [hs, List.cons_append] at ih
      rw [List.cons_append, pieces_cons hc hs, pieces_cons hc ih, List.cons_append]

theorem pieces_of_notMem {s : List Char} (h : '/' ∉ s) : pieces s = [s] := by
  induction s with
  | nil => rfl
  | cons c s ih =>
    obtain ⟨hc, hs⟩ := List.ne_and_not_mem_of_not_mem_cons h
    exact pieces_cons hc.symm (ih hs)

def names (s : List Char) : List Component :=
  ((pieces s).filter fun x => x ≠ [] ∧ x ≠ ['.']).map Component.name

theorem components_eq (p : Path) :
    p.components = if p.isAbsolute then .root :: names p.chars
      else if (pieces p.chars).head? = some ['.'] then .here :: names p.chars
      else names p.chars := rfl

theorem names_append (s t : List Char) : names (s ++ '/' :: t) = names s ++ names t := by
  rw [names, pieces_append, List.filter_append, List.map_append]
  rfl

/-- A name that is one component wherever it stands. -/
structure Plain (s : List Char) : Prop where
  noSlash : '/' ∉ s
  ne_nil : s ≠ []
  ne_point : s ≠ ['.']

theorem Plain.names_eq {s : List Char} (h : Plain s) : names s = [.name s] := by
  rw [names, pieces_of_notMem h.noSlash]
  simp [h.ne_nil, h.ne_point]

theorem names_injective {s t : List Char} (hs : s = [] ∨ Plain s) (ht : t = [] ∨ Plain t)
    (h : names s = names t) : s = t := by
  rcases hs with rfl | hs
  · rcases ht with rfl | ht
    · rfl
    · rw [ht.names_eq] at h
      cases h
  · rw [hs.names_eq] at h
    rcases ht with rfl | ht
    · cases h
    · rw [ht.names_eq] at h
      exact Component.name.inj (List.cons.inj h).1

theorem head?_append {β : Type} {s : List β} (hs : s ≠ []) (t : List β) :
    (s ++ t).head? = s.head? := by
  obtain ⟨b, s, rfl⟩ := List.exists_cons_of_ne_nil hs
  rfl

theorem components_append {s : List Char} (hs : s ≠ []) (t : List Char) :
    components ⟨s ++ '/' :: t⟩ = components ⟨s⟩ ++ names t := by
  simp only [components_eq, isAbsolute, names_append, pieces_append, head?_append hs,
    head?_append (pieces_ne_nil s)]
  split
  · rfl
  · split <;> rfl

theorem components_closed (s t : List Char) :
    components ⟨s ++ '/' :: t⟩ = components ⟨s ++ ['/']⟩ ++ names t := by
  by_cases hs : s = []
  · rw [hs]
    rfl
  · rw [components_append hs, components_append hs, show names [] = [] from rfl, List.append_nil]

theorem components_join (p : Path) {q : Path} (hrelative : q.isAbsolute = false)
    (hpoint : (pieces q.chars).head? ≠ some ['.']) :
    (p.join q).components = p.components ++ names q.chars := by
  obtain ⟨s⟩ := p
  rw [join, if_neg (Bool.eq_false_iff.mp hrelative)]
  rcases List.eq_nil_or_concat s with rfl | ⟨r, c, rfl⟩
  · change q.components = _
    rw [components_eq, if_neg (Bool.eq_false_iff.mp hrelative), if_neg hpoint]
    rfl
  · rw [List.concat_eq_append]
    by_cases hc : c = '/'
    · rw [hc, if_pos (by simp)]
      dsimp only
      rw [List.append_assoc]
      exact components_closed r q.chars
    · rw [if_neg (by simp [hc])]
      exact components_append (by simp) q.chars

theorem Plain.isAbsolute {s : List Char} (h : Plain s) : isAbsolute ⟨s⟩ = false := by
  obtain ⟨c, s, rfl⟩ := List.exists_cons_of_ne_nil h.ne_nil
  exact beq_eq_false_iff_ne.mpr fun hc => h.noSlash (Option.some.inj hc ▸ List.mem_cons_self)

theorem Plain.head?_pieces {s : List Char} (h : Plain s) : (pieces s).head? ≠ some ['.'] := by
  rw [pieces_of_notMem h.noSlash]
  exact fun hs => h.ne_point (Option.some.inj hs)

theorem Plain.components_eq {s : List Char} (h : Plain s) : components ⟨s⟩ = [.name s] := by
  rw [Path.components_eq, if_neg (Bool.eq_false_iff.mp h.isAbsolute), if_neg h.head?_pieces,
    h.names_eq]

theorem Plain.components_join {s : List Char} (h : Plain s) (p : Path) :
    (p.join ⟨s⟩).components = p.components ++ [.name s] := by
  rw [Path.components_join p h.isAbsolute h.head?_pieces, h.names_eq]

end Synoptic.Path
