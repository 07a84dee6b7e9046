import Synoptic.Proofs.Text.Fold

namespace Synoptic.Text

variable {s t u v before after core : List Char} {c : Char}

theorem trimStart_split (hc : isBlank c = false) : trimStart (u ++ c :: v) = trimStart u ++ c :: v := by
  have hstop : (c :: v).dropWhile isBlank = c :: v := List.dropWhile_cons_of_neg (by simp [hc])
  rw [trimStart, List.dropWhile_append, hstop]
  split
  case isTrue hblank => rw [trimStart, List.isEmpty_iff.mp hblank, List.nil_append]
  case isFalse => rfl

theorem trimEnd_split (hc : isBlank c = false) : trimEnd (u ++ c :: v) = u ++ c :: trimEnd v := by
  have hstart := trimStart_split (u := v.reverse) (v := u.reverse) hc
  rw [trimStart, trimStart] at hstart
  rw [trimEnd, List.reverse_append, List.reverse_cons, List.append_assoc, List.singleton_append, hstart]
  simp [trimEnd]

theorem trim_split (hc : isBlank c = false) : trim (u ++ c :: v) = trimStart u ++ c :: trimEnd v := by
  rw [trim, trimStart_split hc, trimEnd_split hc]

theorem trimEnd_append (h : after.all isBlank = true) : trimEnd (core ++ after) = trimEnd core := by
  rw [trimEnd, List.reverse_append, List.dropWhile_append_of_pos]
  · rfl
  · exact fun c hc => List.all_eq_true.mp h c (List.mem_reverse.mp hc)

theorem trim_around (hbefore : before.all isBlank = true) (hafter : after.all isBlank = true) :
    trim (before ++ core ++ after) = trim core := by
  have hskip : trimStart (before ++ core ++ after) = trimStart (core ++ after) := by
    rw [List.append_assoc]
    exact List.dropWhile_append_of_pos (List.all_eq_true.mp hbefore)
  rw [trim, hskip, trimStart, List.dropWhile_append]
  split
  case isTrue hblank =>
    rw [List.dropWhile_eq_nil_iff.mpr (List.all_eq_true.mp hafter), trim, trimStart,
      List.isEmpty_iff.mp hblank]
  case isFalse => exact trimEnd_append hafter

theorem trim_trimStart : trim (trimStart s) = trim s := by
  rw [trim, trim, trimStart, trimStart, List.dropWhile_idempotent]

theorem trim_trimEnd : trim (trimEnd s) = trim s := by
  have hsplit : s = [] ++ trimEnd s ++ (s.reverse.takeWhile isBlank).reverse := by
    rw [List.nil_append, trimEnd, ← List.reverse_append, List.takeWhile_append_dropWhile,
      List.reverse_reverse]
  conv_rhs => rw [hsplit]
  refine (trim_around rfl ?_).symm
  rw [List.all_reverse]
  exact List.all_takeWhile

/-- What holds of the capital letters and of all that have no lower case holds of every character. -/
theorem forall_of_letters {P : Char → Prop} (hletters : ∀ n ≤ 0x5A, 0x41 ≤ n → P (Char.ofNat n))
    (hothers : ∀ c : Char, c.toLower = c → P c) (c : Char) : P c := by
  by_cases h : 0x41 ≤ c.toNat ∧ c.toNat ≤ 0x5A
  · have hc := hletters c.toNat h.2 h.1
    rwa [Char.ofNat_toNat] at hc
  · exact hothers c (toLower_of_not_upper h)

theorem isBlank_toLower : ∀ c : Char, isBlank c.toLower = isBlank c :=
  forall_of_letters (by decide) fun _ h => by rw [h]

theorem toLower_toLower : ∀ c : Char, c.toLower.toLower = c.toLower :=
  forall_of_letters (by decide) fun _ h => by rw [h, h]

theorem lowerAscii_lowerAscii (s : List Char) : lowerAscii (lowerAscii s) = lowerAscii s := by
  rw [lowerAscii, lowerAscii, List.map_map]
  exact List.map_congr_left fun c _ => toLower_toLower c

theorem dropWhile_lowerAscii (s : List Char) :
    (lowerAscii s).dropWhile isBlank = lowerAscii (s.dropWhile isBlank) := by
  rw [lowerAscii, List.dropWhile_map]
  congr 2
  exact funext isBlank_toLower

theorem trimStart_lowerAscii (s : List Char) : trimStart (lowerAscii s) = lowerAscii (trimStart s) :=
  dropWhile_lowerAscii s

theorem trimEnd_lowerAscii (s : List Char) : trimEnd (lowerAscii s) = lowerAscii (trimEnd s) := by
  rw [trimEnd, lowerAscii, ← List.map_reverse]
  change ((lowerAscii s.reverse).dropWhile isBlank).reverse = _
  rw [dropWhile_lowerAscii, lowerAscii, ← List.map_reverse]
  rfl

theorem trim_lowerAscii (s : List Char) : trim (lowerAscii s) = lowerAscii (trim s) := by
  rw [trim, trimStart_lowerAscii, trimEnd_lowerAscii, trim]

def Padded (core s : List Char) : Prop :=
  ∃ before after, before.all isBlank = true ∧ after.all isBlank = true ∧ s = before ++ core ++ after

/-- Two texts that differ in the white space around them and in the case of ASCII letters only. -/
def Alike (s t : List Char) : Prop :=
  ∃ core core', Padded core s ∧ Padded core' t ∧ lowerAscii core = lowerAscii core'

theorem Padded.trim_eq (h : Padded core s) : trim s = trim core := by
  obtain ⟨before, after, hbefore, hafter, rfl⟩ := h
  exact trim_around hbefore hafter

theorem Alike.lowerAscii_trim_eq (h : Alike s t) : lowerAscii (trim s) = lowerAscii (trim t) := by
  obtain ⟨core, core', hs, ht, hcore⟩ := h
  rw [hs.trim_eq, ht.trim_eq, ← trim_lowerAscii, hcore, trim_lowerAscii]

end Synoptic.Text
