import Mathlib.Data.List.DropRight
import Synoptic.Text.Case

namespace Synoptic.Text

theorem trim_eq_nil_iff {s : List Char} : trim s = [] ↔ s.all isBlank = true := by
  rw [trim, trimEnd, List.reverse_eq_nil_iff, List.dropWhile_eq_nil_iff, List.all_eq_true]
  constructor
  · intro h
    rw [← List.all_eq_true, ← List.dropWhile_eq_nil_iff.trans List.all_eq_true.symm]
    rw [trimStart] at h
    cases hstart : s.dropWhile isBlank with
    | nil => rfl
    | cons c rest =>
      have hc : isBlank c = false := by
        have hhead := List.head?_dropWhile_not isBlank s
        rwa [hstart] at hhead
      rw [hstart] at h
      have hblank := h c (List.mem_reverse.mpr List.mem_cons_self)
      rw [hc] at hblank
      cases hblank
  · intro h c hc
    exact h c ((List.dropWhile_suffix isBlank).subset (List.mem_reverse.mp hc))

structure Trimmed (s : List Char) : Prop where
  first : ∀ c rest, s = c :: rest → isBlank c = false
  last : ∀ rest c, s = rest ++ [c] → isBlank c = false

theorem Trimmed.trim_eq {s : List Char} (h : Trimmed s) : trim s = s := by
  have hstart : trimStart s = s := by
    cases s with
    | nil => rfl
    | cons c rest => exact List.dropWhile_cons_of_neg (by simp [h.first c rest rfl])
  rw [trim, hstart]
  rcases List.eq_nil_or_concat s with rfl | ⟨rest, c, rfl⟩
  · rfl
  · rw [List.concat_eq_append] at h ⊢
    exact List.rdropWhile_concat_neg isBlank rest c (by simp [h.last rest c rfl])

theorem trimmed_trim (s : List Char) : Trimmed (trim s) where
  first c rest h := by
    have hprefix : trim s <+: s.dropWhile isBlank := List.rdropWhile_prefix isBlank _
    obtain ⟨tail, htail⟩ := hprefix
    have hhead := List.head?_dropWhile_not isBlank s
    rw [← htail, h] at hhead
    simpa using hhead
  last rest c h := by
    have hne : trim s ≠ [] := by simp [h]
    have hlast := List.rdropWhile_last_not isBlank (trimStart s) hne
    change ¬ isBlank ((trim s).getLast hne) = true at hlast
    simpa [h] using hlast

def CaseRange.members (r : CaseRange) : List Nat :=
  (List.range ((r.last - r.first) / r.step + 1)).map fun i => r.first + i * r.step

def CaseRange.images (r : CaseRange) : List Nat :=
  r.members.map fun (n : Nat) => ((n : Int) + r.shift).toNat

theorem CaseRange.mem_members {r : CaseRange} {n : Nat} (h : r.covers n = true) : n ∈ r.members := by
  simp only [covers, Bool.and_eq_true, decide_eq_true_eq, beq_iff_eq] at h
  obtain ⟨⟨hfirst, hlast⟩, hstep⟩ := h
  refine List.mem_map.mpr ⟨(n - r.first) / r.step, ?_, ?_⟩
  · rw [List.mem_range, Nat.lt_succ_iff]
    exact Nat.div_le_div_right (Nat.sub_le_sub_right hlast _)
  · rw [Nat.div_mul_cancel (Nat.dvd_of_mod_eq_zero hstep)]
    omega

theorem CaseRange.mem_images {r : CaseRange} (hr : r ∈ lowerRanges) {n : Nat}
    (h : r.covers n = true) : ((n : Int) + r.shift).toNat ∈ lowerRanges.flatMap images :=
  List.mem_flatMap.mpr ⟨r, hr, List.mem_map_of_mem (mem_members h)⟩

def blankCodes : List Nat :=
  blankRanges.flatMap fun (first, last) => List.range' first (last + 1 - first)

theorem isBlank_iff {c : Char} : isBlank c = true ↔ c.toNat ∈ blankCodes := by
  simp only [isBlank, inRanges, blankCodes, List.any_eq_true, List.mem_flatMap, List.mem_range'_1,
    Bool.and_eq_true, decide_eq_true_eq]
  exact exists_congr fun r => and_congr_right fun _ => and_congr_right fun _ => by omega

def bits (codes : List Nat) : Nat := codes.foldr (fun n s => 1 <<< n ||| s) 0

theorem testBit_bits {codes : List Nat} {n : Nat} (h : n ∈ codes) : (bits codes).testBit n = true := by
  induction codes with
  | nil => cases h
  | cons m codes ih =>
    rw [bits, List.foldr_cons, Nat.testBit_or, Bool.or_eq_true]
    rcases List.mem_cons.mp h with rfl | h
    · left
      rw [Nat.one_shiftLeft, Nat.testBit_two_pow_self]
    · exact .inr (ih h)

theorem notMem_of_bits {codes codes' : List Nat} (h : bits codes &&& bits codes' = 0) {n : Nat}
    (hn : n ∈ codes') : n ∉ codes := by
  intro hn'
  have hboth : (bits codes &&& bits codes').testBit n = true := by
    rw [Nat.testBit_and, testBit_bits hn, testBit_bits hn']
    rfl
  rw [h, Nat.zero_testBit] at hboth
  cases hboth

def unsettled : List Nat := blankCodes ++ 0x130 :: lowerRanges.flatMap CaseRange.members

theorem images_valid : ∀ n ∈ lowerRanges.flatMap CaseRange.images, n.isValidChar := by
  have hall : (lowerRanges.flatMap CaseRange.images).all (·.isValidChar) = true := by decide +kernel
  exact fun n hn => of_decide_eq_true (List.all_eq_true.mp hall n hn)

theorem images_settled : bits unsettled &&& bits (lowerRanges.flatMap CaseRange.images) = 0 := by
  -- The sets are compared as numbers: their members have too many pairs.
  decide +kernel

/-- A character that lower case leaves as it is wherever it stands. -/
structure Settled (c : Char) : Prop where
  ne_sigma : c.toNat ≠ 0x3A3
  lowerChar_eq : lowerChar c = [c]

theorem uncovered {n : Nat} (h : lowerRanges.any (·.covers n) = false) :
    n ≠ 0x3A3 ∧ ¬ (0x41 ≤ n ∧ n ≤ 0x5A) := by
  constructor
  · rintro rfl
    have hsigma : lowerRanges.any (·.covers 0x3A3) = true := by decide
    cases hsigma.symm.trans h
  · rintro ⟨hfirst, hlast⟩
    have hascii := List.any_eq_false.mp h ⟨0x41, 0x5A, 1, 32⟩ List.mem_cons_self
    simp [CaseRange.covers, hfirst, hlast, Nat.mod_one] at hascii

theorem toLower_of_not_upper {c : Char} (h : ¬ (0x41 ≤ c.toNat ∧ c.toNat ≤ 0x5A)) :
    c.toLower = c := dif_neg h

theorem toLower_of_upper {c : Char} (h : 0x41 ≤ c.toNat ∧ c.toNat ≤ 0x5A) :
    c.toLower = Char.ofNat ((c.toNat : Int) + 32).toNat := by
  have hall : ∀ n ≤ 0x5A, 0x41 ≤ n →
      (Char.ofNat n).toLower = Char.ofNat ((n : Int) + 32).toNat := by decide
  have hc := hall c.toNat h.2 h.1
  rwa [Char.ofNat_toNat] at hc

theorem settled_of_uncovered {c : Char} (hdotted : c.toNat ≠ 0x130)
    (h : lowerRanges.any (·.covers c.toNat) = false) : Settled c where
  ne_sigma := (uncovered h).1
  lowerChar_eq := by
    have hnone : lowerRanges.find? (·.covers c.toNat) = none :=
      List.find?_eq_none.mpr fun r hr => List.any_eq_false.mp h r hr
    rw [lowerChar, hnone, toLower_of_not_upper (uncovered h).2]
    split
    · rfl
    · exact if_neg (by simpa using hdotted)

structure LowerOf (c x : Char) : Prop where
  settled : Settled x
  blank : isBlank x = true → isBlank c = true

theorem LowerOf.of_not_blank {c x : Char} (h : Settled x) (hblank : isBlank x = false) :
    LowerOf c x := ⟨h, fun hx => absurd hx (Bool.eq_false_iff.mp hblank)⟩

theorem LowerOf.of_image {c : Char} {n : Nat} (h : n ∈ lowerRanges.flatMap CaseRange.images) :
    LowerOf c (Char.ofNat n) := by
  have hcode : (Char.ofNat n).toNat = n := by
    rw [Char.ofNat, dif_pos (images_valid n h)]
    rfl
  have hn := notMem_of_bits images_settled h
  simp only [unsettled, List.mem_append, List.mem_cons, not_or] at hn
  obtain ⟨hblank, hdotted, hupper⟩ := hn
  refine .of_not_blank (settled_of_uncovered (hcode.symm ▸ hdotted) ?_) ?_
  · rw [hcode, List.any_eq_false]
    exact fun r hr hcovers => hupper (List.mem_flatMap.mpr ⟨r, hr, CaseRange.mem_members hcovers⟩)
  · rw [Bool.eq_false_iff, ne_eq, isBlank_iff, hcode]
    exact hblank

theorem lowerOf_of_mem {c x : Char} (h : x ∈ lowerChar c) : LowerOf c x := by
  rw [lowerChar] at h
  split at h
  · rename_i hascii
    cases List.mem_singleton.mp h
    by_cases hupper : 0x41 ≤ c.toNat ∧ c.toNat ≤ 0x5A
    · have hcovers : (⟨0x41, 0x5A, 1, 32⟩ : CaseRange).covers c.toNat = true := by
        simp [CaseRange.covers, hupper, Nat.mod_one]
      rw [toLower_of_upper hupper]
      exact .of_image (CaseRange.mem_images List.mem_cons_self hcovers)
    · rw [toLower_of_not_upper hupper]
      refine ⟨⟨by omega, ?_⟩, id⟩
      rw [lowerChar, if_pos hascii, toLower_of_not_upper hupper]
  · split at h
    · rcases List.mem_pair.mp h with rfl | rfl
      · exact .of_not_blank ⟨by decide, by decide⟩ (by decide)
      · exact .of_not_blank ⟨by decide, by decide⟩ (by decide)
    · rename_i hdotted
      split at h
      · rename_i r hr
        cases List.mem_singleton.mp h
        have hcovers := List.find?_some (p := fun r : CaseRange => r.covers c.toNat) hr
        exact .of_image (CaseRange.mem_images (List.mem_of_find?_eq_some hr) hcovers)
      · rename_i hnone
        cases List.mem_singleton.mp h
        refine ⟨settled_of_uncovered (by simpa using hdotted) ?_, id⟩
        exact List.any_eq_false.mpr fun r hr => List.find?_eq_none.mp hnone r hr

theorem lowerChar_ne_nil (c : Char) : lowerChar c ≠ [] := by
  unfold lowerChar
  split
  · nofun
  · split
    · nofun
    · split <;> nofun

theorem lowerAfter_cons (before : List Char) (c : Char) (rest : List Char) :
    ∃ piece, piece ≠ [] ∧ (∀ x ∈ piece, LowerOf c x) ∧
      lowerAfter before (c :: rest) = piece ++ lowerAfter (c :: before) rest := by
  refine ⟨_, ?_, ?_, rfl⟩
  · split
    · nofun
    · exact lowerChar_ne_nil c
  · intro x hx
    split at hx
    · have hsigma : ∀ n ∈ [0x3C2, 0x3C3], (Char.ofNat n).toNat ≠ 0x3A3 ∧
          lowerChar (Char.ofNat n) = [Char.ofNat n] ∧ isBlank (Char.ofNat n) = false := by decide
      rw [List.mem_singleton.mp hx]
      obtain ⟨hne, hlower, hblank⟩ := hsigma (if meetsCased before && !meetsCased rest then 0x3C2
        else 0x3C3) (by split <;> simp)
      exact .of_not_blank ⟨hne, hlower⟩ hblank
    · exact lowerOf_of_mem hx

theorem settled_of_mem_lowerAfter {x : Char} : ∀ (before s : List Char), x ∈ lowerAfter before s →
    Settled x
  | _, [], h => nomatch h
  | before, c :: rest, h => by
    obtain ⟨piece, _, hpiece, heq⟩ := lowerAfter_cons before c rest
    rw [heq, List.mem_append] at h
    rcases h with h | h
    · exact (hpiece x h).settled
    · exact settled_of_mem_lowerAfter (c :: before) rest h

theorem lowerAfter_of_settled : ∀ (before s : List Char), (∀ c ∈ s, Settled c) →
    lowerAfter before s = s
  | _, [], _ => rfl
  | before, c :: rest, h => by
    obtain ⟨hc, hrest⟩ := List.forall_mem_cons.mp h
    rw [lowerAfter, if_neg (by simpa using hc.ne_sigma), hc.lowerChar_eq,
      lowerAfter_of_settled (c :: before) rest hrest]
    rfl

theorem lower_lower (s : List Char) : lower (lower s) = lower s :=
  lowerAfter_of_settled [] (lower s) fun _ => settled_of_mem_lowerAfter [] s

theorem lower_eq_nil_iff {s : List Char} : lower s = [] ↔ s = [] := by
  cases s with
  | nil => exact iff_of_true rfl rfl
  | cons c rest =>
    obtain ⟨piece, hne, _, heq⟩ := lowerAfter_cons [] c rest
    exact iff_of_false (by simp [lower, heq, hne]) nofun

theorem lowerAfter_concat (c : Char) : ∀ before s : List Char, ∃ front piece, piece ≠ [] ∧
    (∀ x ∈ piece, LowerOf c x) ∧ lowerAfter before (s ++ [c]) = front ++ piece
  | before, [] => by
    obtain ⟨piece, hne, hpiece, heq⟩ := lowerAfter_cons before c []
    exact ⟨[], piece, hne, hpiece, heq.trans (List.append_nil piece)⟩
  | before, d :: rest => by
    obtain ⟨start, _, _, hstart⟩ := lowerAfter_cons before d (rest ++ [c])
    obtain ⟨front, piece, hne, hpiece, heq⟩ := lowerAfter_concat c (d :: before) rest
    exact ⟨start ++ front, piece, hne, hpiece, by
      rw [List.cons_append, hstart, heq, List.append_assoc]⟩

theorem Trimmed.lower {s : List Char} (h : Trimmed s) : Trimmed (lower s) where
  first x tail hx := by
    cases s with
    | nil => cases hx
    | cons c rest =>
      obtain ⟨piece, hne, hpiece, heq⟩ := lowerAfter_cons [] c rest
      obtain ⟨y, piece, rfl⟩ := List.exists_cons_of_ne_nil hne
      obtain rfl : y = x := by
        rw [Text.lower, heq] at hx
        exact (List.cons.inj hx).1
      rw [Bool.eq_false_iff]
      exact fun hblank => Bool.eq_false_iff.mp (h.first c rest rfl)
        ((hpiece y List.mem_cons_self).blank hblank)
  last tail x hx := by
    rcases List.eq_nil_or_concat s with rfl | ⟨rest, c, rfl⟩
    · simp [Text.lower, lowerAfter] at hx
    · rw [List.concat_eq_append] at h hx
      obtain ⟨front, piece, hne, hpiece, heq⟩ := lowerAfter_concat c [] rest
      have hmem : x ∈ piece := by
        rw [Text.lower, heq] at hx
        have hlast := congrArg List.getLast? hx
        rw [List.getLast?_append_of_ne_nil _ hne, List.getLast?_concat] at hlast
        exact List.mem_of_getLast? hlast
      rw [Bool.eq_false_iff]
      exact fun hblank => Bool.eq_false_iff.mp (h.last rest c rfl) ((hpiece x hmem).blank hblank)

theorem fold_eq_empty_iff {s : String} : fold s = "" ↔ s.toList.all isBlank = true := by
  rw [← trim_eq_nil_iff, ← lower_eq_nil_iff, fold, ← String.toList_inj, String.toList_ofList]
  rfl

theorem fold_fold (s : String) : fold (fold s) = fold s := by
  rw [fold, fold, String.toList_ofList, (trimmed_trim s.toList).lower.trim_eq, lower_lower]

end Synoptic.Text
