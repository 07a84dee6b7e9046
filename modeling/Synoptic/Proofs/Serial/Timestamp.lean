import Mathlib.Tactic.SplitIfs
import Synoptic.Proofs.Filing.Stamp

/-!
The serial form of a time reads back as the time, in every year of the calendar and to the nanosecond,
unless the time is in a leap second that does not end a minute. That one is written as the second after
it, and read as such.
-/

namespace Synoptic.Timestamp

theorem padded_ne_nil (width n : Nat) : padded width n ≠ [] := by
  intro h
  have hlength := congrArg List.length h
  have hdigits := Nat.length_toDigits_pos (b := 10) (n := n)
  rw [padded, List.length_append, List.length_nil] at hlength
  omega

theorem isBlank_of_isDigit {c : Char} (h : c.isDigit = true) : Text.isBlank c = false := by
  obtain ⟨hzero, hnine⟩ := Bool.and_eq_true_iff.mp h
  have hlow : 48 ≤ c.toNat := of_decide_eq_true hzero
  have hhigh : c.toNat ≤ 57 := of_decide_eq_true hnine
  simp [Text.isBlank, Text.inRanges, Text.blankRanges]
  omega

theorem trimStart_cons {c : Char} (h : Text.isBlank c = false) (s : List Char) :
    Text.trimStart (c :: s) = c :: s := by
  rw [Text.trimStart, List.dropWhile_cons, h]
  rfl

theorem trimStart_padded (width n : Nat) (rest : List Char) :
    Text.trimStart (padded width n ++ rest) = padded width n ++ rest := by
  cases h : padded width n with
  | nil => exact absurd h (padded_ne_nil width n)
  | cons c s =>
    have hdigit : c.isDigit = true := isDigit_of_mem_padded (h ▸ List.mem_cons_self)
    exact trimStart_cons (isBlank_of_isDigit hdigit) _

theorem natural?_padded {width k n : Nat} {rest : List Char} (hk : (padded width n).length ≤ k)
    (hrest : (rest.take (k - (padded width n).length)).takeWhile Char.isDigit = []) :
    natural? k (padded width n ++ rest) = some (n, rest) := by
  have hdigits : ((padded width n ++ rest).take k).takeWhile Char.isDigit = padded width n := by
    rw [List.take_append, List.take_of_length_le hk,
      List.takeWhile_append_of_pos fun _ => isDigit_of_mem_padded, hrest, List.append_nil]
  have hvalue : (padded width n).foldl (fun n c => 10 * n + (c.toNat - '0'.toNat)) 0 = n :=
    ofDigitChars_padded width n
  simp only [natural?, hdigits, hvalue, List.drop_left, List.isEmpty_iff, padded_ne_nil, if_false]

theorem field?_padded {n : Nat} (h : n < 100) (rest : List Char) :
    field? (padded 2 n ++ rest) = some (n, rest) := by
  rw [field?, trimStart_padded]
  apply natural?_padded
  · exact Nat.le_of_eq (length_padded_two h)
  · rw [length_padded_two h]
    rfl

theorem mark?_cons {c : Char} (h : Text.isBlank c = false) (rest : List Char) :
    mark? c (c :: rest) = some rest := by
  rw [mark?, trimStart_cons h]
  exact if_pos rfl

theorem natural?_of_mark {width n : Nat} (rest : List Char) :
    natural? (padded width n ++ '-' :: rest).length (padded width n ++ '-' :: rest) =
      some (n, '-' :: rest) := by
  apply natural?_padded
  · simp
  · cases h : (padded width n ++ '-' :: rest).length - (padded width n).length <;> rfl

theorem padded_append_ne {width n : Nat} {c : Char} (hc : c.isDigit = false)
    (rest s : List Char) : padded width n ++ rest ≠ c :: s := by
  cases h : padded width n with
  | nil => exact absurd h (padded_ne_nil width n)
  | cons c' s' =>
    intro heq
    have hdigit : c'.isDigit = true := isDigit_of_mem_padded (h ▸ List.mem_cons_self)
    rw [(List.cons.inj heq).1, hc] at hdigit
    cases hdigit

theorem year?_yearText (year : Int) (rest : List Char) :
    year? (yearText year ++ '-' :: rest) = some (year, '-' :: rest) := by
  rw [yearText]
  by_cases hplain : 0 ≤ year ∧ year ≤ 9999
  · have hlength : (padded 4 year.toNat).length = 4 :=
      length_padded (by decide) (show year.toNat < 10000 by omega)
    have hnumber : natural? 4 (padded 4 year.toNat ++ '-' :: rest) =
        some (year.toNat, '-' :: rest) := by
      apply natural?_padded
      · exact Nat.le_of_eq hlength
      · rw [hlength]
        rfl
    rw [if_pos hplain, year?, trimStart_padded]
    split
    · exact absurd ‹_› (padded_append_ne (by decide) _ _)
    · exact absurd ‹_› (padded_append_ne (by decide) _ _)
    · simp only [hnumber, Option.map_some, Int.toNat_of_nonneg hplain.1]
  · rw [if_neg hplain]
    by_cases hneg : year < 0
    · rw [if_pos hneg, year?, List.cons_append, trimStart_cons (by decide)]
      simp only [natural?_of_mark, Option.map_some]
      congr 2
      omega
    · rw [if_neg hneg, year?, List.cons_append, trimStart_cons (by decide)]
      simp only [natural?_of_mark, Option.map_some]
      congr 2
      omega

theorem fraction?_padded {k n : Nat} (hk : 0 < k) (hk9 : k ≤ 9) (hn : n < Nat.pow 10 k) :
    fraction? ('.' :: padded k n) = some (n * Nat.pow 10 (9 - k), []) := by
  have hlength := length_padded hk hn
  have hnumber : natural? 9 (padded k n) = some (n, []) := by
    rw [← List.append_nil (padded k n)]
    apply natural?_padded
    · omega
    · simp
  simp only [fraction?, hnumber, hlength]
  rfl

theorem fraction?_fractionText {nanos : Nat} (h : nanos < 1000000000) :
    fraction? (fractionText nanos) = some (nanos, []) := by
  rw [fractionText]
  split_ifs with hzero hmillis hmicros
  · rw [hzero]
    rfl
  · have hwhole : nanos / 1000000 * 1000000 = nanos := by omega
    rw [fraction?_padded (by decide) (by decide) (show nanos / 1000000 < 1000 by omega)]
    exact congrArg (fun n => some (n, [])) hwhole
  · have hwhole : nanos / 1000 * 1000 = nanos := by omega
    rw [fraction?_padded (by decide) (by decide) (show nanos / 1000 < 1000000 by omega)]
    exact congrArg (fun n => some (n, [])) hwhole
  · rw [fraction?_padded (by decide) (by decide) h]
    simp

theorem ofCivil?_eq (d : Date) : Date.ofCivil? d.year d.month d.day = some d :=
  dif_pos ⟨d.year_range, d.month_range, d.day_range⟩

def shownSecond (t : Timestamp) : Nat := if t.inLeapSecond then t.second + 1 else t.second

theorem shownSecond_lt (t : Timestamp) : t.shownSecond < 100 := by
  have hsecond : t.second < 60 := Nat.mod_lt _ (by decide)
  rw [shownSecond]
  split <;> omega

/-- No leap second, or one that ends a minute. -/
def OnBoundary (t : Timestamp) : Prop := t.inLeapSecond = true → t.second = 59

/-- The time that the text of a time stands for. -/
def asWritten (t : Timestamp) : Timestamp :=
  if h : t.inLeapSecond = true ∧ t.second ≠ 59 then
    { date := t.date
      secondOfDay := t.secondOfDay + 1
      nanos := t.nanos - 1000000000
      second_range := by
        have hrange := t.second_range
        have hsecond : t.second = t.secondOfDay % 60 := rfl
        omega
      nanos_range := by
        have hrange := t.nanos_range
        omega }
  else t

theorem asWritten_eq_self_iff {t : Timestamp} : t.asWritten = t ↔ t.OnBoundary := by
  rw [asWritten, OnBoundary]
  split_ifs with h
  · refine iff_of_false (fun heq => ?_) fun hboundary => h.2 (hboundary h.1)
    have hsecond := congrArg secondOfDay heq
    exact Nat.succ_ne_self _ hsecond
  · exact iff_of_true rfl fun hleap => Decidable.byContradiction fun hsecond => h ⟨hleap, hsecond⟩

theorem ofParts?_eq (t : Timestamp) :
    ofParts? t.date t.hour t.minute t.shownSecond (t.nanos % 1000000000) = some t.asWritten := by
  have hseconds := t.second_range
  have hnanos := t.nanos_range
  have hhour : t.hour = t.secondOfDay / 3600 := rfl
  have hminute : t.minute = t.secondOfDay / 60 % 60 := rfl
  have hsecond : t.second = t.secondOfDay % 60 := rfl
  cases hleap : t.inLeapSecond with
  | true =>
    have hpast : 1000000000 ≤ t.nanos := of_decide_eq_true hleap
    rw [shownSecond, if_pos hleap, asWritten]
    by_cases hlast : t.second = 59
    · rw [dif_neg fun h => h.2 hlast, ofParts?, dif_neg (by omega), dif_pos (by omega)]
      refine congrArg some (eq_of_parts rfl ?_ ?_)
      · dsimp only
        omega
      · dsimp only
        omega
    · rw [dif_pos ⟨hleap, hlast⟩, ofParts?, dif_pos (by omega)]
      refine congrArg some (eq_of_parts rfl ?_ ?_)
      · dsimp only
        omega
      · dsimp only
        omega
  | false =>
    have hbefore : ¬ 1000000000 ≤ t.nanos := of_decide_eq_false hleap
    have hplain : ¬ t.inLeapSecond = true := Bool.eq_false_iff.mp hleap
    rw [shownSecond, if_neg hplain, asWritten, dif_neg fun h => hplain h.1, ofParts?,
      dif_pos (by omega)]
    refine congrArg some (eq_of_parts rfl ?_ ?_)
    · dsimp only
      omega
    · dsimp only
      omega

theorem ofString?_serial (t : Timestamp) : ofString? t.serial = some t.asWritten := by
  have hnanos : t.nanos % 1000000000 < 1000000000 := Nat.mod_lt _ (by decide)
  rw [ofString?, serial, String.toList_ofList, dateText, clockText, ← shownSecond]
  simp only [List.append_assoc, List.cons_append, ofChars?, Option.bind_eq_bind, Option.bind_some,
    year?_yearText, mark?_cons (c := '-') (by decide), mark?_cons (c := ':') (by decide),
    mark?_cons (c := 'T') (by decide), field?_padded t.date.month_lt, field?_padded t.date.day_lt,
    field?_padded t.hour_lt, field?_padded t.minute_lt, field?_padded t.shownSecond_lt,
    fraction?_fractionText hnanos, ofCivil?_eq, ofParts?_eq]
  rfl

end Synoptic.Timestamp
