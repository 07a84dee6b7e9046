import Synoptic.Archive

namespace Synoptic

namespace Date

theorem eq_of_parts {d d' : Date} (hyear : d.year = d'.year) (hmonth : d.month = d'.month)
    (hday : d.day = d'.day) : d = d' := by
  cases d
  cases d'
  cases hyear
  cases hmonth
  cases hday
  rfl

theorem month_lt (d : Date) : d.month < 100 := by
  have hmonth := d.month_range
  omega

theorem day_lt (d : Date) : d.day < 100 := by
  have hday := d.day_range
  have hmonth : daysInMonth d.year d.month ≤ 31 := by
    unfold daysInMonth
    split
    · split <;> decide
    all_goals decide
  omega

end Date

namespace Timestamp

theorem isDigit_of_mem_padded {width n : Nat} {c : Char} (h : c ∈ padded width n) :
    c.isDigit = true := by
  rcases List.mem_append.mp h with hzero | hdigit
  · rw [List.eq_of_mem_replicate hzero]
    rfl
  · exact Nat.isDigit_of_mem_toDigits (by decide) (by decide) hdigit

theorem ofDigitChars_padded (width n : Nat) : Nat.ofDigitChars 10 (padded width n) 0 = n := by
  rw [padded, Nat.ofDigitChars_append, Nat.ofDigitChars_replicate_zero, Nat.mul_zero,
    Nat.ofDigitChars_toDigits (by decide) (by decide)]

theorem padded_injective {width m n : Nat} (h : padded width m = padded width n) : m = n := by
  rw [← ofDigitChars_padded width m, h, ofDigitChars_padded]

theorem length_padded {width n : Nat} (hwidth : 0 < width) (h : n < Nat.pow 10 width) :
    (padded width n).length = width := by
  have hlength := (Nat.length_toDigits_le_iff (by decide) hwidth).mpr h
  rw [padded, List.length_append, List.length_replicate]
  exact Nat.sub_add_cancel hlength

theorem length_padded_two {n : Nat} (h : n < 100) : (padded 2 n).length = 2 :=
  length_padded (by decide) h

theorem padded_ne_signed (width n : Nat) (negative : Prop) [Decidable negative] (s : List Char) :
    padded width n ≠ (if negative then '-' else '+') :: s := by
  intro h
  have hsign : (if negative then '-' else '+') ∈ padded width n := h ▸ List.mem_cons_self
  have hdigit := isDigit_of_mem_padded hsign
  split at hdigit <;> cases hdigit

theorem sign_injective {p q : Prop} [Decidable p] [Decidable q]
    (h : (if p then '-' else '+') = if q then '-' else '+') : p ↔ q := by
  by_cases hp : p
  · rw [if_pos hp] at h
    by_cases hq : q
    · exact iff_of_true hp hq
    · rw [if_neg hq] at h
      cases h
  · rw [if_neg hp] at h
    by_cases hq : q
    · rw [if_pos hq] at h
      cases h
    · exact iff_of_false hp hq

theorem yearText_injective {y y' : Int} (h : yearText y = yearText y') : y = y' := by
  rw [yearText, yearText] at h
  by_cases hy : 0 ≤ y ∧ y ≤ 9999
  · rw [if_pos hy] at h
    by_cases hy' : 0 ≤ y' ∧ y' ≤ 9999
    · rw [if_pos hy'] at h
      have hdigits := padded_injective h
      omega
    · rw [if_neg hy'] at h
      exact (padded_ne_signed _ _ _ _ h).elim
  · rw [if_neg hy] at h
    by_cases hy' : 0 ≤ y' ∧ y' ≤ 9999
    · rw [if_pos hy'] at h
      exact (padded_ne_signed _ _ _ _ h.symm).elim
    · rw [if_neg hy'] at h
      obtain ⟨hsign, hpadded⟩ := List.cons.inj h
      have hneg := sign_injective hsign
      have hdigits := padded_injective hpadded
      omega

theorem append_padded_injective {s s' : List Char} {m n : Nat} (hm : m < 100) (hn : n < 100)
    (h : s ++ padded 2 m = s' ++ padded 2 n) : s = s' ∧ m = n := by
  have hlength := (length_padded_two hm).trans (length_padded_two hn).symm
  obtain ⟨hs, hpadded⟩ := List.append_inj' h hlength
  exact ⟨hs, padded_injective hpadded⟩

theorem hour_lt (t : Timestamp) : t.hour < 100 := by
  have ht := t.second_range
  rw [hour]
  omega

theorem minute_lt (t : Timestamp) : t.minute < 100 :=
  Nat.lt_trans (Nat.mod_lt _ (by decide)) (by decide)

/-- The minute of the calendar that a time is in. -/
def calendarMinute (t : Timestamp) : Date × Nat := (t.date, t.secondOfDay / 60)

def OnMinute (t : Timestamp) : Prop := t.secondOfDay % 60 = 0 ∧ t.nanos = 0

theorem eq_of_parts {t u : Timestamp} (hdate : t.date = u.date)
    (hseconds : t.secondOfDay = u.secondOfDay) (hnanos : t.nanos = u.nanos) : t = u := by
  cases t
  cases u
  cases hdate
  cases hseconds
  cases hnanos
  rfl

theorem OnMinute.eq_of_calendarMinute {t u : Timestamp} (ht : t.OnMinute) (hu : u.OnMinute)
    (h : t.calendarMinute = u.calendarMinute) : t = u := by
  obtain ⟨hdate, hminutes⟩ := Prod.mk.inj h
  have hseconds : t.secondOfDay = u.secondOfDay := by
    have ht := ht.1
    have hu := hu.1
    omega
  exact eq_of_parts hdate hseconds (ht.2.trans hu.2.symm)

theorem compact_eq_iff {t u : Timestamp} :
    t.compact = u.compact ↔ t.calendarMinute = u.calendarMinute := by
  -- All parts of a compact time but the year have two digits, so they are read from its end.
  constructor
  · intro h
    have htext := congrArg String.toList h
    simp only [compact, String.toList_ofList] at htext
    obtain ⟨htext, hminute⟩ := append_padded_injective t.minute_lt u.minute_lt htext
    obtain ⟨htext, hhour⟩ := append_padded_injective t.hour_lt u.hour_lt htext
    obtain ⟨htext, hday⟩ := append_padded_injective t.date.day_lt u.date.day_lt htext
    obtain ⟨hyear, hmonth⟩ := append_padded_injective t.date.month_lt u.date.month_lt htext
    have hdate : t.date = u.date := Date.eq_of_parts (yearText_injective hyear) hmonth hday
    rw [minute, minute] at hminute
    rw [hour, hour] at hhour
    rw [calendarMinute, calendarMinute, hdate]
    congr 1
    omega
  · intro h
    obtain ⟨hdate, hseconds⟩ := Prod.mk.inj h
    have hhour : t.hour = u.hour := by
      rw [hour, hour]
      omega
    have hminute : t.minute = u.minute := congrArg (· % 60) hseconds
    rw [compact, compact, hdate, hhour, hminute]

theorem mem_compact {t : Timestamp} {c : Char} (h : c ∈ t.compact.toList) :
    c.isDigit = true ∨ c = '-' ∨ c = '+' := by
  have hdigits : ∀ {width n : Nat}, c ∈ padded width n → c.isDigit = true ∨ c = '-' ∨ c = '+' :=
    fun h => .inl (isDigit_of_mem_padded h)
  simp only [compact, String.toList_ofList, List.mem_append] at h
  rcases h with (((hyear | hmonth) | hday) | hhour) | hminute
  · rw [yearText] at hyear
    split at hyear
    · exact hdigits hyear
    · rcases List.mem_cons.mp hyear with hsign | hyear
      · right
        split at hsign
        · exact .inl hsign
        · exact .inr hsign
      · exact hdigits hyear
  · exact hdigits hmonth
  · exact hdigits hday
  · exact hdigits hhour
  · exact hdigits hminute

theorem two_le_length_compact (t : Timestamp) : 2 ≤ t.compact.toList.length := by
  simp only [compact, String.toList_ofList, List.length_append, length_padded_two t.minute_lt]
  omega

end Timestamp

namespace Archive

theorem stamp_eq_iff {t u : Option Timestamp} :
    stamp t = stamp u ↔ t.map (·.calendarMinute) = u.map (·.calendarMinute) := by
  have hhyphen : ∀ t : Timestamp, t.compact ≠ "-" := by
    intro t h
    have hlength := t.two_le_length_compact
    rw [h] at hlength
    exact absurd hlength (by decide)
  cases t with
  | none =>
    cases u with
    | none => exact iff_of_true rfl rfl
    | some u => exact iff_of_false (fun h => hhyphen u h.symm) nofun
  | some t =>
    cases u with
    | none => exact iff_of_false (hhyphen t) nofun
    | some u => exact Timestamp.compact_eq_iff.trans Option.some_inj.symm

end Archive

end Synoptic
