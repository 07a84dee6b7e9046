import Synoptic.Proofs.Time.Calendar

namespace Synoptic.Timestamp

def StaysInCalendar (t : Timestamp) (seconds : Int) : Prop := (t.shift? seconds).isSome = true

instance (t : Timestamp) (seconds : Int) : Decidable (t.StaysInCalendar seconds) :=
  inferInstanceAs (Decidable (_ = _))

theorem shift_spec {t : Timestamp} {seconds : Int} (hne : seconds ≠ 0)
    (h : t.StaysInCalendar seconds) :
    (t.shift seconds).date.dayNumber =
        t.date.dayNumber + (t.shiftStart seconds + seconds) / 86400 ∧
      ((t.shift seconds).secondOfDay : Int) = (t.shiftStart seconds + seconds) % 86400 := by
  obtain ⟨u, hu⟩ := Option.isSome_iff_exists.mp h
  rw [shift, hu, Option.getD_some]
  rw [shift?, if_neg hne] at hu
  obtain ⟨date, hdate, rfl⟩ := Option.map_eq_some_iff.mp hu
  refine ⟨Date.dayNumber_of_ofDayNumber? hdate, ?_⟩
  exact Int.toNat_of_nonneg (Int.emod_nonneg _ (by decide))

theorem calendarMinute_eq_iff {t u : Timestamp} :
    t.calendarMinute = u.calendarMinute ↔
      t.date.dayNumber = u.date.dayNumber ∧ t.secondOfDay / 60 = u.secondOfDay / 60 := by
  rw [calendarMinute, calendarMinute, Prod.mk.injEq]
  constructor
  · rintro ⟨hdate, hminute⟩
    exact ⟨congrArg _ hdate, hminute⟩
  · rintro ⟨hday, hminute⟩
    exact ⟨Date.dayNumber_injective hday, hminute⟩

/-- A shift by minutes stays in the minute only if it is none, or if a leap second at the end of the
minute is left backward by one: the shift then starts from the next minute. -/
theorem calendarMinute_shift_iff {t : Timestamp} {minutes : Int}
    (h : t.StaysInCalendar (60 * minutes)) :
    (t.shift (60 * minutes)).calendarMinute = t.calendarMinute ↔
      minutes = 0 ∨ (t.inLeapSecond = true ∧ t.second = 59) ∧ minutes = -1 := by
  by_cases hzero : minutes = 0
  · subst hzero
    exact iff_of_true rfl (.inl rfl)
  · obtain ⟨hday, hsecond⟩ := shift_spec (by omega) h
    have hrange := t.second_range
    rw [calendarMinute_eq_iff]
    by_cases hleap : t.inLeapSecond = true ∧ 60 * minutes < 0
    · have hstart : t.shiftStart (60 * minutes) = t.secondOfDay + 1 := by
        rw [shiftStart, hleap.1, decide_eq_true hleap.2]
        rfl
      rw [hstart] at hday hsecond
      simp only [hzero, hleap.1, true_and, false_or, second]
      omega
    · have hstart : t.shiftStart (60 * minutes) = t.secondOfDay := by
        rw [shiftStart, if_neg]
        rw [Bool.and_eq_true, decide_eq_true_eq]
        exact hleap
      rw [hstart] at hday hsecond
      apply iff_of_false
      · omega
      · rintro (hminutes | ⟨⟨hpast, _⟩, hminutes⟩)
        · exact hzero hminutes
        · exact hleap ⟨hpast, by omega⟩

end Synoptic.Timestamp
