import Mathlib.Tactic.IntervalCases
import Synoptic.Proofs.Filing.Stamp

namespace Synoptic.Date

def marchYear (d : Date) : Int := if d.month ≤ 2 then d.year - 1 else d.year

def monthFromMarch (d : Date) : Int := (d.month + 9) % 12

def daysBefore (month : Int) : Int := (153 * month + 2) / 5

def daysBeforeYear (year : Int) : Int := 365 * year + year / 4 - year / 100 + year / 400

def dayFromMarch (d : Date) : Int := daysBefore d.monthFromMarch + d.day - 1

theorem dayNumber_eq (d : Date) :
    d.dayNumber = daysBeforeYear d.marchYear + d.dayFromMarch - 719468 := by
  change d.marchYear / 400 * 146097 + d.marchYear % 400 * 365 + d.marchYear % 400 / 4 -
    d.marchYear % 400 / 100 + (daysBefore d.monthFromMarch + d.day - 1) - 719468 = _
  rw [daysBeforeYear, dayFromMarch]
  omega

theorem daysBeforeYear_le {y y' : Int} (h : y ≤ y') : daysBeforeYear y ≤ daysBeforeYear y' := by
  simp only [daysBeforeYear]
  omega

theorem daysBeforeYear_era {year : Int} (h : 0 ≤ year ∧ year < 400) (era : Int) :
    daysBeforeYear (year + era * 400) = era * 146097 + (365 * year + year / 4 - year / 100) := by
  simp only [daysBeforeYear]
  omega

theorem daysBefore_le {m m' : Int} (h : m ≤ m') : daysBefore m ≤ daysBefore m' := by
  simp only [daysBefore]
  omega

theorem daysInMonth_le (year : Int) {month : Nat} (h : 1 ≤ month ∧ month ≤ 12) :
    (daysInMonth year month : Int) ≤
      daysBefore ((month + 9) % 12 + 1) - daysBefore ((month + 9) % 12) := by
  obtain ⟨hfirst, hlast⟩ := h
  interval_cases month
  case «2» =>
    rw [daysInMonth]
    split <;> decide
  all_goals simp [daysInMonth, daysBefore]

theorem dayFromMarch_lt_daysBefore (d : Date) :
    d.dayFromMarch < daysBefore (d.monthFromMarch + 1) := by
  have hmonth := daysInMonth_le d.year d.month_range
  have hday := d.day_range.2
  rw [dayFromMarch]
  change _ ≤ daysBefore (d.monthFromMarch + 1) - daysBefore d.monthFromMarch at hmonth
  omega

theorem daysBefore_le_dayFromMarch (d : Date) : daysBefore d.monthFromMarch ≤ d.dayFromMarch := by
  have hday := d.day_range.1
  rw [dayFromMarch]
  omega

theorem dayFromMarch_lt (d : Date) :
    d.dayFromMarch < daysBeforeYear (d.marchYear + 1) - daysBeforeYear d.marchYear := by
  have hrange := d.month_range
  by_cases hmonth : d.month = 2
  · have hday := d.day_range.2
    have hleap : isLeapYear d.year = true →
        d.year % 4 = 0 ∧ (d.year % 100 ≠ 0 ∨ d.year % 400 = 0) := by
      simp [isLeapYear]
    simp only [hmonth, daysInMonth] at hday
    simp only [dayFromMarch, marchYear, monthFromMarch, daysBefore, daysBeforeYear, hmonth]
    split at hday
    · rename_i h
      have hyear := hleap h
      simp
      omega
    · simp
      omega
  · have hmonths : d.monthFromMarch + 1 ≤ 11 := by
      rw [monthFromMarch]
      omega
    have hbefore := daysBefore_le hmonths
    have hlast := d.dayFromMarch_lt_daysBefore
    have hyear : 365 ≤ daysBeforeYear (d.marchYear + 1) - daysBeforeYear d.marchYear := by
      simp only [daysBeforeYear]
      omega
    have heleven : daysBefore 11 = 337 := rfl
    omega

theorem marchYear_le {d d' : Date} (h : d.dayNumber ≤ d'.dayNumber) :
    d.marchYear ≤ d'.marchYear := by
  by_contra hlt
  have hyears : daysBeforeYear (d'.marchYear + 1) ≤ daysBeforeYear d.marchYear :=
    daysBeforeYear_le (by omega)
  have hlast := d'.dayFromMarch_lt
  have hfirst := d.daysBefore_le_dayFromMarch
  have hnonneg : 0 ≤ daysBefore d.monthFromMarch := by
    simp only [daysBefore, monthFromMarch]
    omega
  rw [dayNumber_eq, dayNumber_eq] at h
  omega

theorem monthFromMarch_le {d d' : Date} (h : d.dayFromMarch ≤ d'.dayFromMarch) :
    d.monthFromMarch ≤ d'.monthFromMarch := by
  by_contra hlt
  have hmonths : daysBefore (d'.monthFromMarch + 1) ≤ daysBefore d.monthFromMarch :=
    daysBefore_le (by omega)
  have hlast := d'.dayFromMarch_lt_daysBefore
  have hfirst := d.daysBefore_le_dayFromMarch
  omega

theorem dayNumber_injective {d d' : Date} (h : d.dayNumber = d'.dayNumber) : d = d' := by
  have hyear : d.marchYear = d'.marchYear :=
    Int.le_antisymm (marchYear_le (Int.le_of_eq h)) (marchYear_le (Int.le_of_eq h.symm))
  rw [dayNumber_eq, dayNumber_eq, hyear] at h
  have hdays : d.dayFromMarch = d'.dayFromMarch := by omega
  have hmonths : d.monthFromMarch = d'.monthFromMarch :=
    Int.le_antisymm (monthFromMarch_le (Int.le_of_eq hdays))
      (monthFromMarch_le (Int.le_of_eq hdays.symm))
  have hmonth : d.month = d'.month := by
    have hrange := d.month_range
    have hrange' := d'.month_range
    simp only [monthFromMarch] at hmonths
    omega
  apply eq_of_parts _ hmonth
  · simp only [dayFromMarch, hmonths] at hdays
    omega
  · simp only [marchYear, hmonth] at hyear
    split at hyear <;> omega

theorem dayOfYear_bounds {day century year : Int} (hday : 0 ≤ day) (hlast : day < 146096)
    (hcentury : day / 36524 = century) (hyear : year = (day - day / 1460 + century) / 365) :
    0 ≤ year ∧ year < 400 ∧ 0 ≤ day - (365 * year + year / 4 - year / 100) ∧
      day - (365 * year + year / 4 - year / 100) ≤ 365 := by
  have hcases : century = 0 ∨ century = 1 ∨ century = 2 ∨ century = 3 := by omega
  obtain rfl | rfl | rfl | rfl := hcases
  · have hhundreds : year / 100 = 0 := by omega
    omega
  · have hhundreds : year / 100 = 1 := by omega
    omega
  · have hhundreds : year / 100 = 2 := by omega
    omega
  · have hhundreds : year / 100 = 3 := by omega
    omega

theorem dayNumber_of_ofDayNumber? {n : Int} {d : Date} (h : ofDayNumber? n = some d) :
    d.dayNumber = n := by
  simp only [ofDayNumber?] at h
  generalize hera : (n + 719468) / 146097 = era at h
  generalize hday : (n + 719468) % 146097 = day at h
  generalize hyear : (day - day / 1460 + day / 36524 - day / 146096) / 365 = year at h
  generalize hdays : day - (365 * year + year / 4 - year / 100) = days at h
  generalize hmonth : (5 * days + 2) / 153 = month at h
  generalize hcivil : year + era * 400 + (if (month + 2) % 12 + 1 ≤ 2 then 1 else 0) = civil at h
  have hbounds : 0 ≤ year ∧ year < 400 ∧ 0 ≤ days ∧ days ≤ 365 := by
    by_cases hlast : day < 146096
    · have hformula : year = (day - day / 1460 + day / 36524) / 365 := by omega
      have hdayOfYear := dayOfYear_bounds (by omega) hlast rfl hformula
      rw [hdays] at hdayOfYear
      exact hdayOfYear
    · have hend : day = 146096 := by omega
      subst hend
      omega
  have hmonths : 0 ≤ month ∧ month < 12 := by omega
  obtain ⟨hfirst, hlast, hnonneg, hmost⟩ := hbounds
  have hmonths : 0 ≤ month ∧ month < 12 := by omega
  have hnumber : n + 719468 = era * 146097 + day := by omega
  rw [ofCivil?] at h
  split at h
  · cases h
    have hyears := daysBeforeYear_era ⟨hfirst, hlast⟩ era
    have hmarch : (if ((month + 2) % 12 + 1).toNat ≤ 2 then civil - 1 else civil) =
        year + era * 400 := by
      split at hcivil <;> split <;> omega
    have hfrom : ((((month + 2) % 12 + 1).toNat : Int) + 9) % 12 = month := by omega
    have hdate : (((days - (153 * month + 2) / 5 + 1).toNat : Nat) : Int) =
        days - (153 * month + 2) / 5 + 1 := by omega
    simp only [dayNumber_eq, marchYear, monthFromMarch, dayFromMarch, daysBefore, hmarch, hfrom,
      hdate, hyears]
    omega
  · cases h

end Synoptic.Date
