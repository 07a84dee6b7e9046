import Synoptic.Time.Calendar
import Synoptic.Text.Blank

namespace Synoptic

/-- A date and a time of day. Nanoseconds of a thousand million and more lie in a leap second, which
may follow any second. -/
structure Timestamp where
  date : Date
  secondOfDay : Nat
  nanos : Nat
  second_range : secondOfDay < 86400
  nanos_range : nanos < 2000000000
  deriving DecidableEq

namespace Timestamp

def epoch : Timestamp :=
  ⟨⟨1970, 1, 1, by decide, by decide, by decide⟩, 0, 0, by decide, by decide⟩

def hour (t : Timestamp) : Nat := t.secondOfDay / 3600

def minute (t : Timestamp) : Nat := t.secondOfDay / 60 % 60

def second (t : Timestamp) : Nat := t.secondOfDay % 60

def inLeapSecond (t : Timestamp) : Bool := 1000000000 ≤ t.nanos

/-- The second of the day that a shift starts from: the one after a leap second that is left
backward, else the one before it. -/
def shiftStart (t : Timestamp) (seconds : Int) : Int :=
  if t.inLeapSecond && seconds < 0 then t.secondOfDay + 1 else t.secondOfDay

/-- The timestamp some seconds later, if the calendar has it. No shift at all stays in a leap second. -/
def shift? (t : Timestamp) (seconds : Int) : Option Timestamp :=
  if seconds = 0 then some t
  else
    let total := t.shiftStart seconds + seconds
    (Date.ofDayNumber? (t.date.dayNumber + total / 86400)).map fun date =>
      { date
        secondOfDay := (total % 86400).toNat
        nanos := t.nanos % 1000000000
        second_range := by omega
        nanos_range := by omega }

/-- A shift out of the calendar is not made. -/
def shift (t : Timestamp) (seconds : Int) : Timestamp := (t.shift? seconds).getD t

def padded (width n : Nat) : List Char :=
  let digits := Nat.toDigits 10 n
  List.replicate (width - digits.length) '0' ++ digits

def yearText (year : Int) : List Char :=
  if 0 ≤ year ∧ year ≤ 9999 then padded 4 year.toNat
  else (if year < 0 then '-' else '+') :: padded 4 year.natAbs

def dateText (d : Date) : List Char :=
  yearText d.year ++ '-' :: padded 2 d.month ++ '-' :: padded 2 d.day

def fractionText (nanos : Nat) : List Char :=
  if nanos = 0 then []
  else if nanos % 1000000 = 0 then '.' :: padded 3 (nanos / 1000000)
  else if nanos % 1000 = 0 then '.' :: padded 6 (nanos / 1000)
  else '.' :: padded 9 nanos

def clockText (t : Timestamp) : List Char :=
  padded 2 t.hour ++ ':' :: padded 2 t.minute ++ ':' ::
    padded 2 (if t.inLeapSecond then t.second + 1 else t.second) ++
    fractionText (t.nanos % 1000000000)

def display (t : Timestamp) : String :=
  String.ofList (dateText t.date ++ ' ' :: clockText t)

def serial (t : Timestamp) : String :=
  String.ofList (dateText t.date ++ 'T' :: clockText t)

def compact (t : Timestamp) : String :=
  String.ofList (yearText t.date.year ++ padded 2 t.date.month ++ padded 2 t.date.day ++
    padded 2 t.hour ++ padded 2 t.minute)

def natural? (width : Nat) (s : List Char) : Option (Nat × List Char) :=
  let digits := (s.take width).takeWhile Char.isDigit
  if digits.isEmpty then none
  else some (digits.foldl (fun n c => 10 * n + (c.toNat - '0'.toNat)) 0, s.drop digits.length)

def field? (s : List Char) : Option (Nat × List Char) := natural? 2 (Text.trimStart s)

def year? (s : List Char) : Option (Int × List Char) :=
  match Text.trimStart s with
  | '-' :: r => (natural? r.length r).map fun (n, rest) => (-(n : Int), rest)
  | '+' :: r => (natural? r.length r).map fun (n, rest) => ((n : Int), rest)
  | r => (natural? 4 r).map fun (n, rest) => ((n : Int), rest)

def mark? (c : Char) (s : List Char) : Option (List Char) :=
  match Text.trimStart s with
  | x :: r => if x = c then some r else none
  | [] => none

/-- An optional fraction of a second in nanoseconds; digits past the ninth are dropped. -/
def fraction? (s : List Char) : Option (Nat × List Char) :=
  match s with
  | '.' :: r => do
    let (n, rest) ← natural? 9 r
    some (n * Nat.pow 10 (9 - (r.length - rest.length)), rest.dropWhile Char.isDigit)
  | r => some (0, r)

/-- The time of day with these parts, where second 60 is the leap second after second 59. -/
def ofParts? (date : Date) (hour minute second nanos : Nat) : Option Timestamp :=
  if h : hour < 24 ∧ minute < 60 ∧ second < 60 ∧ nanos < 1000000000 then
    some
      { date
        secondOfDay := 3600 * hour + 60 * minute + second
        nanos
        second_range := by omega
        nanos_range := by omega }
  else if h : hour < 24 ∧ minute < 60 ∧ second = 60 ∧ nanos < 1000000000 then
    some
      { date
        secondOfDay := 3600 * hour + 60 * minute + 59
        nanos := nanos + 1000000000
        second_range := by omega
        nanos_range := by omega }
  else none

def ofChars? (s : List Char) : Option Timestamp := do
  let (year, s) ← year? s
  let s ← mark? '-' s
  let (month, s) ← field? s
  let s ← mark? '-' s
  let (day, s) ← field? s
  let s ← mark? 'T' s
  let (hour, s) ← field? s
  let s ← mark? ':' s
  let (minute, s) ← field? s
  let s ← mark? ':' s
  let (second, s) ← field? s
  let (nanos, s) ← fraction? s
  let date ← Date.ofCivil? year month day
  if (Text.trimStart s).isEmpty then ofParts? date hour minute second nanos else none

def ofString? (s : String) : Option Timestamp := ofChars? s.toList

end Timestamp

end Synoptic
