import ControlPlane.Json.Codec

/-!
Moments of time in universal time, to the nanosecond, in the proleptic Gregorian calendar. A leap
second is the second number sixty of its minute. A moment is written with as many groups of three
digits after the second as it needs, and a year of four digits has no sign.
-/

namespace ControlPlane

def isLeapYear (year : Int) : Bool :=
  year % 4 == 0 && (year % 100 != 0 || year % 400 == 0)

def daysIn (year : Int) (month : Nat) : Nat :=
  if month = 2 then (if isLeapYear year then 29 else 28)
  else if month = 4 ∨ month = 6 ∨ month = 9 ∨ month = 11 then 30
  else 31

structure Date where
  year : Int
  month : Nat
  day : Nat
  deriving Repr, DecidableEq

namespace Date

def leastYear : Int := -262143
def greatestYear : Int := 262142

/-- A day of the calendar, in a year that is kept. -/
def IsValid (d : Date) : Prop :=
  (leastYear ≤ d.year ∧ d.year ≤ greatestYear) ∧ (1 ≤ d.month ∧ d.month ≤ 12)
    ∧ 1 ≤ d.day ∧ d.day ≤ daysIn d.year d.month

instance (d : Date) : Decidable d.IsValid := by
  unfold IsValid
  infer_instance

def next (d : Date) : Date :=
  if d.day < daysIn d.year d.month then { d with day := d.day + 1 }
  else if d.month < 12 then ⟨d.year, d.month + 1, 1⟩
  else ⟨d.year + 1, 1, 1⟩

def previous (d : Date) : Date :=
  if 1 < d.day then { d with day := d.day - 1 }
  else if 1 < d.month then ⟨d.year, d.month - 1, daysIn d.year (d.month - 1)⟩
  else ⟨d.year - 1, 12, 31⟩

def yearText (year : Int) : String :=
  if 0 ≤ year ∧ year ≤ 9999 then Text.decimalPadded 4 year.natAbs
  else (if year < 0 then "-" else "+") ++ Text.decimalPadded 4 year.natAbs

def text (d : Date) : String :=
  yearText d.year ++ "-" ++ Text.decimalPadded 2 d.month ++ "-" ++ Text.decimalPadded 2 d.day

end Date

structure TimeOfDay where
  hour : Nat
  minute : Nat
  second : Nat
  nanosecond : Nat
  deriving Repr, DecidableEq

namespace TimeOfDay

def IsValid (t : TimeOfDay) : Prop :=
  t.hour < 24 ∧ t.minute < 60 ∧ t.second ≤ 60 ∧ t.nanosecond < 10 ^ 9

instance (t : TimeOfDay) : Decidable t.IsValid := by
  unfold IsValid
  infer_instance

def fractionText (nanosecond : Nat) : String :=
  if nanosecond = 0 then ""
  else if nanosecond % 10 ^ 6 = 0 then "." ++ Text.decimalPadded 3 (nanosecond / 10 ^ 6)
  else if nanosecond % 10 ^ 3 = 0 then "." ++ Text.decimalPadded 6 (nanosecond / 10 ^ 3)
  else "." ++ Text.decimalPadded 9 nanosecond

def text (t : TimeOfDay) : String :=
  Text.decimalPadded 2 t.hour ++ ":" ++ Text.decimalPadded 2 t.minute ++ ":"
    ++ Text.decimalPadded 2 t.second ++ fractionText t.nanosecond

end TimeOfDay

structure Timestamp where
  date : Date
  time : TimeOfDay
  date_valid : date.IsValid
  time_valid : time.IsValid
  deriving Repr, DecidableEq

namespace Timestamp

def ofParts? (date : Date) (time : TimeOfDay) : Option Timestamp :=
  if h : date.IsValid ∧ time.IsValid then some ⟨date, time, h.1, h.2⟩ else none

/-- The moment at which clocks that are `offset` minutes ahead show a date and a time. -/
def ofLocal? (date : Date) (time : TimeOfDay) (offset : Int) : Option Timestamp := do
  let shown ← ofParts? date time
  let minutes : Int := shown.time.hour * 60 + shown.time.minute - offset
  let day := if minutes < 0 then date.previous else if minutes < 1440 then date else date.next
  let minute := (minutes % 1440).toNat
  ofParts? day { time with hour := minute / 60, minute := minute % 60 }

def text (t : Timestamp) : String := t.date.text ++ "T" ++ t.time.text ++ "Z"

def epoch : Timestamp :=
  ⟨⟨1970, 1, 1⟩, ⟨0, 0, 0, 0⟩, by decide, by decide⟩

instance : Inhabited Timestamp := ⟨epoch⟩

theorem ofParts?_eq_some (t : Timestamp) : ofParts? t.date t.time = some t :=
  dif_pos ⟨t.date_valid, t.time_valid⟩

theorem ofLocal?_zero (t : Timestamp) : ofLocal? t.date t.time 0 = some t := by
  obtain ⟨hh, hm, _, _⟩ := t.time_valid
  have hday : ¬ ((t.time.hour : Int) * 60 + t.time.minute - 0 < 0) := by omega
  have hlast : (t.time.hour : Int) * 60 + t.time.minute - 0 < 1440 := by omega
  have hminute : (((t.time.hour : Int) * 60 + t.time.minute - 0) % 1440).toNat =
      t.time.hour * 60 + t.time.minute := by omega
  simp only [ofLocal?, ofParts?_eq_some, Option.bind_eq_bind, Option.bind_some, if_neg hday,
    if_pos hlast, hminute]
  have hour : (t.time.hour * 60 + t.time.minute) / 60 = t.time.hour := by omega
  have minute : (t.time.hour * 60 + t.time.minute) % 60 = t.time.minute := by omega
  rw [hour, minute]
  exact ofParts?_eq_some t

end Timestamp

end ControlPlane
