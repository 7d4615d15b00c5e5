import NmeaReceiver.Calendar.Date
import NmeaReceiver.Text.Written

/-! Instants: seconds since 1970-01-01T00:00:00 UTC and microseconds, a leap second being the
second before it with a million microseconds or more. -/
namespace NmeaReceiver.Calendar
open NmeaReceiver.Text

structure TimeOfDay where
  hours : Nat
  minutes : Nat
  seconds : Nat
  microseconds : Nat
  deriving DecidableEq, Repr

def TimeOfDay.Exists (t : TimeOfDay) : Prop :=
  t.hours < 24 ∧ t.minutes < 60 ∧ t.seconds < 60 ∧
  (t.microseconds < 1000000 ∨ (t.seconds = 59 ∧ t.microseconds < 2000000))

instance (t : TimeOfDay) : Decidable t.Exists := by unfold TimeOfDay.Exists; infer_instance

def TimeOfDay.secondOfDay (t : TimeOfDay) : Nat := t.hours * 3600 + t.minutes * 60 + t.seconds

structure Instant where
  seconds : Int
  microseconds : Nat
  deriving DecidableEq, Repr

namespace Instant

def of? (d : Date) (t : TimeOfDay) : Option Instant :=
  if d.Exists ∧ t.Exists then some ⟨d.number * 86400 + t.secondOfDay, t.microseconds⟩ else none

def date (i : Instant) : Date := .ofNumber (i.seconds / 86400)

def time (i : Instant) : TimeOfDay :=
  let second := (i.seconds % 86400).toNat
  ⟨second / 3600, second / 60 % 60, second % 60, i.microseconds⟩

theorem timeOf {d t i} (made : of? d t = some i) : i.time = t := by
  unfold of? at made
  split at made <;> try contradiction
  rename_i real
  obtain ⟨_, hours, minutes, seconds, _⟩ := real
  cases Option.some.inj made
  have within : t.secondOfDay < 86400 := by unfold TimeOfDay.secondOfDay; omega
  have second : ((d.number * 86400 + (t.secondOfDay : Int)) % 86400).toNat = t.secondOfDay := by omega
  unfold time
  simp only [second]
  unfold TimeOfDay.secondOfDay
  cases t
  simp only [TimeOfDay.mk.injEq, and_true]
  dsimp only at hours minutes seconds
  omega

def yearText (year : Int) : String :=
  if 0 ≤ year ∧ year ≤ 9999 then padded 4 year.toNat
  else (if year < 0 then "-" else "+") ++ padded 4 year.natAbs

def text (i : Instant) : String :=
  let d := i.date
  let t := i.time
  yearText d.year ++ "-" ++ padded 2 d.month ++ "-" ++ padded 2 d.day ++ "T"
    ++ padded 2 t.hours ++ ":" ++ padded 2 t.minutes ++ ":"
    ++ padded 2 (t.seconds + t.microseconds / 1000000)

def fractionText (microseconds : Nat) : String :=
  let rest := microseconds % 1000000
  if rest = 0 then ""
  else if rest % 1000 = 0 then "." ++ padded 3 (rest / 1000)
  else "." ++ padded 6 rest

def timestamp (i : Instant) : String := i.text ++ fractionText i.microseconds ++ "Z"

end Instant
end NmeaReceiver.Calendar
