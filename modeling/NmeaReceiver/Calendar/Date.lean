/-! Days of the proleptic Gregorian calendar and their numbers, counted from 1970-01-01. -/
namespace NmeaReceiver.Calendar

structure Date where
  year : Int
  month : Nat
  day : Nat
  deriving DecidableEq, Repr

def isLeap (year : Int) : Bool :=
  year % 4 == 0 && (year % 100 != 0 || year % 400 == 0)

def monthLengths (year : Int) : List Nat :=
  [31, if isLeap year then 29 else 28, 31, 30, 31, 30, 31, 31, 30, 31, 30, 31]

def daysInMonth (year : Int) (month : Nat) : Nat :=
  if month = 0 then 0 else (monthLengths year).getD (month - 1) 0

def firstYear : Int := -262143
def lastYear : Int := 262142

def Date.Exists (d : Date) : Prop :=
  firstYear ≤ d.year ∧ d.year ≤ lastYear ∧ 1 ≤ d.day ∧ d.day ≤ daysInMonth d.year d.month

instance (d : Date) : Decidable d.Exists := by unfold Date.Exists; infer_instance

def daysBefore (year : Int) : Int :=
  365 * (year - 1) + (year - 1) / 4 - (year - 1) / 100 + (year - 1) / 400

def epochDays : Int := 719162

def daysBeforeMonth (year : Int) (month : Nat) : Nat :=
  ((monthLengths year).take (month - 1)).foldl (fun days length => days + length) 0

def Date.number (d : Date) : Int :=
  daysBefore d.year + daysBeforeMonth d.year d.month + d.day - 1 - epochDays

def splitMonth : List Nat → Nat → Nat → Nat × Nat
  | [], month, left => (month, left + 1)
  | length :: rest, month, left =>
    if left < length then (month, left + 1) else splitMonth rest (month + 1) (left - length)

def yearHolding (days : Int) : Int :=
  let near := days * 400 / 146097 + 1
  if days < daysBefore near then near - 1
  else if daysBefore (near + 1) ≤ days then near + 1
  else near

def Date.ofNumber (n : Int) : Date :=
  let days := n + epochDays
  let year := yearHolding days
  let (month, day) := splitMonth (monthLengths year) 1 (days - daysBefore year).toNat
  ⟨year, month, day⟩

def weekday (n : Int) : Nat := ((n + 4) % 7).toNat

theorem yearLength (year : Int) :
    daysBefore (year + 1) - daysBefore year = if isLeap year then 366 else 365 := by
  unfold daysBefore isLeap
  simp only [Bool.and_eq_true, Bool.or_eq_true, beq_iff_eq, bne_iff_ne, ne_eq]
  split <;> omega

theorem yearHoldingBounds (days : Int) :
    daysBefore (yearHolding days) ≤ days ∧ days < daysBefore (yearHolding days + 1) := by
  unfold yearHolding daysBefore
  dsimp only
  split
  · omega
  · split <;> omega

end NmeaReceiver.Calendar
