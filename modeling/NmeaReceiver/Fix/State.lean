import NmeaReceiver.Decimal.Written
import NmeaReceiver.Fix.Extract

/-! The latest fix of each category and the poll under way: a poll waits for the next position
and the next time, and no other is accepted until both have come. -/
namespace NmeaReceiver.Fix
open NmeaReceiver.Calendar NmeaReceiver.Decimal

structure State where
  latitude : Option Binary64
  longitude : Option Binary64
  elevation : Option Binary64
  utc : Option Instant
  offsetHours : Option Binary64
  status : Option Status
  locationPending : Bool
  timePending : Bool
  deriving DecidableEq, Repr

namespace State

def empty : State := ⟨none, none, none, none, none, none, false, false⟩

def waiting (s : State) : Bool := s.locationPending || s.timePending

def requestPoll (s : State) : Bool × State :=
  if s.waiting then (false, s) else (true, { s with locationPending := true, timePending := true })

def applyPosition (s : State) : Option Position → State
  | none => s
  | some p => { s with
      latitude := some p.latitude
      longitude := some p.longitude
      elevation := p.elevation.or s.elevation
      locationPending := false }

def applyTime (s : State) : Option TimeFix → State
  | none => s
  | some t => { s with utc := some t.utc, offsetHours := some t.offsetHours, timePending := false }

def applyStatus (s : State) : Option Status → State
  | none => s
  | some status => { s with status := some status }

def apply (s : State) (update : Update) : State :=
  ((s.applyPosition update.position).applyTime update.time).applyStatus update.status

def ingest (clock : Clock) (s : State) (line : List Char) : State :=
  match extract clock (Sentence.ofLine line) with
  | .ok update => s.apply update
  | .error _ => s

def utcText (s : State) : Option String := s.utc.map Instant.text

def offsetText (s : State) : Option String :=
  s.offsetHours.map fun hours => Text.alignRight 4 hours.twoPlaces

theorem requestPollAccepted (s : State) :
    s.requestPoll.1 = true ↔ s.locationPending = false ∧ s.timePending = false := by
  unfold requestPoll waiting
  cases s.locationPending <;> cases s.timePending <;> simp

theorem requestPollBusy {s : State} (busy : s.requestPoll.1 = false) : s.requestPoll.2 = s := by
  unfold requestPoll at busy ⊢
  split at busy <;> simp_all

end State
end NmeaReceiver.Fix
