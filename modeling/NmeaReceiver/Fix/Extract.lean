import NmeaReceiver.Calendar.Zone
import NmeaReceiver.Fix.Update
import NmeaReceiver.Sentence.Basic

/-! The update a sentence carries, all of it or none. The host's clock completes sentences that carry
no date and gives the local offset of an instant in hours. -/
namespace NmeaReceiver.Fix
open NmeaReceiver.Calendar NmeaReceiver.Decimal NmeaReceiver.Sentence

structure Clock where
  now : Instant
  offsetHours : Instant → Binary64

def Clock.fixed (now : Instant) (hours : Binary64) : Clock := ⟨now, fun _ => hours⟩

def hoursOf (seconds : Int) : Binary64 := (Binary64.ofInt seconds).divNat 3600

def Clock.inZone (now : Instant) (zone : Zone) : Clock :=
  ⟨now, fun instant => ((zone.offsetAt? instant).map hoursOf).getD .nan⟩

inductive Needed where
  | position
  | time
  | date
  | day
  | month
  | year
  deriving DecidableEq, Repr

def Needed.name : Needed → String
  | .position => "position"
  | .time => "time"
  | .date => "date"
  | .day => "day"
  | .month => "month"
  | .year => "year"

inductive Failure where
  | sentence (refusal : Refusal)
  | unrecognized (body : List Char)
  | notValid (kind : Kind)
  | missing (kind : Kind) (field : Needed)
  | outOfRange (kind : Kind) (date : Date) (time : TimeOfDay)
  deriving DecidableEq, Repr

def dateText (d : Date) : String :=
  "Date \x7b day: " ++ toString d.day ++ ", month: " ++ toString d.month ++ ", year: "
    ++ toString d.year ++ " \x7d"

def timeText (t : TimeOfDay) : String :=
  "Time \x7b hours: " ++ toString t.hours ++ ", minutes: " ++ toString t.minutes
    ++ ", seconds: " ++ toString t.seconds ++ ", microseconds: " ++ toString t.microseconds
    ++ " \x7d"

def Failure.message : Failure → String
  | .sentence refusal => refusal.message
  | .unrecognized body => "unsupported sentence " ++ String.ofList body
  | .notValid kind => kind.name ++ " reports no fix"
  | .missing kind field => kind.name ++ " has no " ++ field.name
  | .outOfRange kind date time =>
    kind.name ++ " date " ++ dateText date ++ " time " ++ timeText time ++ " is not a valid instant"

def required {α : Type} (kind : Kind) (field : Needed) : Option α → Except Failure α
  | some value => .ok value
  | none => .error (.missing kind field)

def instant (kind : Kind) (date : Date) (time : TimeOfDay) : Except Failure Instant :=
  match Instant.of? date time with
  | some utc => .ok utc
  | none => .error (.outOfRange kind date time)

def positionOf (place : Coordinates) (elevation : Option Binary64) : Position :=
  ⟨place.latitude, normalizeLongitude place.longitude, elevation⟩

def ofRmc (clock : Clock) (r : Rmc) : Except Failure Update :=
  if r.active then do
    let place ← required .rmc .position r.position
    let time ← required .rmc .time r.time
    let date ← required .rmc .date r.date
    let utc ← instant .rmc date time
    return ⟨some (positionOf place none), some ⟨utc, clock.offsetHours utc⟩, none⟩
  else .error (.notValid .rmc)

/-- A GGA sentence carries no date: it is dated with the clock's UTC day, so one sent just
before midnight and read after it is a day late. -/
def ofGga (clock : Clock) (g : Gga) : Except Failure Update :=
  if g.quality = 0 then .error (.notValid .gga)
  else do
    let place ← required .gga .position g.position
    let time ← required .gga .time g.time
    let utc ← instant .gga clock.now.date time
    return ⟨some (positionOf place g.altitude), some ⟨utc, clock.offsetHours utc⟩, none⟩

def statusOf : Option Nat → Status
  | some 1 => .noFix
  | some 2 => .fix2D
  | some 3 => .fix3D
  | _ => .unknown

def ofGsa (g : Gsa) : Update := ⟨none, none, some (statusOf g.fixType)⟩

/-- Zone minutes go away from zero with the hours; beside zero hours they count east. -/
def zoneOffset (hours : Int) (minutes : Option Nat) : Binary64 :=
  let part := (Binary64.ofNat (minutes.getD 0)).divNat 60
  if hours < 0 then (Binary64.ofInt hours).sub part else (Binary64.ofInt hours).add part

def ofZda (clock : Clock) (z : Zda) : Except Failure Update := do
  let time ← required .zda .time z.time
  let day ← required .zda .day z.day
  let month ← required .zda .month z.month
  let year ← required .zda .year z.year
  let utc ← instant .zda ⟨year, month, day⟩ time
  let offset := match z.zoneHours with
    | some hours => zoneOffset hours z.zoneMinutes
    | none => clock.offsetHours utc
  return ⟨none, some ⟨utc, offset⟩, none⟩

def extract (clock : Clock) : Sentence → Except Failure Update
  | .rmc record => ofRmc clock record
  | .gga record => ofGga clock record
  | .gsa record => .ok (ofGsa record)
  | .zda record => ofZda clock record
  | .unrecognized body => .error (.unrecognized body)
  | .invalid refusal => .error (.sentence refusal)

end NmeaReceiver.Fix
