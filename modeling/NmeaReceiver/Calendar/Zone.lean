import NmeaReceiver.Calendar.Instant
import NmeaReceiver.Text.Reader

/-! Local time in a zone described by a rule such as `EST5EDT,M3.2.0,M11.1.0`: a standard
offset and, with it, a daylight offset between two yearly turns. -/
namespace NmeaReceiver.Calendar
open NmeaReceiver.Text

inductive YearDay where
  | inMonth (month week weekday : Nat)
  | withoutLeapDay (day : Nat)
  | counted (day : Nat)
  deriving DecidableEq, Repr

def YearDay.number (year : Int) : YearDay → Int
  | .inMonth month week day =>
    let first := Date.number ⟨year, month, 1⟩
    let start := (day + 7 - weekday first) % 7
    let place := start + 7 * (week - 1)
    first + (if daysInMonth year month ≤ place then place - 7 else place : Nat)
  | .withoutLeapDay day =>
    Date.number ⟨year, 1, 1⟩ + day - 1 + if isLeap year && 60 ≤ day then 1 else 0
  | .counted day => Date.number ⟨year, 1, 1⟩ + day

structure Turn where
  day : YearDay
  time : Nat
  deriving DecidableEq, Repr

def Turn.second (turn : Turn) (offset : Int) (year : Int) : Int :=
  turn.day.number year * 86400 + turn.time - offset

structure Daylight where
  offset : Int
  starts : Turn
  ends : Turn
  deriving DecidableEq, Repr

structure Zone where
  standard : Int
  daylight : Option Daylight
  deriving DecidableEq, Repr

namespace Zone

def utc : Zone := ⟨0, none⟩

/-- Whether daylight time holds at a UTC second. A turn may fall outside the year that names
it, so the neighbouring year's turns are asked as well. -/
def daylightAt (standard : Int) (d : Daylight) (second : Int) : Bool :=
  let year := (Date.ofNumber (second / 86400)).year
  let starts := d.starts.second standard
  let ends := d.ends.second d.offset
  if starts year ≤ ends year then
    if second < starts year then
      decide (second < ends (year - 1) ∧ starts (year - 1) ≤ second)
    else if second < ends year then true
    else decide (starts (year + 1) ≤ second ∧ second < ends (year + 1))
  else
    if second < ends year then
      if second < starts (year - 1) then decide (second < ends (year - 1)) else true
    else if second < starts year then false
    else if ends (year + 1) ≤ second then decide (starts (year + 1) ≤ second)
    else true

def ruledAt (zone : Zone) (i : Instant) : Int :=
  match zone.daylight with
  | none => zone.standard
  | some d => if daylightAt zone.standard d i.seconds then d.offset else zone.standard

def offsetAt? (zone : Zone) (i : Instant) : Option Int :=
  if (zone.ruledAt i).natAbs < 86400 then some (zone.ruledAt i) else none

def isNameChar (c : Char) : Bool := c.isAlphanum || c == '+' || c == '-'

def name : Reader Unit := do
  let text ← if ← Reader.optional '<' then do
      let text ← Reader.takeWhile (· != '>')
      Reader.char '>'
      pure text
    else Reader.takeWhile Char.isAlpha
  if 3 ≤ text.length ∧ text.length ≤ 7 ∧ text.all isNameChar then return () else failure

def clockTime (last : Nat) : Reader Nat := do
  let hours ← Reader.natural
  let minutes ← if ← Reader.optional ':' then Reader.natural else pure 0
  let seconds ← if ← Reader.optional ':' then Reader.natural else pure 0
  if hours ≤ last ∧ minutes ≤ 59 ∧ seconds ≤ 59 then
    return hours * 3600 + minutes * 60 + seconds
  else failure

/-- The time to add to local time for UTC, in seconds; less than a day. -/
def offset : Reader Int := do
  if ← Reader.optional '-' then return -(← clockTime 23)
  else
    let _ ← Reader.optional '+'
    return (← clockTime 23 : Nat)

def yearDay : Reader YearDay := do
  if ← Reader.optional 'M' then
    let month ← Reader.natural
    Reader.char '.'
    let week ← Reader.natural
    Reader.char '.'
    let day ← Reader.natural
    if 1 ≤ month ∧ month ≤ 12 ∧ 1 ≤ week ∧ week ≤ 5 ∧ day ≤ 6 then
      return .inMonth month week day
    else failure
  else if ← Reader.optional 'J' then
    let day ← Reader.natural
    if 1 ≤ day ∧ day ≤ 365 then return .withoutLeapDay day else failure
  else
    let day ← Reader.natural
    if day ≤ 365 then return .counted day else failure

def turn : Reader Turn := do
  let day ← yearDay
  let time ← if ← Reader.optional '/' then clockTime 24 else pure 7200
  return ⟨day, time⟩

def rule : Reader Zone := do
  name
  let standard ← offset
  if ← Reader.atEnd then return ⟨-standard, none⟩
  name
  let daylight ← if (← Reader.peek) == some ',' then pure (standard - 3600) else offset
  Reader.char ','
  let starts ← turn
  Reader.char ','
  let ends ← turn
  return ⟨-standard, some ⟨-daylight, starts, ends⟩⟩

def isBlank (c : Char) : Bool := c == ' ' || c == '\t' || c == '\n' || c == '\r' || c == '\x0c'

def parse? (text : List Char) : Option Zone :=
  let trimmed := ((text.dropWhile isBlank).reverse.dropWhile isBlank).reverse
  rule.runAll trimmed

end Zone
end NmeaReceiver.Calendar
