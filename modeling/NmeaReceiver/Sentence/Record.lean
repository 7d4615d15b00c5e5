import NmeaReceiver.Sentence.Address
import NmeaReceiver.Sentence.Layout

/-! The records of the four kinds of sentence, each with its layout. Fields after the last
slot of a layout are ignored, but a ZDA record has none. -/
namespace NmeaReceiver.Sentence
open NmeaReceiver.Decimal NmeaReceiver.Calendar

structure Coordinates where
  latitude : Binary64
  longitude : Binary64
  deriving DecidableEq, Repr

def directed (positive : Bool) (angle : Binary64) : Binary64 :=
  if positive then angle else angle.negate

def Coordinates.of? (latitude : Option Binary64) (north : Option Bool)
    (longitude : Option Binary64) (east : Option Bool) : Option Coordinates := do
  return ⟨directed (← north) (← latitude), directed (← east) (← longitude)⟩

structure Rmc where
  talker : Talker
  time : Option TimeOfDay
  active : Bool
  position : Option Coordinates
  speed : Option Binary64
  course : Option Binary64
  date : Option Date
  deriving DecidableEq, Repr

def Rmc.layout : List Slot :=
  [.time, .status, .latitude, .northSouth, .longitude, .eastWest, .number, .number, .date]

def Rmc.read (talker : Talker) (text : List Char) : Except Fault Rmc := do
  let ((time, status, lat, ns, lon, ew, speed, course, date, _), _) ← readSlots Rmc.layout text
  return ⟨talker, time, status == some true, Coordinates.of? lat ns lon ew, speed, course, date⟩

structure Gga where
  talker : Talker
  time : Option TimeOfDay
  position : Option Coordinates
  quality : Nat
  satellites : Option Nat
  hdop : Option Binary64
  altitude : Option Binary64
  geoidSeparation : Option Binary64
  deriving DecidableEq, Repr

def Gga.layout : List Slot :=
  [.time, .latitude, .northSouth, .longitude, .eastWest, .count, .count, .number, .number,
    .metres, .number]

def Gga.read (talker : Talker) (text : List Char) : Except Fault Gga := do
  let ((time, lat, ns, lon, ew, quality, satellites, hdop, altitude, _, separation, _), _) ←
    readSlots Gga.layout text
  return ⟨talker, time, Coordinates.of? lat ns lon ew, quality.getD 0, satellites, hdop, altitude, separation⟩

structure Gsa where
  talker : Talker
  selection : Option SelectionMode
  fixType : Option Nat
  satellites : List Nat
  pdop : Option Binary64
  hdop : Option Binary64
  vdop : Option Binary64
  deriving DecidableEq, Repr

def Gsa.lead : List Slot := [.mode, .count]
def Gsa.satelliteSlots : Nat := 12
def Gsa.tail : List Slot := [.number, .number, .number]

def Gsa.read (talker : Talker) (text : List Char) : Except Fault Gsa := do
  let ((selection, fixType, _), text) ← readSlots Gsa.lead text
  let (satellites, text) ← readGroup (List.replicate Gsa.satelliteSlots .count) text
  let ((pdop, hdop, vdop, _), _) ← readSlots Gsa.tail text
  return ⟨talker, selection, fixType, present .count Gsa.satelliteSlots satellites, pdop, hdop, vdop⟩

structure Zda where
  talker : Talker
  time : Option TimeOfDay
  day : Option Nat
  month : Option Nat
  year : Option Int
  zoneHours : Option Int
  zoneMinutes : Option Nat
  deriving DecidableEq, Repr

def Zda.layout : List Slot := [.time, .twoDigits, .twoDigits, .year, .zoneHours, .zoneMinutes]

def Zda.read (talker : Talker) (text : List Char) : Except Fault Zda := do
  let ((time, day, month, year, hours, minutes, _), text) ← readSlots Zda.layout text
  readFinish text
  return ⟨talker, time, day, month, year, hours, minutes⟩

end NmeaReceiver.Sentence
