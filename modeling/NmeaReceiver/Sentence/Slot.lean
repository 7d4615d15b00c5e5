import NmeaReceiver.Calendar.Instant
import NmeaReceiver.Decimal.Numeral

/-! The slots of a sentence: what may stand between two commas, and how each is read. A slot
takes a token from the front of the text or is absent; only a numeral whose exponent has no
digits is broken beyond that. -/
namespace NmeaReceiver.Sentence
open NmeaReceiver.Decimal NmeaReceiver.Calendar

inductive Reading (α : Type) where
  | absent
  | found (value : α) (rest : List Char)
  | broken (rest : List Char)
  deriving Repr

def digitRun? (width : Nat) (text : List Char) : Option (Nat × List Char) :=
  let digits := text.take width
  if digits.length = width ∧ digits.all Char.isDigit then
    some (digitsValue digits, text.drop width)
  else none

def splitSign : List Char → Bool × List Char
  | '-' :: rest => (true, rest)
  | '+' :: rest => (false, rest)
  | text => (false, text)

def exponentPart (text : List Char) : Reading Int :=
  match text with
  | 'e' :: rest | 'E' :: rest =>
    let (negative, unsigned) := splitSign rest
    let digits := unsigned.takeWhile Char.isDigit
    if digits.isEmpty then .broken unsigned
    else
      let size : Int := digitsValue digits
      .found (if negative then -size else size) (unsigned.dropWhile Char.isDigit)
  | _ => .absent

def withExponent (negative : Bool) (whole fraction text : List Char) : Reading Numeral :=
  match exponentPart text with
  | .absent => .found ⟨negative, whole, fraction, 0⟩ text
  | .found exponent rest => .found ⟨negative, whole, fraction, exponent⟩ rest
  | .broken rest => .broken rest

def readNumeral (text : List Char) : Reading Numeral :=
  let (negative, unsigned) := splitSign text
  let whole := unsigned.takeWhile Char.isDigit
  match unsigned.dropWhile Char.isDigit with
  | '.' :: rest =>
    let fraction := rest.takeWhile Char.isDigit
    if whole.isEmpty ∧ fraction.isEmpty then .absent
    else withExponent negative whole fraction (rest.dropWhile Char.isDigit)
  | rest =>
    if whole.isEmpty then .absent else withExponent negative whole [] rest

def readNumber (text : List Char) : Reading Binary64 :=
  match readNumeral text with
  | .absent => .absent
  | .found numeral rest => .found numeral.toBinary64 rest
  | .broken rest => .broken rest

def readDegrees (width limit : Nat) (text : List Char) : Reading Binary64 :=
  match digitRun? width text with
  | none => .absent
  | some (degrees, rest) =>
    match readNumber rest with
    | .absent => .absent
    | .broken rest => .broken rest
    | .found minutes rest =>
      if Binary64.zero.le minutes && minutes.lt (.ofNat 60) then
        let angle := (Binary64.ofNat degrees).add (minutes.divNat 60)
        if angle.le (.ofNat limit) then .found angle rest else .absent
      else .absent

def microseconds (digits : List Char) : Nat :=
  let kept := digits.take 6
  digitsValue kept * tenTo (6 - kept.length)

def secondFraction (text : List Char) : Nat × List Char :=
  match text with
  | '.' :: rest =>
    let digits := rest.takeWhile Char.isDigit
    if digits.isEmpty then (0, text) else (microseconds digits, rest.dropWhile Char.isDigit)
  | _ => (0, text)

def readTime (text : List Char) : Reading TimeOfDay :=
  match digitRun? 2 text with
  | none => .absent
  | some (hours, rest) => match digitRun? 2 rest with
    | none => .absent
    | some (minutes, rest) => match digitRun? 2 rest with
      | none => .absent
      | some (seconds, rest) =>
        let (fraction, rest) := secondFraction rest
        .found ⟨hours, minutes, seconds, fraction⟩ rest

def readDate (text : List Char) : Reading Date :=
  match digitRun? 2 text with
  | none => .absent
  | some (day, rest) => match digitRun? 2 rest with
    | none => .absent
    | some (month, rest) => match digitRun? 2 rest with
      | none => .absent
      | some (year, rest) => .found ⟨2000 + (year : Int), month, day⟩ rest

def readCount (text : List Char) : Reading Nat :=
  let digits := text.takeWhile Char.isDigit
  if digits.isEmpty then .absent
  else
    let value := digitsValue digits
    if value < twoTo 32 then .found value (text.dropWhile Char.isDigit) else .absent

def readYear (text : List Char) : Reading Int :=
  let (negative, unsigned) := splitSign text
  let digits := unsigned.takeWhile Char.isDigit
  if digits.isEmpty then .absent
  else
    let size : Int := digitsValue digits
    let value := if negative then -size else size
    if -twoTo 31 ≤ value ∧ value < twoTo 31 then .found value (unsigned.dropWhile Char.isDigit)
    else .absent

def readTwoDigits (text : List Char) : Reading Nat :=
  match digitRun? 2 text with
  | none => .absent
  | some (value, rest) => .found value rest

def readZoneHours (text : List Char) : Reading Int :=
  let (negative, unsigned) := splitSign text
  match digitRun? 2 unsigned with
  | none => .absent
  | some (hours, rest) =>
    if hours ≤ 13 then .found (if negative then -hours else hours) rest else .absent

/-- Minutes of a zone, below sixty; a sign before them says nothing. -/
def readZoneMinutes (text : List Char) : Reading Nat :=
  match digitRun? 2 (splitSign text).2 with
  | none => .absent
  | some (minutes, rest) => if minutes < 60 then .found minutes rest else .absent

def readLetter {α : Type} (meanings : List (Char × α)) : List Char → Reading α
  | [] => .absent
  | c :: rest => match meanings.lookup c with
    | some meaning => .found meaning rest
    | none => .absent

inductive SelectionMode where
  | automatic
  | manual
  deriving DecidableEq, Repr

inductive Slot where
  | time
  | date
  | status
  | latitude
  | northSouth
  | longitude
  | eastWest
  | number
  | count
  | metres
  | mode
  | twoDigits
  | year
  | zoneHours
  | zoneMinutes
  deriving DecidableEq, Repr

abbrev Slot.Value : Slot → Type
  | .time => TimeOfDay
  | .date => Date
  | .status | .northSouth | .eastWest => Bool
  | .latitude | .longitude | .number => Binary64
  | .count | .twoDigits | .zoneMinutes => Nat
  | .metres => Unit
  | .mode => SelectionMode
  | .year | .zoneHours => Int

def Slot.read : (slot : Slot) → List Char → Reading slot.Value
  | .time => readTime
  | .date => readDate
  | .status => readLetter [('A', true), ('V', false)]
  | .latitude => readDegrees 2 90
  | .northSouth => readLetter [('N', true), ('S', false)]
  | .longitude => readDegrees 3 180
  | .eastWest => readLetter [('E', true), ('W', false)]
  | .number => readNumber
  | .count => readCount
  | .metres => readLetter [('M', ())]
  | .mode => readLetter [('A', .automatic), ('M', .manual)]
  | .twoDigits => readTwoDigits
  | .year => readYear
  | .zoneHours => readZoneHours
  | .zoneMinutes => readZoneMinutes

def Slot.required : Slot → Bool
  | .status => true
  | _ => false

end NmeaReceiver.Sentence
