import NmeaReceiver.Sentence.Record

/-! The texts that may stand between two commas, and what each spells. Nothing here reads: a slot is
a relation between its values and their texts. -/
namespace NmeaReceiver.Sentence
open NmeaReceiver.Decimal NmeaReceiver.Calendar

structure Digits (text : List Char) : Prop where
  some : text ≠ []
  all : ∀ c ∈ text, c.isDigit = true

structure Fixed (width : Nat) (text : List Char) : Prop where
  length : text.length = width
  all : ∀ c ∈ text, c.isDigit = true

inductive Sign : Bool → List Char → Prop where
  | none : Sign false []
  | plus : Sign false ['+']
  | minus : Sign true ['-']

def signed (negative : Bool) (size : Nat) : Int := if negative then -size else size

inductive Mantissa (whole : List Char) : List Char → List Char → Prop where
  | plain (digits : Digits whole) : Mantissa whole [] whole
  | pointed {fraction : List Char} (digits : Digits (whole ++ fraction)) :
      Mantissa whole fraction (whole ++ '.' :: fraction)

def isMark (c : Char) : Prop := c = 'e' ∨ c = 'E'

inductive Exponent : Int → List Char → Prop where
  | none : Exponent 0 []
  | marked {mark : Char} {negative : Bool} {sign digits : List Char} (marks : isMark mark)
      (signs : Sign negative sign) (counts : Digits digits) :
      Exponent (signed negative (digitsValue digits)) (mark :: (sign ++ digits))

inductive NumeralText : Numeral → List Char → Prop where
  | parts {negative : Bool} {sign whole fraction body scale : List Char} {exponent : Int}
      (signs : Sign negative sign) (digits : Mantissa whole fraction body)
      (scales : Exponent exponent scale) :
      NumeralText ⟨negative, whole, fraction, exponent⟩ (sign ++ (body ++ scale))

def BreaksOff (text : List Char) : Prop :=
  ∃ (negative : Bool) (sign whole fraction body : List Char) (mark : Char) (after : List Char),
    Sign negative sign ∧ Mantissa whole fraction body ∧ isMark mark ∧
    text = sign ++ (body ++ mark :: after) ∧
    ∀ exponent scale rest, Exponent exponent scale → mark :: after = scale ++ rest → scale = []

def NumberText (value : Binary64) (text : List Char) : Prop :=
  ∃ numeral, NumeralText numeral text ∧ value = numeral.toBinary64

def DegreesText (width limit : Nat) (angle : Binary64) (text : List Char) : Prop :=
  ∃ degrees arc minutes, text = degrees ++ arc ∧ Fixed width degrees ∧ NumberText minutes arc ∧
    Binary64.zero.le minutes = true ∧ minutes.lt (.ofNat 60) = true ∧
    (Binary64.ofNat (digitsValue degrees)).add (minutes.divNat 60) = angle ∧
    angle.le (.ofNat limit) = true

def toMicroseconds (fraction : List Char) : Nat :=
  digitsValue ((fraction ++ List.replicate 6 '0').take 6)

inductive Subsecond : Nat → List Char → Prop where
  | none : Subsecond 0 []
  | pointed {fraction : List Char} (digits : Digits fraction) :
      Subsecond (toMicroseconds fraction) ('.' :: fraction)

inductive TimeText : TimeOfDay → List Char → Prop where
  | parts {hours minutes seconds rest : List Char} {fraction : Nat} (hour : Fixed 2 hours)
      (minute : Fixed 2 minutes) (second : Fixed 2 seconds) (part : Subsecond fraction rest) :
      TimeText ⟨digitsValue hours, digitsValue minutes, digitsValue seconds, fraction⟩
        (hours ++ (minutes ++ (seconds ++ rest)))

inductive DateText : Date → List Char → Prop where
  | parts {days months years : List Char} (day : Fixed 2 days) (month : Fixed 2 months)
      (year : Fixed 2 years) :
      DateText ⟨2000 + (digitsValue years : Int), digitsValue months, digitsValue days⟩
        (days ++ (months ++ years))

def CountText (value : Nat) (text : List Char) : Prop :=
  Digits text ∧ digitsValue text < twoTo 32 ∧ digitsValue text = value

def TwoDigitsText (value : Nat) (text : List Char) : Prop := Fixed 2 text ∧ digitsValue text = value

def SignedText (Run : List Char → Prop) (Means : Bool → Nat → Prop) (text : List Char) : Prop :=
  ∃ negative sign digits, text = sign ++ digits ∧ Sign negative sign ∧ Run digits ∧
    Means negative (digitsValue digits)

def YearText (value : Int) : List Char → Prop :=
  SignedText Digits fun negative size =>
    (-(twoTo 31 : Nat) ≤ signed negative size ∧ signed negative size < (twoTo 31 : Nat)) ∧
      signed negative size = value

def ZoneHoursText (value : Int) : List Char → Prop :=
  SignedText (Fixed 2) fun negative hours => hours ≤ 13 ∧ signed negative hours = value

def ZoneMinutesText (value : Nat) : List Char → Prop :=
  SignedText (Fixed 2) fun _ minutes => minutes < 60 ∧ minutes = value

def Slot.Spells : (slot : Slot) → slot.Value → List Char → Prop
  | .time, value, text => TimeText value text
  | .date, value, text => DateText value text
  | .status, active, text => text = [if active then 'A' else 'V']
  | .latitude, angle, text => DegreesText 2 90 angle text
  | .northSouth, north, text => text = [if north then 'N' else 'S']
  | .longitude, angle, text => DegreesText 3 180 angle text
  | .eastWest, east, text => text = [if east then 'E' else 'W']
  | .number, value, text => NumberText value text
  | .count, value, text => CountText value text
  | .metres, _, text => text = ['M']
  | .mode, .automatic, text => text = ['A']
  | .mode, .manual, text => text = ['M']
  | .twoDigits, value, text => TwoDigitsText value text
  | .year, value, text => YearText value text
  | .zoneHours, value, text => ZoneHoursText value text
  | .zoneMinutes, value, text => ZoneMinutesText value text

def Slot.Holds (slot : Slot) : Option slot.Value → List Char → Prop
  | some value, text => slot.Spells value text
  | none, text => text = [] ∧ slot.required = false

def Filled : (slots : List Slot) → Contents slots → List (List Char) → Prop
  | [], _, pieces => pieces = []
  | _ :: _, _, [] => False
  | slot :: slots, contents, piece :: pieces =>
    slot.Holds contents.1 piece ∧ Filled slots contents.2 pieces

end NmeaReceiver.Sentence
