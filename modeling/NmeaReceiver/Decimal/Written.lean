import NmeaReceiver.Decimal.Shortest
import NmeaReceiver.Text.Written

/-! Two written forms of a number: the shortest text that reads back, positional or with an
exponent, and the text with two places. -/
namespace NmeaReceiver.Decimal
open NmeaReceiver.Text

structure ShortForm where
  leastPositional : Int
  exponentialFrom : Int
  deriving DecidableEq, Repr

def plainNumbers : ShortForm := ⟨-5, 16⟩

def Point.text (form : ShortForm) (point : Point) : String :=
  let digits := (toString point.digits).toList
  let leading := point.exponent + digits.length - 1
  if form.leastPositional ≤ leading ∧ leading < form.exponentialFrom then
    if 0 ≤ point.exponent then String.ofList digits ++ zeros point.exponent.toNat ++ ".0"
    else if 0 ≤ leading then
      String.ofList (digits.take (leading.toNat + 1)) ++ "."
        ++ String.ofList (digits.drop (leading.toNat + 1))
    else "0." ++ zeros ((-leading).toNat - 1) ++ String.ofList digits
  else
    let mantissa := String.ofList (digits.take 1)
      ++ (if digits.length = 1 then "" else "." ++ String.ofList (digits.drop 1))
    mantissa ++ (if leading < 0 then "e-" else "e+") ++ toString leading.natAbs

def Binary64.shortText? : Binary64 → Option String
  | .finite negative units =>
    let sign := if negative then "-" else ""
    some (sign ++ if units = 0 then "0.0" else (shortest units).text plainNumbers)
  | _ => none

def Binary64.twoPlaces : Binary64 → String
  | .nan => "NaN"
  | .infinite negative => if negative then "-inf" else "inf"
  | .finite negative units =>
    let hundredths := roundDiv (units * 100) unitsInOne
    (if negative then "-" else "") ++ toString (hundredths / 100) ++ "."
      ++ padded 2 (hundredths % 100)

end NmeaReceiver.Decimal
