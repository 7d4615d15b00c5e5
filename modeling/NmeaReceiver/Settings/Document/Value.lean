import NmeaReceiver.Decimal.Numeral
import NmeaReceiver.Settings.Document.Token

/-! The values of a settings document. -/
namespace NmeaReceiver.Settings.Document
open NmeaReceiver.Decimal

inductive Value where
  | text (value : List Char)
  | integer (value : Int)
  | float
  | boolean (value : Bool)
  | datetime
  | array (values : List Value)
  | table (entries : List (List Char × Value))
  | dotted (entries : List (List Char × Value))
  deriving Repr

abbrev Entries := List (List Char × Value)

structure Digits where
  negative : Bool
  digits : List Char
  rest : List Char

def isDigitOf (radix : Nat) (c : Char) : Bool :=
  match hexDigit? c with
  | some digit => digit < radix
  | none => false

def splitDigits (radix : Nat) : List Char → Option (List Char × List Char)
  | [] => none
  | c :: rest =>
    if !isDigitOf radix c then none
    else match rest with
      | '_' :: more => (splitDigits radix more).map fun (ds, rest) => (c :: ds, rest)
      | d :: more =>
        if isDigitOf radix d then
          (splitDigits radix (d :: more)).map fun (ds, rest) => (c :: ds, rest)
        else some ([c], rest)
      | [] => some ([c], [])

def digits? (radix : Nat) (sign leadingZeros : Bool) (text : List Char) : Option Digits := do
  let (negative, unsigned) := match text with
    | '-' :: rest => if sign then (true, rest) else (false, text)
    | '+' :: rest => if sign then (false, rest) else (false, text)
    | _ => (false, text)
  let (digits, rest) ← splitDigits radix unsigned
  if !leadingZeros && 1 < digits.length && digits.head? == some '0' then none
  else return ⟨negative, digits, rest⟩

def digitsIn (radix : Nat) (digits : List Char) : Nat :=
  digits.foldl (fun n c => n * radix + (hexDigit? c).getD 0) 0

def integer? (radix : Nat) (text : List Char) : Option Value := do
  let d ← digits? radix (radix == 10) (radix != 10) text
  let size : Int := digitsIn radix d.digits
  let value := if d.negative then -size else size
  if d.rest.isEmpty ∧ -twoTo 63 ≤ value ∧ value < twoTo 63 then return .integer value else none

def float? (whole : Digits) (fraction exponent : Option Digits) : Option Value :=
  let fractionDigits := (fraction.map Digits.digits).getD []
  let power : Int := match exponent with
    | some e => if e.negative then -(digitsValue e.digits : Int) else digitsValue e.digits
    | none => 0
  match (Numeral.mk whole.negative whole.digits fractionDigits power).toBinary64 with
  | .finite _ _ => some .float
  | _ => none

def insertDotted (key : List Char) : List (List Char) → Value → Entries → Option Entries
  | [], value, entries => some (entries ++ [(key, value)])
  | part :: parts, value, entries =>
    match entries.find? (·.1 == key) with
    | some (_, .dotted inner) => do
      let inner ← insertDotted part parts value inner
      return replaceFirst inner entries
    | some _ => none
    | none => do
      let inner ← insertDotted part parts value []
      return entries ++ [(key, .dotted inner)]
where
  replaceFirst (inner : Entries) : Entries → Entries
    | [] => []
    | entry :: rest =>
      if entry.1 == key then (key, .dotted inner) :: rest else entry :: replaceFirst inner rest

end NmeaReceiver.Settings.Document
