import NmeaReceiver.Decimal.Binary64

/-! Decimal numerals: a sign, digits about a point, an exponent. The number of a numeral is
its exact value rounded once. -/
namespace NmeaReceiver.Decimal

def digitsValue (digits : List Char) : Nat :=
  digits.foldl (fun n c => n * 10 + (c.toNat - 48)) 0

structure Numeral where
  negative : Bool
  whole : List Char
  fraction : List Char
  exponent : Int
  deriving DecidableEq, Repr

namespace Binary64

/-- The number nearest to `significand · 10 ^ exponent`. Past the largest number and below
half of the least one the power of ten is not formed. -/
def ofDecimal (negative : Bool) (significand : Nat) (exponent : Int) : Binary64 :=
  if significand = 0 then .finite negative 0
  else if 309 < exponent then .infinite negative
  else if 0 ≤ exponent then
    ofQuotient negative (significand * tenTo exponent.toNat * unitsInOne) 1
  else if significand.log2 + 1077 < 3 * (-exponent).toNat then .finite negative 0
  else ofQuotient negative (significand * unitsInOne) (tenTo (-exponent).toNat)

end Binary64

def Numeral.significand (n : Numeral) : Nat := digitsValue (n.whole ++ n.fraction)

def Numeral.toBinary64 (n : Numeral) : Binary64 :=
  .ofDecimal n.negative n.significand (n.exponent - n.fraction.length)

theorem digitsValueAppend (a b : List Char) :
    digitsValue (a ++ b) = digitsValue a * tenTo b.length + digitsValue b := by
  have shift : ∀ (b : List Char) (n : Nat),
      b.foldl (fun n c => n * 10 + (c.toNat - 48)) n
        = n * tenTo b.length + b.foldl (fun n c => n * 10 + (c.toNat - 48)) 0 := by
    intro b
    induction b with
    | nil => intro n; simp [tenTo]
    | cons c rest ih =>
      intro n
      simp only [List.foldl_cons, List.length_cons, tenToSucc]
      rw [ih (n * 10 + (c.toNat - 48)), ih (0 * 10 + (c.toNat - 48))]
      simp only [Nat.add_mul, Nat.zero_mul, Nat.zero_add, Nat.mul_assoc]
      rw [Nat.mul_comm 10]; omega
  unfold digitsValue
  rw [List.foldl_append, shift b]

end NmeaReceiver.Decimal
