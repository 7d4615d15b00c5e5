import NmeaReceiver.Decimal.Rounding

/-! Binary64 numbers. A finite one is a sign and a count of units of `2 ^ -1074`, the least
positive number, so a comparison is one of integers; sums and quotients are taken exactly
and then rounded once to 53 significant bits. -/
namespace NmeaReceiver.Decimal

inductive Binary64 where
  | nan
  | infinite (negative : Bool)
  | finite (negative : Bool) (units : Nat)
  deriving DecidableEq, Repr

namespace Binary64

def unitsInOne : Nat := twoTo 1074

def unitsLimit : Nat := twoTo 2098

def grain (n : Nat) : Nat := twoTo (n.log2 - 52)

theorem grainPositive (n : Nat) : 0 < grain n := twoToPositive _

/-- The magnitude nearest to `n / d` units among those of 53 significant bits. -/
def nearestUnits (n d : Nat) : Nat :=
  roundDiv n (d * grain (n / d)) * grain (n / d)

def ofQuotient (negative : Bool) (n d : Nat) : Binary64 :=
  let units := nearestUnits n d
  if units < unitsLimit then .finite negative units else .infinite negative

def zero : Binary64 := .finite false 0

def ofNat (n : Nat) : Binary64 := ofQuotient false (n * unitsInOne) 1

def ofInt (n : Int) : Binary64 := ofQuotient (decide (n < 0)) (n.natAbs * unitsInOne) 1

def signedUnits (negative : Bool) (units : Nat) : Int := if negative then -units else units

def negate : Binary64 → Binary64
  | .nan => .nan
  | .infinite negative => .infinite (!negative)
  | .finite negative units => .finite (!negative) units

def add : Binary64 → Binary64 → Binary64
  | .finite s a, .finite t b =>
    let sum := signedUnits s a + signedUnits t b
    ofQuotient (if sum = 0 then s && t else decide (sum < 0)) sum.natAbs 1
  | .infinite s, .infinite t => if s = t then .infinite s else .nan
  | .infinite s, .finite _ _ => .infinite s
  | .finite _ _, .infinite t => .infinite t
  | _, _ => .nan

def sub (x y : Binary64) : Binary64 := x.add y.negate

def divNat (x : Binary64) (k : Nat) : Binary64 :=
  match x with
  | .finite s a => ofQuotient s a k
  | other => other

def lt : Binary64 → Binary64 → Bool
  | .finite s a, .finite t b => decide (signedUnits s a < signedUnits t b)
  | .infinite s, .finite _ _ => s
  | .finite _ _, .infinite t => !t
  | .infinite s, .infinite t => s && !t
  | _, _ => false

def isZero : Binary64 → Bool
  | .finite _ a => a == 0
  | _ => false

def le : Binary64 → Binary64 → Bool
  | .finite s a, .finite t b => decide (signedUnits s a ≤ signedUnits t b)
  | .infinite s, .finite _ _ => s
  | .finite _ _, .infinite t => !t
  | .infinite s, .infinite t => s || !t
  | _, _ => false

def ofBits (word : Nat) : Binary64 :=
  let negative := word / twoTo 63 % 2 == 1
  let field := word / twoTo 52 % twoTo 11
  let fraction := word % twoTo 52
  if field = 2047 then if fraction = 0 then .infinite negative else .nan
  else if field = 0 then .finite negative fraction
  else .finite negative ((twoTo 52 + fraction) * twoTo (field - 1))

def magnitudeBits (units : Nat) : Nat :=
  if units < twoTo 52 then units
  else units / grain units + (units.log2 - 52) * twoTo 52

def toBits : Binary64 → Nat
  | .nan => 2047 * twoTo 52 + twoTo 51
  | .infinite negative => 2047 * twoTo 52 + if negative then twoTo 63 else 0
  | .finite negative units => magnitudeBits units + if negative then twoTo 63 else 0

end Binary64
end NmeaReceiver.Decimal
