import NmeaReceiver.Decimal.Binary64

/-! The shortest decimal that reads back as a given magnitude: the coarsest decimal grid with
a point in the interval of values that round to the magnitude, and of its points there the
one nearest to the magnitude. -/
namespace NmeaReceiver.Decimal

structure Point where
  digits : Nat
  exponent : Int
  deriving DecidableEq, Repr

structure Basin where
  low : Nat
  centre : Nat
  high : Nat
  closed : Bool
  deriving DecidableEq, Repr

def Basin.around (units : Nat) : Basin :=
  let grain := Binary64.grain units
  let significand := units / grain
  let below := if significand = twoTo 52 ∧ 1 < grain then grain else 2 * grain
  { low := 4 * units - below
    centre := 4 * units
    high := 4 * units + 2 * grain
    closed := significand % 2 == 0 }

def Basin.holds (b : Basin) (quarters scale : Nat) : Bool :=
  if b.closed then decide (b.low * scale ≤ quarters ∧ quarters ≤ b.high * scale)
  else decide (b.low * scale < quarters ∧ quarters < b.high * scale)

def Basin.onGrid? (b : Basin) (exponent : Int) : Option Point :=
  let step := 4 * Binary64.unitsInOne * tenTo exponent.toNat
  let scale := tenTo (-exponent).toNat
  let below := b.centre * scale / step
  let above := below + 1
  let gapBelow := b.centre * scale - below * step
  let gapAbove := above * step - b.centre * scale
  match b.holds (below * step) scale, b.holds (above * step) scale with
  | false, false => none
  | true, false => some ⟨below, exponent⟩
  | false, true => some ⟨above, exponent⟩
  | true, true =>
    if gapBelow < gapAbove ∨ (gapBelow = gapAbove ∧ below % 2 = 0) then some ⟨below, exponent⟩
    else some ⟨above, exponent⟩

def Basin.coarsest (b : Basin) : Nat → Int → Point
  | 0, exponent => ⟨0, exponent⟩
  | fuel + 1, exponent =>
    match b.onGrid? exponent with
    | some point => point
    | none => b.coarsest fuel (exponent - 1)

def exponentAbove (units : Nat) : Int :=
  if 1074 ≤ units.log2 then ((units.log2 - 1074) / 3 + 1 : Nat)
  else -(((1074 - units.log2 - 2) / 4 : Nat) : Int)

def shortest (units : Nat) : Point :=
  let start := exponentAbove units
  (Basin.around units).coarsest (start + 400).toNat start

end NmeaReceiver.Decimal
