import NmeaReceiver.Decimal.Numeral
import NmeaReceiver.Proofs.Decimal.Nearest

/-! Which numerals are too large for a finite number. The magnitudes that round up to the limit begin
half a step above the greatest finite one: of the two neighbours of that point the limit is even. -/
namespace NmeaReceiver.Decimal

namespace Binary64

variable {n d : Nat}

def Finite (x : Binary64) : Prop := ∃ negative units, x = .finite negative units

def overflow : Nat := twoTo 1024 - twoTo 970

def overflowUnits : Nat := overflow * unitsInOne

def greatestUnits : Nat := unitsLimit - twoTo 2045

theorem overflowBetween :
    overflowUnits = greatestUnits + twoTo 2044 ∧ unitsLimit = overflowUnits + twoTo 2044 := by
  decide +kernel

theorem greatestRepresentable : Representable greatestUnits :=
  ⟨twoTo 53 - 1, 2045, by decide, by decide +kernel⟩

theorem twoToDouble (exponent d : Nat) : twoTo (exponent + 1) * d = 2 * (twoTo exponent * d) := by
  have double : twoTo (exponent + 1) = 2 * twoTo exponent := Nat.pow_succ'
  rw [double, Nat.mul_assoc]

theorem twoToRepresentable (exponent : Nat) : Representable (twoTo exponent) := by
  refine ⟨1, exponent, by decide, ?_⟩
  rw [Nat.one_mul]

theorem logBetween {q exponent : Nat} (least : twoTo exponent ≤ q) (below : q < twoTo (exponent + 1)) :
    q.log2 = exponent := by
  have some : q ≠ 0 := Nat.ne_of_gt (Nat.lt_of_lt_of_le (twoToPositive exponent) least)
  exact (Nat.log2_eq_iff some).mpr ⟨least, below⟩

theorem twoToLog (exponent : Nat) : (twoTo exponent).log2 = exponent := Nat.log2_two_pow

theorem representableBelow {units : Nat} (representable : Representable units)
    (below : units < unitsLimit) : units ≤ greatestUnits := by
  have steps : unitsLimit = twoTo 53 * twoTo 2045 := twoToAdd 53 2045
  have whole : greatestUnits = (twoTo 53 - 1) * twoTo 2045 := by
    rw [greatestUnits, steps, Nat.sub_mul, Nat.one_mul]
  have step : grain (twoTo 2097) = twoTo 2045 := by rw [grain, twoToLog]
  rcases representableGrain representable (twoTo 2097) with ⟨k, same⟩ | ⟨small, _⟩
  · rw [same, step, steps] at below
    rw [same, step, whole]
    exact Nat.mul_le_mul_right _ (Nat.le_sub_one_of_lt (Nat.lt_of_mul_lt_mul_right below))
  · rw [twoToLog] at small
    exact Nat.le_trans (Nat.le_of_lt small) (by decide +kernel)

theorem roundTie {half whole : Nat} (positive : 0 < half) (odd : whole % 2 ≠ 0) :
    roundDiv (half + 2 * half * whole) (2 * half) = whole + 1 := by
  have step : 0 < 2 * half := Nat.mul_pos Nat.two_pos positive
  have rest : half < 2 * half := by omega
  have quotient : (half + 2 * half * whole) / (2 * half) = whole := by
    rw [Nat.add_mul_div_left _ _ step, Nat.div_eq_of_lt rest, Nat.zero_add]
  have left : (half + 2 * half * whole) % (2 * half) = half := by
    rw [Nat.add_mul_mod_self_left, Nat.mod_eq_of_lt rest]
  unfold roundDiv
  rw [quotient, left]
  dsimp only
  rw [if_neg (Nat.lt_irrefl _), if_neg (Nat.lt_irrefl _), if_neg odd]

theorem tieRounds (positive : 0 < d) : nearestUnits (overflowUnits * d) d = unitsLimit := by
  have grain : grain overflowUnits = twoTo 2045 := by
    rw [grain, @logBetween _ 2097 (by decide +kernel) (by decide +kernel)]
  have half : 0 < twoTo 2044 * d := Nat.mul_pos (twoToPositive 2044) positive
  have step : d * twoTo 2045 = 2 * (twoTo 2044 * d) :=
    (Nat.mul_comm _ _).trans (twoToDouble 2044 d)
  have units : overflowUnits = twoTo 2044 + 2 * twoTo 2044 * (twoTo 53 - 1) := by decide +kernel
  have parts : overflowUnits * d = twoTo 2044 * d + 2 * (twoTo 2044 * d) * (twoTo 53 - 1) := by
    rw [units, Nat.add_mul, Nat.mul_right_comm, Nat.mul_assoc 2]
  have rounds : roundDiv (overflowUnits * d) (d * twoTo 2045) = twoTo 53 := by
    rw [step, parts, roundTie half (by decide)]
    rfl
  rw [nearestUnits, Nat.mul_div_cancel _ positive, grain, rounds]
  exact (twoToAdd 53 2045).symm

theorem nearestOverflows (positive : 0 < d) :
    unitsLimit ≤ nearestUnits n d ↔ overflowUnits * d ≤ n := by
  have nearest := nearestNearest n positive
  have half := Nat.mul_pos (twoToPositive 2044) positive
  obtain ⟨overflows, limit⟩ := overflowBetween
  have overflowD : overflowUnits * d = greatestUnits * d + twoTo 2044 * d := by
    rw [overflows, Nat.add_mul]
  have limitD : unitsLimit * d = overflowUnits * d + twoTo 2044 * d := by
    rw [limit, Nat.add_mul]
  constructor
  · intro reaches
    have near := nearest.closest greatestUnits greatestRepresentable
    have far := Nat.mul_le_mul_right d reaches
    unfold distance at near
    omega
  · intro large
    apply Nat.le_of_not_lt
    intro below
    have most := Nat.mul_le_mul_right d (representableBelow nearest.representable below)
    have near := nearest.closest unitsLimit (twoToRepresentable 2098)
    have tie : n = overflowUnits * d := by
      unfold distance at near
      omega
    rw [tie, tieRounds positive] at below
    exact Nat.lt_irrefl _ below

theorem ofQuotientInfinite (negative : Bool) (positive : 0 < d) :
    ofQuotient negative n d = .infinite negative ↔ overflowUnits * d ≤ n := by
  rw [← nearestOverflows positive]
  unfold ofQuotient
  dsimp only
  split
  · rename_i below
    simp [below]
  · rename_i above
    simp [Nat.le_of_not_lt above]

end Binary64

/-- The exact value is at least `2 ^ 1024 - 2 ^ 970`, with the power of ten multiplied out. -/
def Numeral.TooLarge (n : Numeral) : Prop :=
  let exponent := n.exponent - n.fraction.length
  Binary64.overflow * tenTo (-exponent).toNat ≤ n.significand * tenTo exponent.toNat

theorem overflowCancel {a b : Nat} :
    Binary64.overflowUnits * a ≤ b * Binary64.unitsInOne ↔ Binary64.overflow * a ≤ b := by
  rw [Binary64.overflowUnits, Nat.mul_right_comm]
  exact Nat.mul_le_mul_right_iff Binary64.unitsPositive

theorem tenToMono {m n : Nat} (le : m ≤ n) : tenTo m ≤ tenTo n :=
  Nat.pow_le_pow_right (by decide) le

theorem belowSmall {significand k : Nat} (small : significand.log2 < 3 * k) :
    significand < tenTo k := by
  have below : significand < twoTo (significand.log2 + 1) := Nat.lt_log2_self
  have eights : twoTo (3 * k) ≤ tenTo k := by
    have same : twoTo (3 * k) = (2 ^ 3) ^ k := Nat.pow_mul 2 3 k
    rw [same]
    exact Nat.pow_le_pow_left (by decide) k
  exact Nat.lt_of_lt_of_le below (Nat.le_trans (twoToMono small) eights)

theorem ofDecimalInfinite (negative : Bool) (significand : Nat) (exponent : Int) :
    Binary64.ofDecimal negative significand exponent = .infinite negative ↔
      Binary64.overflow * tenTo (-exponent).toNat ≤ significand * tenTo exponent.toNat := by
  have positive : 0 < Binary64.overflow := by decide +kernel
  unfold Binary64.ofDecimal
  split
  · rename_i zero
    have least := Nat.mul_pos positive (tenToPositive (-exponent).toNat)
    simp only [zero, Nat.zero_mul, reduceCtorEq, false_iff]
    omega
  · rename_i some
    split
    · rename_i large
      rw [show (-exponent).toNat = 0 by omega]
      have high : Binary64.overflow * tenTo 0 ≤ tenTo 310 := by decide +kernel
      have more : tenTo 310 ≤ tenTo exponent.toNat := tenToMono (by omega)
      have least := Nat.le_mul_of_pos_left (tenTo exponent.toNat) (Nat.pos_of_ne_zero some)
      exact iff_of_true rfl (Nat.le_trans high (Nat.le_trans more least))
    · split
      · rename_i whole
        rw [show (-exponent).toNat = 0 by omega, Binary64.ofQuotientInfinite negative Nat.one_pos,
          overflowCancel, show tenTo 0 = 1 from rfl]
      · rename_i fractional
        rw [show exponent.toNat = 0 by omega, show tenTo 0 = 1 from rfl, Nat.mul_one]
        split
        · rename_i tiny
          have below := belowSmall (k := (-exponent).toNat) (by omega : significand.log2 < _)
          have least := Nat.le_mul_of_pos_left (tenTo (-exponent).toNat) positive
          simp only [reduceCtorEq, false_iff]
          omega
        · rw [Binary64.ofQuotientInfinite negative (tenToPositive _), overflowCancel]

theorem quotientEither (negative : Bool) (n d : Nat) :
    Binary64.ofQuotient negative n d = .infinite negative ∨ (Binary64.ofQuotient negative n d).Finite := by
  unfold Binary64.ofQuotient
  dsimp only
  split
  · exact .inr ⟨_, _, rfl⟩
  · exact .inl rfl

theorem numeralEither (n : Numeral) : n.toBinary64 = .infinite n.negative ∨ n.toBinary64.Finite := by
  unfold Numeral.toBinary64 Binary64.ofDecimal
  split
  · exact .inr ⟨_, _, rfl⟩
  · split
    · exact .inl rfl
    · split
      · exact quotientEither _ _ _
      · split
        · exact .inr ⟨_, _, rfl⟩
        · exact quotientEither _ _ _

theorem numeralInfinite (n : Numeral) : n.toBinary64 = .infinite n.negative ↔ n.TooLarge :=
  ofDecimalInfinite n.negative n.significand _

end NmeaReceiver.Decimal
