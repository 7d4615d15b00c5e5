import NmeaReceiver.Decimal.Binary64

/-! One rounding of an exact magnitude: the result is a magnitude of 53 significant bits, and none of
those is nearer. So what has 53 bits is its own rounding, and a rounding passes none of them. -/
namespace NmeaReceiver.Decimal

def Representable (units : Nat) : Prop :=
  ∃ significand exponent, significand < twoTo 53 ∧ units = significand * twoTo exponent

def distance (n d units : Nat) : Nat := ((units * d : Nat) - (n : Int)).natAbs

structure Nearest (n d units : Nat) : Prop where
  representable : Representable units
  closest : ∀ other, Representable other → distance n d units ≤ distance n d other

theorem twoToMono {m n : Nat} (le : m ≤ n) : twoTo m ≤ twoTo n :=
  Nat.pow_le_pow_right Nat.two_pos le

theorem roundDivClosest (n : Nat) {d : Nat} (positive : 0 < d) (k : Nat) :
    ((roundDiv n d * d : Nat) - (n : Int)).natAbs ≤ ((k * d : Nat) - (n : Int)).natAbs := by
  have half := roundDivWithinHalf n positive
  rcases Nat.lt_trichotomy k (roundDiv n d) with below | rfl | above
  · have step := Nat.mul_le_mul_right d below
    rw [Nat.succ_mul] at step
    omega
  · exact Nat.le_refl _
  · have step := Nat.mul_le_mul_right d above
    rw [Nat.succ_mul] at step
    omega

namespace Binary64

variable {n d : Nat}

theorem grainTop (n : Nat) : n < twoTo 53 * grain n := by
  have below : n < twoTo (n.log2 + 1) := Nat.lt_log2_self
  have wide : twoTo (n.log2 + 1) ≤ twoTo 53 * grain n := by
    rw [grain, ← twoToAdd]
    exact twoToMono (by omega)
  exact Nat.lt_of_lt_of_le below wide

theorem nearestSignificand (positive : 0 < d) : roundDiv n (d * grain (n / d)) ≤ twoTo 53 := by
  refine roundDivLe (Nat.mul_pos positive (grainPositive _)) ?_
  have below : n < (n / d + 1) * d := by
    rw [Nat.mul_comm]
    exact Nat.lt_mul_div_succ n positive
  have wide : (n / d + 1) * d ≤ twoTo 53 * grain (n / d) * d :=
    Nat.mul_le_mul_right d (grainTop (n / d))
  have same : twoTo 53 * grain (n / d) * d = twoTo 53 * (d * grain (n / d)) := by
    rw [Nat.mul_assoc, Nat.mul_comm (grain _) d]
  omega

theorem nearestRepresentable (positive : 0 < d) : Representable (nearestUnits n d) := by
  rcases Nat.lt_or_eq_of_le (nearestSignificand (n := n) positive) with below | top
  · exact ⟨_, _, below, rfl⟩
  · refine ⟨twoTo 52, (n / d).log2 - 52 + 1, by decide, ?_⟩
    rw [nearestUnits, top, grain, ← twoToAdd, ← twoToAdd]
    congr 1
    omega

theorem representableGrain {units : Nat} (representable : Representable units) (q : Nat) :
    (∃ k, units = k * grain q) ∨ units < twoTo q.log2 ∧ ∃ k, twoTo q.log2 = k * grain q := by
  obtain ⟨significand, exponent, bound, rfl⟩ := representable
  unfold grain
  rcases Nat.lt_or_ge exponent (q.log2 - 52) with fine | coarse
  · refine .inr ⟨?_, twoTo 52, ?_⟩
    · have less : significand * twoTo exponent < twoTo 53 * twoTo exponent :=
        Nat.mul_lt_mul_of_pos_right bound (twoToPositive exponent)
      rw [← twoToAdd] at less
      exact Nat.lt_of_lt_of_le less (twoToMono (by omega))
    · rw [← twoToAdd]
      congr 1
      omega
  · refine .inl ⟨significand * twoTo (exponent - (q.log2 - 52)), ?_⟩
    rw [Nat.mul_assoc, ← twoToAdd]
    congr 2
    omega

theorem nearestClosest (positive : 0 < d) {other : Nat} (representable : Representable other) :
    distance n d (nearestUnits n d) ≤ distance n d other := by
  have closest (k : Nat) : distance n d (nearestUnits n d) ≤ distance n d (k * grain (n / d)) := by
    have near := roundDivClosest n (Nat.mul_pos positive (grainPositive (n / d))) k
    have turned (j : Nat) : j * (d * grain (n / d)) = j * grain (n / d) * d := by
      rw [Nat.mul_assoc, Nat.mul_comm d]
    rw [turned, turned] at near
    exact near
  rcases representableGrain representable (n / d) with ⟨k, rfl⟩ | ⟨small, k, top⟩
  · exact closest k
  · -- A magnitude off the grid lies below the power of two that the exact one has reached.
    by_cases zero : n / d = 0
    · rw [zero] at small
      obtain rfl : other = 0 := Nat.lt_one_iff.mp small
      simpa using closest 0
    · have near := closest k
      rw [← top] at near
      have reached : twoTo (n / d).log2 * d ≤ n :=
        Nat.le_trans (Nat.mul_le_mul_right d (Nat.log2_self_le zero)) (Nat.div_mul_le_self n d)
      have farther : other * d ≤ twoTo (n / d).log2 * d :=
        Nat.mul_le_mul_right d (Nat.le_of_lt small)
      unfold distance at near ⊢
      omega

theorem nearestNearest (n : Nat) (positive : 0 < d) : Nearest n d (nearestUnits n d) :=
  ⟨nearestRepresentable positive, fun _ => nearestClosest positive⟩

theorem nearestExact {n units : Nat} (nearest : Nearest n 1 units) (exact : Representable n) :
    units = n := by
  have near := nearest.closest n exact
  unfold distance at near
  omega

theorem nearestWithin {units limit : Nat} (positive : 0 < d) (nearest : Nearest n d units)
    (below : n ≤ limit * d) (exact : Representable limit) : units ≤ limit := by
  have near := nearest.closest limit exact
  apply Nat.le_of_not_lt
  intro above
  have step := Nat.mul_le_mul_right d above
  rw [Nat.succ_mul] at step
  unfold distance at near
  omega

theorem nearestLe {n units limit : Nat} (nearest : Nearest n 1 units) (below : n ≤ limit)
    (exact : Representable limit) : units ≤ limit :=
  nearestWithin Nat.one_pos nearest (by omega) exact

theorem nearestSome {units : Nat} (positive : 0 < d) (nearest : Nearest n d units) (some : d ≤ n) :
    units ≠ 0 := by
  rintro rfl
  have near := nearest.closest 1 ⟨1, 0, by decide, rfl⟩
  unfold distance at near
  omega

theorem wholeRepresentable {n : Nat} (small : n < twoTo 53) : Representable (n * unitsInOne) :=
  ⟨n, 1074, small, rfl⟩

theorem unitsPositive : 0 < unitsInOne := twoToPositive 1074

theorem wholeInRange {n : Nat} (small : n < twoTo 53) : n * unitsInOne < unitsLimit := by
  have limit : twoTo 53 * unitsInOne ≤ unitsLimit := by
    rw [unitsInOne, unitsLimit, ← twoToAdd]
    exact twoToMono (by omega)
  exact Nat.lt_of_lt_of_le (Nat.mul_lt_mul_of_pos_right small unitsPositive) limit

theorem ofQuotientWhole (negative : Bool) {n : Nat} (small : n < twoTo 53) :
    ofQuotient negative (n * unitsInOne) 1 = .finite negative (n * unitsInOne) := by
  have exact := nearestExact (nearestNearest (n * unitsInOne) Nat.one_pos) (wholeRepresentable small)
  simp only [ofQuotient, exact, if_pos (wholeInRange small)]

theorem ofNatExact {n : Nat} (small : n < twoTo 53) : ofNat n = .finite false (n * unitsInOne) :=
  ofQuotientWhole false small

end Binary64
end NmeaReceiver.Decimal
