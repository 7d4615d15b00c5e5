/-! Powers of two and of ten, and quotients of naturals rounded to the nearest natural, a half going
to the even neighbour: within half a unit, monotone, and exact on a natural quotient. -/
namespace NmeaReceiver.Decimal

def twoTo (n : Nat) : Nat := Nat.pow 2 n

def tenTo (n : Nat) : Nat := Nat.pow 10 n

theorem twoToPositive (n : Nat) : 0 < twoTo n := Nat.pow_pos Nat.two_pos

theorem tenToPositive (n : Nat) : 0 < tenTo n := Nat.pow_pos (by decide)

theorem twoToAdd (m n : Nat) : twoTo (m + n) = twoTo m * twoTo n := Nat.pow_add 2 m n

theorem tenToSucc (n : Nat) : tenTo (n + 1) = tenTo n * 10 := rfl

def roundDiv (n d : Nat) : Nat :=
  let q := n / d
  let r := n % d
  if 2 * r < d then q
  else if d < 2 * r then q + 1
  else if q % 2 = 0 then q else q + 1

theorem roundDivCases (n d : Nat) : roundDiv n d = n / d ∨ roundDiv n d = n / d + 1 := by
  unfold roundDiv; dsimp only; split
  · exact .inl rfl
  · split
    · exact .inr rfl
    · split
      · exact .inl rfl
      · exact .inr rfl

theorem roundDivMul (m : Nat) {d : Nat} (positive : 0 < d) : roundDiv (m * d) d = m := by
  unfold roundDiv
  simp [Nat.mul_div_cancel m positive, positive]

theorem roundDivWithinHalf (n : Nat) {d : Nat} (positive : 0 < d) :
    2 * n ≤ 2 * (roundDiv n d * d) + d ∧ 2 * (roundDiv n d * d) ≤ 2 * n + d := by
  have parts : d * (n / d) + n % d = n := Nat.div_add_mod n d
  have small : n % d < d := Nat.mod_lt n positive
  have turned : n / d * d = d * (n / d) := Nat.mul_comm _ _
  unfold roundDiv; dsimp only; split
  · omega
  · split
    · have next := Nat.add_one_mul (n / d) d; omega
    · split
      · omega
      · have next := Nat.add_one_mul (n / d) d; omega

theorem roundDivLe {n d m : Nat} (positive : 0 < d) (bound : n ≤ m * d) : roundDiv n d ≤ m := by
  have parts : d * (n / d) + n % d = n := Nat.div_add_mod n d
  rcases Nat.lt_or_ge (n / d) m with below | above
  · rcases roundDivCases n d with same | next <;> omega
  · have reached : m * d ≤ d * (n / d) := by
      rw [Nat.mul_comm m d]; exact Nat.mul_le_mul_left d above
    have whole : n = m * d := by omega
    exact Nat.le_of_eq (whole ▸ roundDivMul m positive)

end NmeaReceiver.Decimal
