import Mathlib.Algebra.Ring.Nat
import NmeaReceiver.Proofs.Link.Attempts

/-! How high the count of timeouts climbs. It is compared with the threshold before the timeout that
raises it is counted, so it may stand at one above the threshold and be raised once more; whether its
32 bits hold that depends on the threshold alone. -/
namespace NmeaReceiver
open NmeaReceiver.Link

namespace Supervisor

variable {σ : Type}

def Bounded (s : Supervisor σ) : Prop := s.timeouts.toNat ≤ s.policy.timeoutThreshold.toNat + 1

theorem boundedAnew {s t : Supervisor σ} (bounded : s.Bounded) (policy : t.policy = s.policy)
    (timeouts : t.timeouts = s.timeouts ∨ t.timeouts = 0) : t.Bounded := by
  unfold Bounded
  rcases timeouts with same | zero
  · rw [same, policy]
    exact bounded
  · rw [zero]
    exact Nat.zero_le _

theorem countedBounded {timeouts threshold : UInt32} (few : ¬ threshold < timeouts) :
    (timeouts + 1).toNat ≤ threshold.toNat + 1 := by
  rw [UInt32.lt_iff_toNat_lt] at few
  have wraps : (timeouts + 1).toNat ≤ timeouts.toNat + 1 := by
    rw [UInt32.toNat_add]
    exact Nat.mod_le _ _
  omega

variable [Link σ] {s : Supervisor σ}

theorem readLineBounded (bounded : s.Bounded) : s.readLine.2.Bounded := by
  have called := readLineCalled s
  cases came : s.outcome with
  | timeout =>
    have counted := called.timeouts
    rw [came, timeoutsAfter] at counted
    split at counted
    · exact boundedAnew bounded called.policy (.inr counted)
    · rename_i few
      unfold Bounded
      rw [counted, called.policy]
      exact countedBounded few
  | _ =>
    rw [came] at called
    refine boundedAnew bounded called.policy ?_
    simp [called.timeouts, timeoutsAfter]

theorem openWithinTimeouts (again : Nat → Bool) (bound failures : Nat) :
    (s.openWithin again bound failures).2.policy = s.policy ∧
      ((s.openWithin again bound failures).2.timeouts = s.timeouts ∨
        (s.openWithin again bound failures).2.timeouts = 0) := by
  have leaves := openWithinLeaves again bound failures s
  unfold Leaves at leaves
  split at leaves
  · exact ⟨leaves.policy, .inr leaves.timeouts⟩
  · obtain ⟨actions, quiet⟩ := leaves
    exact ⟨quiet.policy, .inl quiet.timeouts⟩

theorem performBounded (bounded : s.Bounded) (operation : Operation) :
    (s.perform operation).Bounded ∧ (s.perform operation).policy = s.policy := by
  cases operation with
  | disconnect => exact ⟨bounded, rfl⟩
  | readLine => exact ⟨readLineBounded bounded, (readLineCalled s).policy⟩
  | reconnect cooldown =>
    have renewed := reconnectRenews s cooldown
    exact ⟨boundedAnew bounded renewed.policy (.inr renewed.timeouts), renewed.policy⟩
  | tryOpen again bound =>
    obtain ⟨policy, timeouts⟩ := @openWithinTimeouts _ _ s again bound 0
    exact ⟨boundedAnew bounded policy timeouts, policy⟩

theorem performAllBounded (bounded : s.Bounded) (operations : List Operation) :
    (s.performAll operations).Bounded ∧ (s.performAll operations).policy = s.policy := by
  induction operations generalizing s with
  | nil => exact ⟨bounded, rfl⟩
  | cons operation operations ih =>
    obtain ⟨next, same⟩ := performBounded bounded operation
    obtain ⟨kept, policy⟩ := ih next
    exact ⟨kept, policy.trans same⟩

theorem performAllReads (n : Nat) (s : Supervisor σ) :
    s.performAll (List.replicate n .readLine) = s.readTimes n := by
  induction n generalizing s with
  | zero => rfl
  | succ n ih => exact ih s.readLine.2

end Supervisor

namespace Link

def silence : Script := ⟨[], []⟩

def silent (policy : Policy) (n : Nat) : Supervisor Script :=
  (Supervisor.new silence policy).readTimes n

theorem silentTimeout (policy : Policy) (n : Nat) : (silent policy n).outcome = .timeout := by
  have played := Supervisor.heardPlayback (n + 1) (Supervisor.new silence policy)
  have all : (Supervisor.new silence policy).heard (n + 1) = List.replicate (n + 1) .timeout := by
    simpa [Script.playback, silence, Supervisor.new] using played
  rw [Supervisor.heardSucc] at all
  exact List.eq_of_mem_replicate (all ▸ List.mem_append_right _ (List.mem_singleton_self _))

theorem silentCounts {policy : Policy} {n : Nat} (few : n ≤ policy.timeoutThreshold.toNat + 1)
    (room : n < 2 ^ 32) : (silent policy n).timeouts.toNat = n := by
  induction n with
  | zero => rfl
  | succ n ih =>
    have before := ih (by omega) (by omega)
    obtain ⟨kept, _, _⟩ := Supervisor.readTimesCalled n (Supervisor.new silence policy)
    have policySame : (silent policy n).policy = policy := kept
    have patient : ¬ policy.timeoutThreshold < (silent policy n).timeouts := by
      rw [UInt32.lt_iff_toNat_lt, before]
      omega
    have counted := (Supervisor.readLineCalled (silent policy n)).timeouts
    rw [silentTimeout, timeoutsAfter, policySame, if_neg patient] at counted
    rw [silent, Supervisor.readTimesSucc]
    change (silent policy n).readLine.2.timeouts.toNat = n + 1
    rw [counted, UInt32.toNat_add, before]
    exact Nat.mod_eq_of_lt room

/-- Whatever a supervisor with this policy is asked to do, and whatever its link answers, the count of
timeouts can take one more timeout. -/
def CountsSafely (policy : Policy) : Prop :=
  ∀ (σ : Type) [Link σ] (link : σ) (operations : List Supervisor.Operation),
    let s := (Supervisor.new link policy).performAll operations
    s.outcome = .timeout → s.timeouts.toNat + 1 < 2 ^ 32

theorem countsSafelyIff (policy : Policy) :
    CountsSafely policy ↔ policy.timeoutThreshold.toNat + 2 < 2 ^ 32 := by
  constructor
  · intro safe
    refine Nat.lt_of_not_le fun high => ?_
    -- Nothing but timeouts, as many as the count can hold.
    have all := Supervisor.performAllReads (2 ^ 32 - 1) (Supervisor.new silence policy)
    have room := safe Script silence (List.replicate (2 ^ 32 - 1) .readLine)
    simp only [all] at room
    have full : (silent policy (2 ^ 32 - 1)).timeouts.toNat = 2 ^ 32 - 1 :=
      silentCounts (by omega) (by omega)
    have exceeds := room (silentTimeout policy (2 ^ 32 - 1))
    change (silent policy (2 ^ 32 - 1)).timeouts.toNat + 1 < 2 ^ 32 at exceeds
    omega
  · intro low σ _ link operations s came
    have fresh : (Supervisor.new link policy).Bounded := Nat.zero_le _
    obtain ⟨bounded, kept⟩ := Supervisor.performAllBounded fresh operations
    unfold Supervisor.Bounded at bounded
    rw [kept] at bounded
    have within : s.timeouts.toNat ≤ policy.timeoutThreshold.toNat + 1 := bounded
    omega

end Link
end NmeaReceiver
