import Mathlib.Algebra.Ring.Nat
import NmeaReceiver.Link.Script
import NmeaReceiver.Proofs.Link.Supervision

/-! The counts of a supervisor and its clock, in closed form. A stretch is what lies between two
reads that gave a line or were refused; one period of timeouts in it makes one reconnect. A turn is
all that one supervised read can do, and an account is what a run of them has come to: the timeouts
left over from whole periods, the reconnects, and the time spent beside the reads. -/
namespace NmeaReceiver.Link

def Outcome.ends : Outcome → Bool
  | .line _ | .refused => true
  | _ => false

def stretches (outcomes : List Outcome) : List Nat :=
  (outcomes.splitOnP Outcome.ends).map (·.count .timeout)

def refusals (outcomes : List Outcome) : Nat := outcomes.count .refused

def renewals (period : Nat) (counts : List Nat) : Nat := (counts.map (· / period)).sum

def totalDelay {α : Type} (cues : List (Cue α)) : Nat := (cues.map fun cue => waited cue.delay).sum

theorem stretchesSome (outcomes : List Outcome) :
    ∃ first others, stretches outcomes = first :: others := by
  unfold stretches
  cases pieces : outcomes.splitOnP Outcome.ends with
  | nil => exact absurd pieces (List.splitOnP_ne_nil _ _)
  | cons first others => exact ⟨_, _, rfl⟩

theorem stretchesEnds {outcome : Outcome} (ends : outcome.ends = true) (outcomes : List Outcome) :
    stretches (outcome :: outcomes) = 0 :: stretches outcomes := by
  simp [stretches, List.splitOnP_cons_eq_if_modifyHead, ends]

theorem stretchesTimeout (outcomes : List Outcome) :
    stretches (.timeout :: outcomes) = (stretches outcomes).modifyHead (· + 1) := by
  unfold stretches
  rw [List.splitOnP_cons_eq_if_modifyHead]
  cases outcomes.splitOnP Outcome.ends <;> simp [Outcome.ends]

theorem stretchesFailed (fault : Fault) (outcomes : List Outcome) :
    stretches (.failed fault :: outcomes) = stretches outcomes := by
  unfold stretches
  rw [List.splitOnP_cons_eq_if_modifyHead]
  cases outcomes.splitOnP Outcome.ends <;> simp [Outcome.ends]

theorem scriptConnectDelay (script : Script) :
    waited (Link.connect script).delay = totalDelay (script.connects.take 1) := by
  change waited (Script.connect script).delay = _
  obtain ⟨reads, connects⟩ := script
  rcases connects with _ | ⟨⟨_ | fault, delay⟩, rest⟩ <;> simp [Script.connect, totalDelay, waited]

theorem totalDelayTake {α : Type} (cues : List (Cue α)) (n : Nat) :
    totalDelay (cues.take (n + 1)) = totalDelay (cues.take 1) + totalDelay (cues.tail.take n) := by
  cases cues <;> simp [totalDelay]

end NmeaReceiver.Link

namespace NmeaReceiver.Supervisor
open NmeaReceiver.Link

structure Calm (s t : Supervisor Script) (delay : Nat) : Prop where
  connects : t.link.connects = s.link.connects
  reconnects : t.reconnects = s.reconnects
  now : t.now = s.now + waited delay

structure Redialled (s t : Supervisor Script) (delay cooldown : Nat) : Prop where
  timeouts : t.timeouts.toNat = 0
  connects : t.link.connects = s.link.connects.tail
  reconnects : t.reconnects = s.reconnects + 1
  now : t.now =
    s.now + waited delay + waited cooldown + totalDelay (s.link.connects.take 1)

inductive Turn (s t : Supervisor Script) (delay : Nat) : Outcome → Prop where
  | line (text : List Char) (anew : t.timeouts.toNat = 0) (calm : Calm s t delay) :
      Turn s t delay (.line text)
  | failed (fault : Fault) (same : t.timeouts = s.timeouts) (calm : Calm s t delay) :
      Turn s t delay (.failed fault)
  | patient (few : s.timeouts.toNat ≤ s.policy.timeoutThreshold.toNat)
      (counted : t.timeouts.toNat = s.timeouts.toNat + 1) (calm : Calm s t delay) :
      Turn s t delay .timeout
  | exhausted (many : s.policy.timeoutThreshold.toNat < s.timeouts.toNat)
      (redialled : Redialled s t delay s.policy.timeoutCooldown) : Turn s t delay .timeout
  | refused (redialled : Redialled s t delay s.policy.refusedCooldown) : Turn s t delay .refused

variable {s : Supervisor Script} {cue : Cue Outcome} {rest : List (Cue Outcome)}

theorem scriptOutcome (reads : s.link.reads = cue :: rest) : s.outcome = cue.value := by
  rw [outcome, scriptRead _ reads]

theorem scriptAfterLink (reads : s.link.reads = cue :: rest) :
    s.afterRead.link = { s.link with reads := rest } := by
  change (Link.read s.policy.readTimeout s.link).link = _
  rw [scriptRead _ reads]

theorem scriptAfterNow (reads : s.link.reads = cue :: rest) :
    s.afterRead.now = s.now + waited cue.delay := by
  change s.now + waited (Link.read s.policy.readTimeout s.link).delay = _
  rw [scriptRead _ reads]

theorem renewedRedialled {t u : Supervisor Script} {cooldown : Nat}
    (renewed : Renewed t u cooldown) (reads : s.link.reads = cue :: rest)
    (link : t.link = s.afterRead.link) (reconnects : t.reconnects = s.reconnects)
    (now : t.now = s.afterRead.now) :
    u.link.reads = rest ∧ Redialled s u cue.delay cooldown := by
  have dialled : u.link = { s.link with reads := rest, connects := s.link.connects.tail } := by
    rw [renewed.link, redial, link, scriptAfterLink reads, scriptConnectLink]
    rfl
  refine ⟨by rw [dialled], ?_, by rw [dialled], ?_, ?_⟩
  · rw [renewed.timeouts]
    rfl
  · rw [renewed.reconnects, reconnects]
  · rw [renewed.now, now, scriptAfterNow reads, redial, link, scriptAfterLink reads,
      scriptConnectDelay]
    rfl

theorem readLineTurn (reads : s.link.reads = cue :: rest)
    (fits : ∀ length, cue.value ≠ .overflow length) (room : s.timeouts.toNat + 1 < 2 ^ 32) :
    s.readLine.2.policy = s.policy ∧ s.readLine.2.link.reads = rest ∧
      Turn s s.readLine.2 cue.delay cue.value := by
  have came := scriptOutcome reads
  have calm : Calm s s.afterRead cue.delay :=
    ⟨by rw [scriptAfterLink reads], rfl, scriptAfterNow reads⟩
  have left : s.afterRead.link.reads = rest := by rw [scriptAfterLink reads]
  cases shown : cue.value with
  | line text =>
    rw [readLineLine (came.trans shown)]
    exact ⟨rfl, left, .line text rfl ⟨calm.connects, calm.reconnects, calm.now⟩⟩
  | failed fault =>
    rw [readLineFailed (came.trans shown)]
    exact ⟨rfl, left, .failed fault rfl calm⟩
  | overflow length => exact absurd shown (fits length)
  | refused =>
    rw [readLineRefused (came.trans shown)]
    have renewed := reconnectRenews s.afterRead s.policy.refusedCooldown
    obtain ⟨left, redialled⟩ := renewedRedialled renewed reads rfl rfl rfl
    exact ⟨renewed.policy, left, .refused redialled⟩
  | timeout =>
    by_cases many : s.policy.timeoutThreshold < s.timeouts
    · rw [readLineExhausted (came.trans shown) many]
      have renewed := reconnectRenews s.counted s.policy.timeoutCooldown
      obtain ⟨left, redialled⟩ := renewedRedialled renewed reads rfl rfl rfl
      exact ⟨renewed.policy, left, .exhausted (UInt32.lt_iff_toNat_lt.mp many) redialled⟩
    · have few : s.timeouts.toNat ≤ s.policy.timeoutThreshold.toNat := by
        rw [UInt32.lt_iff_toNat_lt] at many
        omega
      rw [readLineTimeout (came.trans shown) many]
      refine ⟨rfl, left, .patient few ?_ ⟨calm.connects, calm.reconnects, calm.now⟩⟩
      change (s.timeouts + 1).toNat = s.timeouts.toNat + 1
      rw [UInt32.toNat_add]
      exact Nat.mod_eq_of_lt room

structure Spent (s t : Supervisor Script) (cues : List (Cue Outcome)) (refused renewed : Nat) :
    Prop where
  reconnects : t.reconnects = s.reconnects + (refused + renewed)
  now : t.now = s.now + totalDelay cues + totalDelay (s.link.connects.take (refused + renewed)) +
    refused * waited s.policy.refusedCooldown + renewed * waited s.policy.timeoutCooldown

theorem totalDelayCons {α : Type} (cue : Cue α) (cues : List (Cue α)) :
    totalDelay (cue :: cues) = waited cue.delay + totalDelay cues := by
  simp [totalDelay]

variable {t u : Supervisor Script} {cues : List (Cue Outcome)} {refused renewed : Nat}

theorem spentCalm (policy : t.policy = s.policy) (calm : Calm s t cue.delay)
    (spent : Spent t u cues refused renewed) : Spent s u (cue :: cues) refused renewed := by
  obtain ⟨reconnects, now⟩ := spent
  rw [policy, calm.connects, calm.now] at now
  refine ⟨by rw [reconnects, calm.reconnects], ?_⟩
  rw [totalDelayCons, now]
  omega

theorem spentRefused (policy : t.policy = s.policy)
    (redialled : Redialled s t cue.delay s.policy.refusedCooldown)
    (spent : Spent t u cues refused renewed) : Spent s u (cue :: cues) (refused + 1) renewed := by
  obtain ⟨reconnects, now⟩ := spent
  have more : refused + 1 + renewed = refused + renewed + 1 := by omega
  rw [policy, redialled.connects, redialled.now] at now
  refine ⟨by rw [reconnects, redialled.reconnects]; omega, ?_⟩
  rw [totalDelayCons, more, totalDelayTake, Nat.add_mul, Nat.one_mul, now]
  omega

theorem spentExhausted (policy : t.policy = s.policy)
    (redialled : Redialled s t cue.delay s.policy.timeoutCooldown)
    (spent : Spent t u cues refused renewed) : Spent s u (cue :: cues) refused (renewed + 1) := by
  obtain ⟨reconnects, now⟩ := spent
  have more : refused + (renewed + 1) = refused + renewed + 1 := by omega
  rw [policy, redialled.connects, redialled.now] at now
  refine ⟨by rw [reconnects, redialled.reconnects]; omega, ?_⟩
  rw [totalDelayCons, more, totalDelayTake, Nat.add_mul, Nat.one_mul, now]
  omega

def period (policy : Policy) : Nat := policy.timeoutThreshold.toNat + 2

def carried (s : Supervisor Script) (cues : List (Cue Outcome)) : List Nat :=
  (stretches (cues.map (·.value))).modifyHead (s.timeouts.toNat + ·)

structure Account (s t : Supervisor Script) (cues : List (Cue Outcome)) : Prop where
  timeouts : t.timeouts.toNat = (carried s cues).getLastD 0 % period s.policy
  spent : Spent s t cues (refusals (cues.map (·.value))) (renewals (period s.policy) (carried s cues))

theorem accountNone (few : s.timeouts.toNat < period s.policy) : Account s s [] := by
  have carry : carried s [] = [s.timeouts.toNat] := rfl
  have nothing : renewals (period s.policy) [s.timeouts.toNat] = 0 := by
    simp [renewals, Nat.div_eq_of_lt few]
  refine ⟨?_, ?_⟩
  · rw [carry]
    exact (Nat.mod_eq_of_lt few).symm
  · rw [carry, nothing]
    exact ⟨rfl, by simp [totalDelay, refusals]⟩

theorem carriedEnds (ends : cue.value.ends = true) :
    carried s (cue :: cues) = s.timeouts.toNat :: stretches (cues.map (·.value)) := by
  rw [carried, List.map_cons, stretchesEnds ends]
  rfl

theorem carriedFailed (fault : Fault) (delay : Nat) :
    carried s (⟨.failed fault, delay⟩ :: cues) = carried s cues := by
  rw [carried, List.map_cons, stretchesFailed]
  rfl

theorem carriedTimeout (delay : Nat) :
    carried s (⟨.timeout, delay⟩ :: cues) =
      (stretches (cues.map (·.value))).modifyHead (s.timeouts.toNat + 1 + ·) := by
  rw [carried, List.map_cons, stretchesTimeout, List.modifyHead_modifyHead]
  congr 1
  funext count
  change s.timeouts.toNat + (count + 1) = s.timeouts.toNat + 1 + count
  omega

theorem renewalsCons (period count : Nat) (others : List Nat) :
    renewals period (count :: others) = count / period + renewals period others := by
  simp [renewals]

theorem lastWhole (period first : Nat) (others : List Nat) :
    ((period + first) :: others).getLastD 0 % period = (first :: others).getLastD 0 % period := by
  cases others with
  | nil => exact Nat.add_mod_left period first
  | cons second later => rfl

theorem accountTurn (few : s.timeouts.toNat < period s.policy) (policy : t.policy = s.policy)
    (turn : Turn s t cue.delay cue.value) (account : Account t u cues) :
    Account s u (cue :: cues) := by
  obtain ⟨timeouts, spent⟩ := account
  obtain ⟨value, delay⟩ := cue
  obtain ⟨first, others, shape⟩ := stretchesSome (cues.map (·.value))
  have positive : 0 < period s.policy := Nat.succ_pos _
  have none : s.timeouts.toNat / period s.policy = 0 := Nat.div_eq_of_lt few
  rw [policy, carried, shape, List.modifyHead_cons] at timeouts spent
  cases turn with
  | line text anew calm =>
    rw [anew, Nat.zero_add] at timeouts spent
    refine ⟨?_, ?_⟩
    · rw [carriedEnds rfl, shape]
      exact timeouts
    · rw [carriedEnds rfl, shape, renewalsCons, none, Nat.zero_add]
      exact spentCalm policy calm spent
  | failed fault same calm =>
    rw [same] at timeouts spent
    refine ⟨?_, ?_⟩
    · rw [carriedFailed, carried, shape]
      exact timeouts
    · rw [carriedFailed, carried, shape]
      exact spentCalm policy calm spent
  | patient few counted calm =>
    rw [counted] at timeouts spent
    refine ⟨?_, ?_⟩
    · rw [carriedTimeout, shape]
      exact timeouts
    · rw [carriedTimeout, shape]
      exact spentCalm policy calm spent
  | exhausted many redialled =>
    -- This timeout fills the period, and the stretch goes on as if it began anew.
    have whole : s.timeouts.toNat + 1 = period s.policy := by
      unfold period at few ⊢
      omega
    rw [redialled.timeouts, Nat.zero_add] at timeouts spent
    refine ⟨?_, ?_⟩
    · rw [carriedTimeout, shape, List.modifyHead_cons, whole, lastWhole]
      exact timeouts
    · rw [carriedTimeout, shape, List.modifyHead_cons, whole, renewalsCons,
        Nat.add_div_left first positive, Nat.succ_add, ← renewalsCons]
      exact spentExhausted policy redialled spent
  | refused redialled =>
    rw [redialled.timeouts, Nat.zero_add] at timeouts spent
    refine ⟨?_, ?_⟩
    · rw [carriedEnds rfl, shape]
      exact timeouts
    · rw [carriedEnds rfl, shape, renewalsCons, none, Nat.zero_add]
      have more : refusals ((⟨.refused, delay⟩ :: cues : List (Cue Outcome)).map (·.value)) =
          refusals (cues.map (·.value)) + 1 := by simp [refusals]
      rw [more]
      exact spentRefused policy redialled spent

theorem turnFew (few : s.timeouts.toNat < period s.policy) {outcome : Outcome} {delay : Nat}
    (turn : Turn s t delay outcome) : t.timeouts.toNat < period s.policy := by
  have positive : 0 < period s.policy := Nat.succ_pos _
  cases turn with
  | line text anew calm => rw [anew]; exact positive
  | failed fault same calm => rw [same]; exact few
  | patient few counted calm => rw [counted]; unfold period; omega
  | exhausted many redialled => rw [redialled.timeouts]; exact positive
  | refused redialled => rw [redialled.timeouts]; exact positive

theorem readTimesAccount {later : List (Cue Outcome)} (reads : s.link.reads = cues ++ later)
    (fits : ∀ cue ∈ cues, ∀ length, cue.value ≠ .overflow length)
    (few : s.timeouts.toNat < period s.policy) (range : period s.policy < 2 ^ 32) :
    Account s (s.readTimes cues.length) cues := by
  induction cues generalizing s with
  | nil => exact accountNone few
  | cons cue cues ih =>
    obtain ⟨policy, left, turn⟩ := readLineTurn reads (fits cue List.mem_cons_self) (by omega)
    refine accountTurn few policy turn (ih left ?_ ?_ ?_)
    · exact fun other member => fits other (List.mem_cons_of_mem _ member)
    · rw [policy]
      exact turnFew few turn
    · rw [policy]
      exact range

theorem carriedNew (script : Script) (policy : Policy) (cues : List (Cue Outcome)) :
    carried (.new script policy) cues = stretches (cues.map (·.value)) := by
  obtain ⟨first, others, shape⟩ := stretchesSome (cues.map (·.value))
  rw [carried, shape]
  exact congrArg (· :: others) (Nat.zero_add first)

theorem stretchesSettleCounts (policy : Policy) (cues : List (Cue Outcome))
    (connects : List (Cue (Option Fault))) (range : policy.timeoutThreshold.toNat ≤ 2 ^ 32 - 3)
    (fits : ∀ cue ∈ cues, ∀ length, cue.value ≠ .overflow length) :
    let first : Supervisor Script := .new ⟨cues, connects⟩ policy
    let last := first.readTimes cues.length
    let counts := stretches (cues.map (·.value))
    let refused := refusals (cues.map (·.value))
    let renewed := renewals (policy.timeoutThreshold.toNat + 2) counts
    last.timeouts.toNat = counts.getLastD 0 % (policy.timeoutThreshold.toNat + 2) ∧
    last.reconnects = refused + renewed ∧
    last.now = totalDelay cues + totalDelay (connects.take last.reconnects) +
      refused * waited policy.refusedCooldown + renewed * waited policy.timeoutCooldown ∧
    ∀ n ≤ cues.length, (first.readTimes n).timeouts.toNat + 1 < 2 ^ 32 := by
  intro first last counts refused renewed
  have wide : period first.policy < 2 ^ 32 := by
    change policy.timeoutThreshold.toNat + 2 < 2 ^ 32
    omega
  have few : first.timeouts.toNat < period first.policy := Nat.succ_pos _
  have whole : first.link.reads = cues ++ [] := (List.append_nil cues).symm
  obtain ⟨timeouts, reconnects, now⟩ := readTimesAccount whole fits few wide
  rw [carriedNew] at timeouts reconnects now
  have gained : last.reconnects = refused + renewed := reconnects.trans (Nat.zero_add _)
  refine ⟨timeouts, gained, ?_, ?_⟩
  · rw [gained]
    exact now.trans (by rw [show first.now = 0 from rfl, Nat.zero_add]; rfl)
  · intro n within
    have front : first.link.reads = cues.take n ++ cues.drop n := (List.take_append_drop n cues).symm
    have account := readTimesAccount front
      (fun cue member => fits cue (List.mem_of_mem_take member)) few wide
    rw [List.length_take, Nat.min_eq_left within] at account
    have below : (first.readTimes n).timeouts.toNat < period first.policy := by
      rw [account.timeouts]
      exact Nat.mod_lt _ (Nat.succ_pos _)
    omega

theorem stretchesSettleCountsOfTwo :
    let policy : Policy := { Policy.standard with timeoutThreshold := 1 }
    let cues : List (Cue Outcome) :=
      [⟨.timeout, 10⟩, ⟨.timeout, 0⟩, ⟨.failed (.other "framing"), 5⟩, ⟨.timeout, 0⟩, ⟨.timeout, 0⟩,
        ⟨.refused, 0⟩, ⟨.timeout, 0⟩, ⟨.timeout, 0⟩]
    let last := (Supervisor.new (⟨cues, [⟨none, 7⟩]⟩ : Script) policy).readTimes cues.length
    policy.timeoutThreshold.toNat ≤ 2 ^ 32 - 3 ∧
    (∀ cue ∈ cues, ∀ length, cue.value ≠ .overflow length) ∧
    last.timeouts.toNat = 2 ∧ last.reconnects = 2 ∧ last.now = 15 + 7 + 10000 + 5000 := by
  intro policy cues last
  have range : policy.timeoutThreshold.toNat ≤ 2 ^ 32 - 3 := by decide
  have fits : ∀ cue ∈ cues, ∀ length, cue.value ≠ .overflow length := by simp [cues]
  obtain ⟨timeouts, reconnects, now, _⟩ := stretchesSettleCounts policy cues [⟨none, 7⟩] range fits
  have gained : last.reconnects = 2 := reconnects.trans (by decide)
  refine ⟨range, fits, timeouts.trans (by decide), gained, ?_⟩
  rw [show last.now = _ from now]
  decide

theorem cooldownCutShort :
    ¬ ∀ (policy : Policy) (cues : List (Cue Outcome)) (connects : List (Cue (Option Fault))),
      policy.timeoutThreshold.toNat ≤ 2 ^ 32 - 3 →
      (∀ cue ∈ cues, ∀ length, cue.value ≠ .overflow length) →
      let last := (Supervisor.new (⟨cues, connects⟩ : Script) policy).readTimes cues.length
      let counts := stretches (cues.map (·.value))
      last.now = totalDelay cues + totalDelay (connects.take last.reconnects) +
        refusals (cues.map (·.value)) * policy.refusedCooldown +
        renewals (policy.timeoutThreshold.toNat + 2) counts * policy.timeoutCooldown := by
  intro claim
  have wrong := claim { Policy.standard with refusedCooldown := 9223372036854775807 }
    [⟨.refused, 0⟩] [⟨none, 5⟩] (by decide) (by simp)
  revert wrong
  decide

end NmeaReceiver.Supervisor
