import NmeaReceiver.Proofs.Link.Opening

/-! A link under watch: beside the link stands whether the last connect or disconnect on it was a
connect that succeeded. The link answers as it does without the watch, so a supervisor of a watched
link does what it does with the link alone. -/
namespace NmeaReceiver
open NmeaReceiver.Link

namespace Link

structure Watched (σ : Type) where
  link : σ
  up : Bool

variable {σ : Type} [Link σ]

instance : Link (Watched σ) where
  connect w :=
    let answer := Link.connect w.link
    ⟨answer.value, answer.delay, answer.link, answer.value.toBool⟩
  disconnect w := ⟨Link.disconnect w.link, false⟩
  read timeout w :=
    let answer := Link.read timeout w.link
    ⟨answer.value, answer.delay, answer.link, w.up⟩

end Link

namespace Supervisor

inductive Operation where
  | tryOpen (again : Nat → Bool) (bound : Nat)
  | readLine
  | reconnect (cooldown : Nat)
  | disconnect

section Operations

variable {σ : Type} [Link σ]

def perform (s : Supervisor σ) : Operation → Supervisor σ
  | .tryOpen again bound => (s.openWithin again bound 0).2
  | .readLine => s.readLine.2
  | .reconnect cooldown => s.reconnect cooldown
  | .disconnect => s.disconnect

def performAll (s : Supervisor σ) (operations : List Operation) : Supervisor σ :=
  operations.foldl perform s

theorem performAllSnoc (s : Supervisor σ) (operations : List Operation) (last : Operation) :
    s.performAll (operations ++ [last]) = (s.performAll operations).perform last := by
  simp [performAll, List.foldl_append]

end Operations

variable {σ : Type}

def unwatched (s : Supervisor (Watched σ)) : Supervisor σ :=
  ⟨s.link.link, s.policy, s.state, s.timeouts, s.reconnects, s.now, s.calls, s.published⟩

theorem unwatchedEndReconnect (s : Supervisor (Watched σ)) (result : Except Fault Unit) :
    s.unwatched.endReconnect result = (s.endReconnect result).unwatched := by
  cases result <;> rfl

variable [Link σ] (s : Supervisor (Watched σ))

theorem unwatchedReconnect (cooldown : Nat) :
    s.unwatched.reconnect cooldown = (s.reconnect cooldown).unwatched :=
  unwatchedEndReconnect
    ((s.beginReconnect.elapse cooldown).beginConnect.2.2.elapse s.redial.delay) s.redial.value

theorem unwatchedReadLine :
    s.unwatched.readLine = (s.readLine.1, s.readLine.2.unwatched) := by
  have same : s.unwatched.outcome = s.outcome := rfl
  cases came : s.outcome with
  | line text =>
    rw [readLineLine came, readLineLine (same.trans came)]
    rfl
  | overflow length =>
    rw [readLineOverflow came, readLineOverflow (same.trans came)]
    rfl
  | refused =>
    rw [readLineRefused came, readLineRefused (same.trans came)]
    exact congrArg (Prod.mk _) (unwatchedReconnect s.afterRead s.policy.refusedCooldown)
  | failed fault =>
    rw [readLineFailed came, readLineFailed (same.trans came)]
    rfl
  | timeout =>
    by_cases many : s.policy.timeoutThreshold < s.timeouts
    · rw [readLineExhausted came many, readLineExhausted (same.trans came) many]
      exact congrArg (Prod.mk _) (unwatchedReconnect s.counted s.policy.timeoutCooldown)
    · rw [readLineTimeout came many, readLineTimeout (same.trans came) many]
      rfl

theorem unwatchedHandshake (lines : Nat) :
    s.unwatched.handshake lines = ((s.handshake lines).1, (s.handshake lines).2.unwatched) := by
  induction lines generalizing s with
  | zero => rfl
  | succ lines ih =>
    have same : s.unwatched.outcome = s.outcome := rfl
    by_cases told : ∃ text, s.outcome = .line text
    · obtain ⟨text, came⟩ := told
      cases nmea : Sentence.isNmea text with
      | true =>
        rw [handshakeGreeted came nmea, handshakeGreeted (same.trans came) nmea]
        rfl
      | false =>
        rw [handshakeSkips came nmea, handshakeSkips (same.trans came) nmea]
        exact ih s.afterRead
    · have none : ∀ text, s.outcome ≠ .line text := fun text came => told ⟨text, came⟩
      rw [handshakeFails none, handshakeFails (same ▸ none)]
      rfl

theorem unwatchedAttempt :
    s.unwatched.attempt = (s.attempt.1, s.attempt.2.unwatched) := by
  have same : (Link.connect s.unwatched.link).value = (Link.connect s.link).value := rfl
  cases answer : (Link.connect s.link).value with
  | error fault =>
    rw [attemptUnconnected answer, attemptUnconnected (same.trans answer)]
    rfl
  | ok value =>
    have spoke : s.unwatched.dialled.handshake handshakeLines =
        ((s.dialled.handshake handshakeLines).1, (s.dialled.handshake handshakeLines).2.unwatched) :=
      unwatchedHandshake s.dialled handshakeLines
    cases greeted : s.dialled.handshake handshakeLines with
    | mk result t =>
      rw [greeted] at spoke
      cases result with
      | ok value =>
        rw [attemptOpened answer greeted, attemptOpened (same.trans answer) spoke]
        rfl
      | error failure =>
        rw [attemptDropped answer greeted, attemptDropped (same.trans answer) spoke]
        rfl

theorem unwatchedOpenWithin (again : Nat → Bool) (bound failures : Nat) :
    s.unwatched.openWithin again bound failures =
      ((s.openWithin again bound failures).1, (s.openWithin again bound failures).2.unwatched) := by
  induction bound generalizing s failures with
  | zero => exact unwatchedAttempt s
  | succ bound ih =>
    have tried := unwatchedAttempt s
    unfold openWithin
    cases attempted : s.attempt with
    | mk result t =>
      rw [attempted] at tried
      rw [tried]
      cases result with
      | ok value => rfl
      | error failure =>
        dsimp only
        split
        · exact ih t (failures + 1)
        · rfl

theorem unwatchedPerform (operation : Operation) :
    s.unwatched.perform operation = (s.perform operation).unwatched := by
  cases operation with
  | tryOpen again bound => exact congrArg Prod.snd (unwatchedOpenWithin s again bound 0)
  | readLine => exact congrArg Prod.snd (unwatchedReadLine s)
  | reconnect cooldown => exact unwatchedReconnect s cooldown
  | disconnect => rfl

theorem unwatchedPerformAll (operations : List Operation) :
    s.unwatched.performAll operations = (s.performAll operations).unwatched := by
  induction operations generalizing s with
  | nil => rfl
  | cons operation operations ih =>
    change (s.unwatched.perform operation).performAll operations = _
    rw [unwatchedPerform]
    exact ih (s.perform operation)

end Supervisor
end NmeaReceiver
