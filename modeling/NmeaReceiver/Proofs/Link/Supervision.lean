import NmeaReceiver.Link.Supervisor

/-! What a supervised read and a reconnect leave, told by what the link answered. -/
namespace NmeaReceiver.Supervisor
open NmeaReceiver.Link

variable {σ : Type}

theorem endReconnectKeeps (s : Supervisor σ) (result : Except Fault Unit) :
    (s.endReconnect result).link = s.link ∧ (s.endReconnect result).policy = s.policy ∧
    (s.endReconnect result).timeouts = s.timeouts ∧
    (s.endReconnect result).reconnects = s.reconnects ∧ (s.endReconnect result).now = s.now := by
  cases result <;> exact ⟨rfl, rfl, rfl, rfl, rfl⟩

variable [Link σ]

def readTimes : Nat → Supervisor σ → Supervisor σ
  | 0, s => s
  | n + 1, s => readTimes n s.readLine.2

theorem readTimesSucc (n : Nat) (s : Supervisor σ) :
    s.readTimes (n + 1) = (s.readTimes n).readLine.2 := by
  induction n generalizing s with
  | zero => rfl
  | succ n ih => exact ih s.readLine.2

variable (s : Supervisor σ)

def outcome : Outcome := (Link.read s.policy.readTimeout s.link).value

def afterRead : Supervisor σ := s.beginRead.2.2.elapse s.beginRead.2.1

def counted : Supervisor σ := { s.afterRead with timeouts := s.timeouts + 1 }

theorem readLineEndRead :
    s.readLine = match s.afterRead.endRead s.outcome with
      | (.done result, t) => (result, t)
      | (.reconnect cooldown, t) => (.retry, t.reconnect cooldown) := rfl

variable {s}

theorem readLineLine {text : List Char} (came : s.outcome = .line text) :
    s.readLine = (.line text, { s.afterRead with timeouts := 0 }) := by
  rw [readLineEndRead, came]
  rfl

theorem readLineOverflow {length : Nat} (came : s.outcome = .overflow length) :
    s.readLine = (.overflow length, s.afterRead.disconnect) := by
  rw [readLineEndRead, came]
  rfl

theorem readLineRefused (came : s.outcome = .refused) :
    s.readLine = (.retry, s.afterRead.reconnect s.policy.refusedCooldown) := by
  rw [readLineEndRead, came]
  rfl

theorem readLineFailed {fault : Fault} (came : s.outcome = .failed fault) :
    s.readLine = (.retry, s.afterRead) := by
  rw [readLineEndRead, came]
  rfl

theorem endReadExhausted (many : s.policy.timeoutThreshold < s.timeouts) :
    s.endRead .timeout =
      (.reconnect s.policy.timeoutCooldown, { s with timeouts := s.timeouts + 1 }) := by
  simp only [endRead, if_pos many]

theorem endReadPatient (few : ¬ s.policy.timeoutThreshold < s.timeouts) :
    s.endRead .timeout = (.done .retry, { s with timeouts := s.timeouts + 1 }) := by
  simp only [endRead, if_neg few]

theorem readLineExhausted (came : s.outcome = .timeout)
    (many : s.policy.timeoutThreshold < s.timeouts) :
    s.readLine = (.retry, s.counted.reconnect s.policy.timeoutCooldown) := by
  have ended : s.afterRead.endRead .timeout = (.reconnect s.policy.timeoutCooldown, s.counted) :=
    endReadExhausted many
  rw [readLineEndRead, came, ended]

theorem readLineTimeout (came : s.outcome = .timeout)
    (few : ¬ s.policy.timeoutThreshold < s.timeouts) : s.readLine = (.retry, s.counted) := by
  have ended : s.afterRead.endRead .timeout = (.done .retry, s.counted) := endReadPatient few
  rw [readLineEndRead, came, ended]

variable (s) (cooldown : Nat)

def redial : Timed (Except Fault Unit) σ := Link.connect (Link.disconnect s.link)

structure Renewed (s t : Supervisor σ) (cooldown : Nat) : Prop where
  link : t.link = s.redial.link
  policy : t.policy = s.policy
  timeouts : t.timeouts = 0
  reconnects : t.reconnects = s.reconnects + 1
  now : t.now = s.now + waited cooldown + waited s.redial.delay

theorem reconnectRenews : Renewed s (s.reconnect cooldown) cooldown := by
  obtain ⟨link, policy, timeouts, reconnects, now⟩ := endReconnectKeeps
    ((s.beginReconnect.elapse cooldown).beginConnect.2.2.elapse s.redial.delay) s.redial.value
  exact ⟨link, policy, timeouts, reconnects, now⟩

theorem reconnectCalls :
    (s.reconnect cooldown).calls =
      ⟨s.now + waited cooldown, .connect, .reconnecting⟩ :: ⟨s.now, .disconnect, s.state⟩ :: s.calls := by
  change (((s.beginReconnect.elapse cooldown).beginConnect.2.2.elapse s.redial.delay).endReconnect
    s.redial.value).calls = _
  cases s.redial.value <;> rfl

end NmeaReceiver.Supervisor
