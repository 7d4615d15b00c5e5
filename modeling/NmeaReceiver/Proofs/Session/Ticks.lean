import NmeaReceiver.Proofs.Link.Supervision
import NmeaReceiver.Session.Basic

/-! All that a tick can do, one constructor for each way. -/
namespace NmeaReceiver.Session
open NmeaReceiver.Link

variable {σ : Type} [Link σ]

def cool (s : Session σ) (supervisor : Supervisor σ) (cooldown : Nat) : Session σ :=
  let dropped := supervisor.beginReconnect
  s.withSupervisor dropped (.cooling (dropped.after cooldown))

inductive Settled (s : Session σ) : Outcome → Session σ → Prop where
  | line (text : List Char) :
      Settled s (.line text)
        { s.withSupervisor { s.supervisor with timeouts := 0 } .ready with
          fix := s.fix.ingest s.clock text }
  | overflow (length : Nat) :
      Settled s (.overflow length)
        ({ s with supervisor := s.supervisor.disconnect }.finish .overflow)
  | failed (fault : Fault) : Settled s (.failed fault) (s.withSupervisor s.supervisor .ready)
  | patient (few : ¬ s.supervisor.policy.timeoutThreshold < s.supervisor.timeouts) :
      Settled s .timeout
        (s.withSupervisor { s.supervisor with timeouts := s.supervisor.timeouts + 1 } .ready)
  | exhausted (many : s.supervisor.policy.timeoutThreshold < s.supervisor.timeouts) :
      Settled s .timeout
        (s.cool { s.supervisor with timeouts := s.supervisor.timeouts + 1 }
          s.supervisor.policy.timeoutCooldown)
  | refused : Settled s .refused (s.cool s.supervisor s.supervisor.policy.refusedCooldown)

inductive Ticked (s : Session σ) : Session σ → Prop where
  | stopped (phase : s.phase = .ready) (asked : s.cancelled = true) :
      Ticked s ({ s with supervisor := s.supervisor.disconnect }.finish .requested)
  | begun (phase : s.phase = .ready) (free : s.cancelled = false) :
      Ticked s
        (s.withSupervisor s.supervisor.beginRead.2.2
          (.reading s.supervisor.beginRead.1
            (s.supervisor.beginRead.2.2.after s.supervisor.beginRead.2.1)))
  | settled {outcome : Outcome} {due : Nat} {t : Session σ} (phase : s.phase = .reading outcome due)
      (settled : Settled (s.moveTo due) outcome t) : Ticked s t
  | dialled {due : Nat} (phase : s.phase = .cooling due) :
      Ticked s
        (s.withSupervisor (s.moveTo due).supervisor.beginConnect.2.2
          (.connecting (s.moveTo due).supervisor.beginConnect.1
            ((s.moveTo due).supervisor.beginConnect.2.2.after
              (s.moveTo due).supervisor.beginConnect.2.1)))
  | answered {result : Except Fault Unit} {due : Nat} (phase : s.phase = .connecting result due) :
      Ticked s (s.withSupervisor ((s.moveTo due).supervisor.endReconnect result) .ready)
  | finished {why : Termination} (phase : s.phase = .ended why) : Ticked s s

theorem settleCases (s : Session σ) (outcome : Outcome) : Settled s outcome (s.settle outcome) := by
  cases outcome with
  | line text => exact .line text
  | overflow length => exact .overflow length
  | refused => exact .refused
  | failed fault => exact .failed fault
  | timeout =>
    by_cases many : s.supervisor.policy.timeoutThreshold < s.supervisor.timeouts
    · have cooled : s.settle .timeout =
          s.cool { s.supervisor with timeouts := s.supervisor.timeouts + 1 }
            s.supervisor.policy.timeoutCooldown := by
        rw [settle, Supervisor.endReadExhausted many]
        rfl
      rw [cooled]
      exact .exhausted many
    · have again : s.settle .timeout =
          s.withSupervisor { s.supervisor with timeouts := s.supervisor.timeouts + 1 } .ready := by
        rw [settle, Supervisor.endReadPatient many]
      rw [again]
      exact .patient many

theorem tickCases (s : Session σ) : Ticked s s.tick := by
  unfold tick
  cases phase : s.phase with
  | ready =>
    dsimp only
    unfold top
    by_cases asked : s.cancelled = true
    · rw [if_pos asked]
      exact .stopped phase asked
    · rw [if_neg asked]
      exact .begun phase (Bool.eq_false_iff.mpr asked)
  | reading outcome due => exact .settled phase (settleCases (s.moveTo due) outcome)
  | cooling due => exact .dialled phase
  | connecting result due => exact .answered phase
  | ended why => exact .finished phase

end NmeaReceiver.Session
