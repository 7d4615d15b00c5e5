import NmeaReceiver.Link.Opening
import NmeaReceiver.Proofs.Link.Supervision

/-! What an attempt to open a link leaves, told by what the link answered. -/
namespace NmeaReceiver.Supervisor
open NmeaReceiver.Link

variable {σ : Type} [Link σ] (s : Supervisor σ)

def dialled : Supervisor σ := s.beginConnect.2.2.elapse s.beginConnect.2.1

variable {s} {lines : Nat}

theorem handshakeGreeted {text : List Char} (came : s.outcome = .line text)
    (nmea : Sentence.isNmea text = true) :
    s.handshake (lines + 1) = (.ok (), s.afterRead) := by
  unfold handshake
  unfold outcome at came
  simp only [beginRead, came, nmea, if_true]
  rfl

theorem handshakeSkips {text : List Char} (came : s.outcome = .line text)
    (other : Sentence.isNmea text = false) :
    s.handshake (lines + 1) = s.afterRead.handshake lines := by
  rw [handshake]
  unfold outcome at came
  simp only [beginRead, came, other, Bool.false_eq_true, if_false]
  rfl

theorem handshakeFails (none : ∀ text, s.outcome ≠ .line text) :
    s.handshake (lines + 1) = (.error (.read s.outcome), s.afterRead) := by
  unfold handshake
  cases came : s.outcome with
  | line text => exact absurd came (none text)
  | _ =>
    unfold outcome at came
    simp only [beginRead, came]
    rfl

theorem attemptUnconnected {fault : Fault} (failed : (Link.connect s.link).value = .error fault) :
    s.attempt = (.error (.connect fault), s.dialled) := by
  simp only [attempt, beginConnect, failed]
  rfl

theorem attemptOpened {t : Supervisor σ} (connected : (Link.connect s.link).value = .ok ())
    (greeted : s.dialled.handshake handshakeLines = (.ok (), t)) :
    s.attempt = (.ok (), { t with timeouts := 0 }.publish .connected) := by
  simp only [dialled, beginConnect] at greeted
  simp only [attempt, beginConnect, connected, greeted]

theorem attemptDropped {t : Supervisor σ} {failure : OpenFailure}
    (connected : (Link.connect s.link).value = .ok ())
    (failed : s.dialled.handshake handshakeLines = (.error failure, t)) :
    s.attempt = (.error failure, t.dropConnection) := by
  simp only [dialled, beginConnect] at failed
  simp only [attempt, beginConnect, connected, failed]

end NmeaReceiver.Supervisor
