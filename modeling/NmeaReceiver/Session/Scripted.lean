import NmeaReceiver.Link.Opening
import NmeaReceiver.Session.Basic

/-! Sessions over a scripted link, in virtual time. -/
namespace NmeaReceiver.Session
open NmeaReceiver.Link

/-- Ticks enough for a span of time: each read takes an entry of the script or some time, and
brings at most three ticks more. -/
def tickBound (s : Session Script) (span : Nat) : Nat :=
  4 * (s.supervisor.link.length + span + 2)

def advance (s : Session Script) (span : Nat) : Session Script :=
  let limit := s.elapsed + waited span
  { runBefore limit (s.tickBound limit) s with elapsed := limit }

def collect (s : Session Script) : List (List Termination) × List Call × Session Script :=
  (s.inboxes, s.supervisor.calls.reverse,
    { s with
      inboxes := s.inboxes.map fun _ => []
      supervisor := { s.supervisor with calls := [] } })

def ended? (s : Session Script) : Option Termination :=
  match s.phase with
  | .ended why => some why
  | _ => none

end NmeaReceiver.Session
