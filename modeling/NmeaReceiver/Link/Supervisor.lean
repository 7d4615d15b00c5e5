import NmeaReceiver.Link.Outcome
import NmeaReceiver.Link.Policy

/-! The supervisor of a link: it reads lines, counts timeouts in a row, reconnects after too
many of them or after a refusal, and closes the link when a line is too long. Each operation
is made of steps between which time passes; calls on the link are kept in a log. -/
namespace NmeaReceiver
open NmeaReceiver.Link

namespace Link

inductive ConnectionState where
  | disconnected
  | connected
  | reconnecting
  deriving DecidableEq, Repr

inductive Action where
  | connect
  | disconnect
  | read (timeout : Nat)
  deriving DecidableEq, Repr

structure Call where
  time : Nat
  action : Action
  state : ConnectionState
  deriving DecidableEq, Repr

inductive Supervised where
  | line (text : List Char)
  | retry
  | overflow (length : Nat)
  deriving DecidableEq, Repr

inductive Aftermath where
  | done (result : Supervised)
  | reconnect (cooldown : Nat)
  deriving DecidableEq, Repr

end Link

structure Supervisor (σ : Type) where
  link : σ
  policy : Policy
  state : ConnectionState
  timeouts : UInt32
  reconnects : Nat
  now : Nat
  calls : List Call
  published : Nat

namespace Supervisor

variable {σ : Type}

def new (link : σ) (policy : Policy) : Supervisor σ :=
  ⟨link, policy, .disconnected, 0, 0, 0, [], 0⟩

def after (s : Supervisor σ) (delay : Nat) : Nat := s.now + waited delay

def elapse (s : Supervisor σ) (delay : Nat) : Supervisor σ := { s with now := s.after delay }

def publish (s : Supervisor σ) (state : ConnectionState) : Supervisor σ :=
  { s with state := state, published := s.published + 1 }

def log (s : Supervisor σ) (action : Action) : Supervisor σ :=
  { s with calls := ⟨s.now, action, s.state⟩ :: s.calls }

variable [Link σ]

def beginRead (s : Supervisor σ) : Outcome × Nat × Supervisor σ :=
  let logged := s.log (.read s.policy.readTimeout)
  let answer := Link.read s.policy.readTimeout s.link
  (answer.value, answer.delay, { logged with link := answer.link })

def beginConnect (s : Supervisor σ) : Except Fault Unit × Nat × Supervisor σ :=
  let logged := s.log .connect
  let answer := Link.connect s.link
  (answer.value, answer.delay, { logged with link := answer.link })

def dropConnection (s : Supervisor σ) : Supervisor σ :=
  { s.log .disconnect with link := Link.disconnect s.link }

def disconnect (s : Supervisor σ) : Supervisor σ := s.dropConnection.publish .disconnected

def beginReconnect (s : Supervisor σ) : Supervisor σ :=
  let dropped := s.dropConnection.publish .reconnecting
  { dropped with reconnects := dropped.reconnects + 1, timeouts := 0 }

def endReconnect (s : Supervisor σ) : Except Fault Unit → Supervisor σ
  | .ok () => s.publish .connected
  | .error _ => s.publish .disconnected

/-- A read ends. The count of timeouts is compared as it was before this one. -/
def endRead (s : Supervisor σ) : Outcome → Aftermath × Supervisor σ
  | .line text => (.done (.line text), { s with timeouts := 0 })
  | .overflow length => (.done (.overflow length), s.disconnect)
  | .refused => (.reconnect s.policy.refusedCooldown, s)
  | .timeout =>
    let counted := { s with timeouts := s.timeouts + 1 }
    if s.policy.timeoutThreshold < s.timeouts then
      (.reconnect s.policy.timeoutCooldown, counted)
    else (.done .retry, counted)
  | .failed _ => (.done .retry, s)

def reconnect (s : Supervisor σ) (cooldown : Nat) : Supervisor σ :=
  let (result, delay, s) := (s.beginReconnect.elapse cooldown).beginConnect
  (s.elapse delay).endReconnect result

def readLine (s : Supervisor σ) : Supervised × Supervisor σ :=
  let (outcome, delay, s) := s.beginRead
  match (s.elapse delay).endRead outcome with
  | (.done result, s) => (result, s)
  | (.reconnect cooldown, s) => (.retry, s.reconnect cooldown)

end Supervisor
end NmeaReceiver
