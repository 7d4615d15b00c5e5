import NmeaReceiver.Fix.State
import NmeaReceiver.Link.Script
import NmeaReceiver.Link.Supervisor

/-! A session: a loop that reads lines from a supervised link into the fix until a line is too
long or a disconnect is asked for, and callers that poll, subscribe and ask for the disconnect
while it runs. The loop is a machine whose ticks are the moments at which it acts; callers act
between ticks. -/
namespace NmeaReceiver

namespace Session

inductive Termination where
  | overflow
  | requested
  deriving DecidableEq, Repr

def Termination.name : Termination → String
  | .overflow => "Overflow"
  | .requested => "Requested"

inductive Phase where
  | ready
  | reading (outcome : Link.Outcome) (due : Nat)
  | cooling (due : Nat)
  | connecting (result : Except Link.Fault Unit) (due : Nat)
  | ended (why : Termination)

end Session

open NmeaReceiver.Session

structure Session (σ : Type) where
  supervisor : Supervisor σ
  clock : Fix.Clock
  fix : Fix.State
  phase : Phase
  cancelled : Bool
  inboxes : List (List Termination)
  elapsed : Nat

namespace Session

variable {σ : Type}

def start (supervisor : Supervisor σ) (clock : Fix.Clock) : Session σ :=
  ⟨{ supervisor with now := 0, calls := [] }, clock, .empty, .ready, false, [[]], 0⟩

def due? (s : Session σ) : Option Nat :=
  match s.phase with
  | .ready => some s.supervisor.now
  | .reading _ due | .cooling due | .connecting _ due => some due
  | .ended _ => none

def finish (s : Session σ) (why : Termination) : Session σ :=
  { s with phase := .ended why, inboxes := s.inboxes.map (· ++ [why]) }

variable [Link σ]

def withSupervisor (s : Session σ) (supervisor : Supervisor σ) (phase : Phase) : Session σ :=
  { s with supervisor := supervisor, phase := phase }

/-- At the top of the loop a disconnect that was asked for comes before the next read. -/
def top (s : Session σ) : Session σ :=
  if s.cancelled then { s with supervisor := s.supervisor.disconnect }.finish .requested
  else
    let (outcome, delay, supervisor) := s.supervisor.beginRead
    s.withSupervisor supervisor (.reading outcome (supervisor.after delay))

def settle (s : Session σ) (outcome : Link.Outcome) : Session σ :=
  match s.supervisor.endRead outcome with
  | (.done (.line text), supervisor) =>
    { s.withSupervisor supervisor .ready with fix := s.fix.ingest s.clock text }
  | (.done .retry, supervisor) => s.withSupervisor supervisor .ready
  | (.done (.overflow _), supervisor) => { s with supervisor := supervisor }.finish .overflow
  | (.reconnect cooldown, supervisor) =>
    let supervisor := supervisor.beginReconnect
    s.withSupervisor supervisor (.cooling (supervisor.after cooldown))

def moveTo (s : Session σ) (due : Nat) : Session σ :=
  { s with supervisor := { s.supervisor with now := due } }

def tick (s : Session σ) : Session σ :=
  match s.phase with
  | .ready => s.top
  | .reading outcome due => (s.moveTo due).settle outcome
  | .cooling due =>
    let (result, delay, supervisor) := (s.moveTo due).supervisor.beginConnect
    s.withSupervisor supervisor (.connecting result (supervisor.after delay))
  | .connecting result due =>
    s.withSupervisor ((s.moveTo due).supervisor.endReconnect result) .ready
  | .ended _ => s

inductive Action where
  | poll
  | subscribe
  | disconnect
  | tick
  deriving DecidableEq, Repr

def step (s : Session σ) : Action → Session σ
  | .poll => { s with fix := s.fix.requestPoll.2 }
  | .subscribe => { s with inboxes := s.inboxes ++ [[]] }
  | .disconnect => { s with cancelled := true }
  | .tick => s.tick

def run (s : Session σ) (actions : List Action) : Session σ := actions.foldl step s

def runBefore (limit : Nat) : Nat → Session σ → Session σ
  | 0, s => s
  | bound + 1, s => match s.due? with
    | none => s
    | some due => if due < limit then runBefore limit bound s.tick else s

theorem runAppend (s : Session σ) (a b : List Action) : s.run (a ++ b) = (s.run a).run b := by
  simp [run, List.foldl_append]

theorem runBeforeIsRun (limit bound : Nat) (s : Session σ) :
    ∃ n, runBefore limit bound s = s.run (List.replicate n .tick) := by
  induction bound generalizing s with
  | zero => exact ⟨0, rfl⟩
  | succ bound ih =>
    unfold runBefore
    cases s.due? with
    | none => exact ⟨0, rfl⟩
    | some due =>
      dsimp only
      split
      · obtain ⟨n, same⟩ := ih s.tick
        exact ⟨n + 1, by rw [same]; rfl⟩
      · exact ⟨0, rfl⟩

end Session
end NmeaReceiver
