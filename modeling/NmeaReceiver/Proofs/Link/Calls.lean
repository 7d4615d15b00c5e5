import NmeaReceiver.Link.Script
import NmeaReceiver.Proofs.Link.Supervision

/-! The calls on a link, told by what its reads came to. A supervised read is one read and, if it
was refused or one timeout too many, a disconnect and then a connect; a line that is too long is
followed by a disconnect. -/
namespace NmeaReceiver

namespace Link

def Action.isRead : Action → Bool
  | .read _ => true
  | _ => false

def timeoutsAfter (policy : Policy) (timeouts : UInt32) : Outcome → UInt32
  | .line _ | .refused => 0
  | .timeout => if policy.timeoutThreshold < timeouts then 0 else timeouts + 1
  | .overflow _ | .failed _ => timeouts

def callsOf (policy : Policy) (timeouts : UInt32) : Outcome → List Action
  | .refused => [.read policy.readTimeout, .disconnect, .connect]
  | .timeout =>
    if policy.timeoutThreshold < timeouts then [.read policy.readTimeout, .disconnect, .connect]
    else [.read policy.readTimeout]
  | .overflow _ => [.read policy.readTimeout, .disconnect]
  | .line _ | .failed _ => [.read policy.readTimeout]

def callsOfAll (policy : Policy) : UInt32 → List Outcome → List Action
  | _, [] => []
  | timeouts, outcome :: later =>
    callsOf policy timeouts outcome ++ callsOfAll policy (timeoutsAfter policy timeouts outcome) later

theorem callsOfReads (policy : Policy) (timeouts : UInt32) (outcome : Outcome) :
    (callsOf policy timeouts outcome).countP Action.isRead = 1 := by
  cases outcome with
  | timeout =>
    rw [callsOf]
    split <;> rfl
  | _ => rfl

theorem callsOfAllReads (policy : Policy) (timeouts : UInt32) (outcomes : List Outcome) :
    (callsOfAll policy timeouts outcomes).countP Action.isRead = outcomes.length := by
  induction outcomes generalizing timeouts with
  | nil => rfl
  | cons outcome later ih =>
    rw [callsOfAll, List.countP_append, callsOfReads, ih, List.length_cons, Nat.add_comm]

theorem callsOfAllSnoc (policy : Policy) (timeouts : UInt32) (outcomes : List Outcome)
    (outcome : Outcome) :
    callsOfAll policy timeouts (outcomes ++ [outcome]) =
      callsOfAll policy timeouts outcomes ++
        callsOf policy (outcomes.foldl (timeoutsAfter policy) timeouts) outcome := by
  induction outcomes generalizing timeouts with
  | nil => exact List.append_nil _
  | cons first later ih =>
    rw [List.cons_append, callsOfAll, ih, callsOfAll, List.append_assoc]
    rfl

theorem readBegins (policy : Policy) (timeouts : UInt32) (outcome : Outcome) :
    ∃ rest, callsOf policy timeouts outcome = .read policy.readTimeout :: rest := by
  cases outcome with
  | timeout =>
    rw [callsOf]
    split
    · exact ⟨_, rfl⟩
    · exact ⟨_, rfl⟩
  | _ => exact ⟨_, rfl⟩

def Fits (outcomes : List Outcome) : Prop := ∀ outcome ∈ outcomes, ∀ length, outcome ≠ .overflow length

def Script.playback (script : Script) (n : Nat) : List Outcome :=
  (script.reads.map Cue.value).take n ++ List.replicate (n - script.reads.length) .timeout

end Link

namespace Supervisor
open NmeaReceiver.Link

variable {σ : Type}

def actions (s : Supervisor σ) : List Link.Action := (s.calls.map (·.action)).reverse

def reads (s : Supervisor σ) : Nat := s.actions.countP Link.Action.isRead

theorem actionsLogged {s t : Supervisor σ} (call : Call) (logged : t.calls = call :: s.calls) :
    t.actions = s.actions ++ [call.action] := by
  simp [actions, logged]

theorem readsKept {s t : Supervisor σ} {action : Link.Action}
    (logged : t.actions = s.actions ++ [action]) (other : action.isRead = false) :
    t.reads = s.reads := by
  rw [reads, logged, List.countP_append, List.countP_singleton, other]
  rfl

variable [Link σ]

def heard : Nat → Supervisor σ → List Outcome
  | 0, _ => []
  | n + 1, s => s.outcome :: heard n s.readLine.2

theorem heardSucc (n : Nat) (s : Supervisor σ) :
    s.heard (n + 1) = s.heard n ++ [(s.readTimes n).outcome] := by
  induction n generalizing s with
  | zero => rfl
  | succ n ih => exact congrArg (s.outcome :: ·) (ih s.readLine.2)

theorem heardLength (n : Nat) (s : Supervisor σ) : (s.heard n).length = n := by
  induction n generalizing s with
  | zero => rfl
  | succ n ih => exact congrArg (· + 1) (ih s.readLine.2)

structure Called (s t : Supervisor σ) (outcome : Outcome) : Prop where
  policy : t.policy = s.policy
  timeouts : t.timeouts = timeoutsAfter s.policy s.timeouts outcome
  actions : t.actions = s.actions ++ callsOf s.policy s.timeouts outcome

theorem reconnectActions (s : Supervisor σ) (cooldown : Nat) :
    (s.reconnect cooldown).actions = s.actions ++ [.disconnect, .connect] := by
  simp [actions, reconnectCalls]

theorem beginConnectActions (s : Supervisor σ) :
    s.beginConnect.2.2.actions = s.actions ++ [.connect] :=
  actionsLogged ⟨s.now, .connect, s.state⟩ rfl

theorem afterReadActions (s : Supervisor σ) :
    s.afterRead.actions = s.actions ++ [.read s.policy.readTimeout] :=
  actionsLogged ⟨s.now, .read s.policy.readTimeout, s.state⟩ rfl

theorem disconnectActions (s : Supervisor σ) : s.disconnect.actions = s.actions ++ [.disconnect] :=
  actionsLogged ⟨s.now, .disconnect, s.state⟩ rfl

theorem readLineCalled (s : Supervisor σ) : Called s s.readLine.2 s.outcome := by
  have read := afterReadActions s
  cases came : s.outcome with
  | line text =>
    rw [readLineLine came]
    exact ⟨rfl, rfl, read⟩
  | failed fault =>
    rw [readLineFailed came]
    exact ⟨rfl, rfl, read⟩
  | overflow length =>
    rw [readLineOverflow came]
    refine ⟨rfl, rfl, ?_⟩
    rw [disconnectActions, read, List.append_assoc]
    rfl
  | refused =>
    rw [readLineRefused came]
    have renewed := reconnectRenews s.afterRead s.policy.refusedCooldown
    refine ⟨renewed.policy, renewed.timeouts, ?_⟩
    rw [reconnectActions, read, List.append_assoc]
    rfl
  | timeout =>
    by_cases many : s.policy.timeoutThreshold < s.timeouts
    · rw [readLineExhausted came many]
      have renewed := reconnectRenews s.counted s.policy.timeoutCooldown
      refine ⟨renewed.policy, ?_, ?_⟩
      · rw [renewed.timeouts, timeoutsAfter, if_pos many]
      · rw [reconnectActions, callsOf, if_pos many, show s.counted.actions = _ from read,
          List.append_assoc]
        rfl
    · rw [readLineTimeout came many]
      refine ⟨rfl, ?_, ?_⟩
      · rw [timeoutsAfter, if_neg many]
        rfl
      · rw [callsOf, if_neg many]
        exact read

theorem readTimesCalled (n : Nat) (s : Supervisor σ) :
    (s.readTimes n).policy = s.policy ∧
    (s.readTimes n).timeouts = (s.heard n).foldl (timeoutsAfter s.policy) s.timeouts ∧
    (s.readTimes n).actions = s.actions ++ callsOfAll s.policy s.timeouts (s.heard n) := by
  induction n generalizing s with
  | zero => exact ⟨rfl, rfl, (List.append_nil _).symm⟩
  | succ n ih =>
    have called := readLineCalled s
    obtain ⟨policy, timeouts, actions⟩ := ih s.readLine.2
    rw [called.policy, called.timeouts] at timeouts actions
    refine ⟨policy.trans called.policy, timeouts, ?_⟩
    rw [readTimes, actions, called.actions, List.append_assoc]
    rfl

theorem readTimesReads {s : Supervisor σ} (fresh : s.actions = []) (n : Nat) :
    (s.readTimes n).reads = n := by
  rw [reads, (readTimesCalled n s).2.2, fresh, List.nil_append, callsOfAllReads, heardLength]

theorem heardCallsSucc (n : Nat) (s : Supervisor σ) :
    callsOfAll s.policy s.timeouts (s.heard (n + 1)) =
      callsOfAll s.policy s.timeouts (s.heard n) ++
        callsOf (s.readTimes n).policy (s.readTimes n).timeouts (s.readTimes n).outcome := by
  obtain ⟨policy, timeouts, _⟩ := readTimesCalled n s
  rw [heardSucc, callsOfAllSnoc, policy, timeouts]

theorem afterReadReads (s : Supervisor Script) : s.afterRead.link.reads = s.link.reads.tail := by
  change (Link.read s.policy.readTimeout s.link).link.reads = _
  cases reads : s.link.reads with
  | nil => rw [scriptReadSpent _ reads, reads, List.tail_nil]
  | cons cue rest => rw [scriptRead _ reads, List.tail_cons]

theorem reconnectReads (s : Supervisor Script) (cooldown : Nat) :
    (s.reconnect cooldown).link.reads = s.link.reads := by
  rw [(reconnectRenews s cooldown).link, redial, scriptConnectLink]
  rfl

theorem readLineReads (s : Supervisor Script) : s.readLine.2.link.reads = s.link.reads.tail := by
  have read := afterReadReads s
  cases came : s.outcome with
  | line text => rw [readLineLine came]; exact read
  | failed fault => rw [readLineFailed came]; exact read
  | overflow length => rw [readLineOverflow came]; exact read
  | refused => rw [readLineRefused came, reconnectReads, read]
  | timeout =>
    by_cases many : s.policy.timeoutThreshold < s.timeouts
    · rw [readLineExhausted came many, reconnectReads]
      exact read
    · rw [readLineTimeout came many]
      exact read

theorem heardPlayback (n : Nat) (s : Supervisor Script) : s.heard n = s.link.playback n := by
  induction n generalizing s with
  | zero => simp [heard, Script.playback]
  | succ n ih =>
    rw [heard, ih]
    unfold Script.playback
    rw [readLineReads]
    cases reads : s.link.reads with
    | nil =>
      have came : s.outcome = .timeout := congrArg Timed.value (scriptReadSpent _ reads)
      simp [came, List.replicate_succ]
    | cons cue rest =>
      have came : s.outcome = cue.value := congrArg Timed.value (scriptRead _ reads)
      simp [came]

end Supervisor
end NmeaReceiver
