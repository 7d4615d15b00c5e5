import Mathlib.Data.List.TakeDrop
import NmeaReceiver.Proofs.Link.Watched

/-! What a supervisor publishes against how its link stands. Every operation leaves the two in
agreement but one: opening publishes nothing when it fails, so a state that was Connected outlives
the connection. -/
namespace NmeaReceiver.Supervisor
open NmeaReceiver.Link

variable {σ : Type}

def Truthful (s : Supervisor (Watched σ)) : Prop :=
  s.state = if s.link.up then .connected else .disconnected

structure Settled (s : Supervisor (Watched σ)) : Prop where
  steady : s.state ≠ .reconnecting
  connected : s.link.up = true → s.state = .connected

theorem truthfulIff {s : Supervisor (Watched σ)} (settled : s.Settled) :
    s.Truthful ↔ (s.state = .connected → s.link.up = true) := by
  unfold Truthful
  cases up : s.link.up with
  | true => simp [settled.connected up]
  | false =>
    have steady := settled.steady
    cases state : s.state <;> simp_all

theorem truthfulSettled {s : Supervisor (Watched σ)} (truthful : s.Truthful) : s.Settled := by
  unfold Truthful at truthful
  cases up : s.link.up <;> constructor <;> simp_all

def Redials (s t : Supervisor σ) : Prop :=
  ∃ new, t.calls = new ++ s.calls ∧ ∀ call ∈ new, call.action = .connect → call.state = .reconnecting

theorem quietRedials {s t : Supervisor σ} (calls : t.calls = s.calls) : Redials s t :=
  ⟨[], calls, by simp⟩

variable [Link σ] {s : Supervisor (Watched σ)}

theorem disconnectTruthful (s : Supervisor (Watched σ)) : s.disconnect.Truthful := rfl

theorem reconnectTruthful (s : Supervisor (Watched σ)) (cooldown : Nat) :
    (s.reconnect cooldown).Truthful := by
  let dialled := (s.beginReconnect.elapse cooldown).beginConnect.2.2.elapse s.redial.delay
  have up : dialled.link.up = s.redial.value.toBool := rfl
  change (dialled.endReconnect s.redial.value).Truthful
  cases answer : s.redial.value with
  | ok value =>
    rw [answer] at up
    change ConnectionState.connected = if dialled.link.up then .connected else .disconnected
    rw [up]
    rfl
  | error fault =>
    rw [answer] at up
    change ConnectionState.disconnected = if dialled.link.up then .connected else .disconnected
    rw [up]
    rfl

theorem readLineStanding (s : Supervisor (Watched σ)) :
    s.readLine.2.Truthful ∨ s.readLine.2.state = s.state ∧ s.readLine.2.link.up = s.link.up := by
  cases came : s.outcome with
  | line text =>
    rw [readLineLine came]
    exact .inr ⟨rfl, rfl⟩
  | overflow length =>
    rw [readLineOverflow came]
    exact .inl (disconnectTruthful s.afterRead)
  | refused =>
    rw [readLineRefused came]
    exact .inl (reconnectTruthful s.afterRead _)
  | failed fault =>
    rw [readLineFailed came]
    exact .inr ⟨rfl, rfl⟩
  | timeout =>
    by_cases many : s.policy.timeoutThreshold < s.timeouts
    · rw [readLineExhausted came many]
      exact .inl (reconnectTruthful s.counted _)
    · rw [readLineTimeout came many]
      exact .inr ⟨rfl, rfl⟩

theorem handshakeStanding (s : Supervisor (Watched σ)) (lines : Nat) :
    (s.handshake lines).2.state = s.state ∧ (s.handshake lines).2.link.up = s.link.up := by
  induction lines generalizing s with
  | zero => exact ⟨rfl, rfl⟩
  | succ lines ih =>
    by_cases told : ∃ text, s.outcome = .line text
    · obtain ⟨text, came⟩ := told
      cases nmea : Sentence.isNmea text with
      | true =>
        rw [handshakeGreeted came nmea]
        exact ⟨rfl, rfl⟩
      | false =>
        rw [handshakeSkips came nmea]
        exact ih s.afterRead
    · rw [handshakeFails fun text came => told ⟨text, came⟩]
      exact ⟨rfl, rfl⟩

def Opened (s : Supervisor (Watched σ)) (answer : Except OpenFailure Unit × Supervisor (Watched σ)) :
    Prop :=
  match answer.1 with
  | .ok () => answer.2.state = .connected ∧ answer.2.link.up = true
  | .error _ => answer.2.state = s.state ∧ answer.2.link.up = false

theorem attemptOpens (s : Supervisor (Watched σ)) : s.Opened s.attempt := by
  have up : s.dialled.link.up = (Link.connect s.link).value.toBool := rfl
  cases answer : (Link.connect s.link).value with
  | error fault =>
    rw [answer] at up
    rw [attemptUnconnected answer]
    exact ⟨rfl, up⟩
  | ok value =>
    obtain ⟨state, kept⟩ := handshakeStanding s.dialled handshakeLines
    rw [answer] at up
    cases greeted : s.dialled.handshake handshakeLines with
    | mk result t =>
      rw [greeted] at state kept
      cases result with
      | ok value =>
        rw [attemptOpened answer greeted]
        exact ⟨rfl, kept.trans up⟩
      | error failure =>
        rw [attemptDropped answer greeted]
        exact ⟨state, rfl⟩

theorem openWithinOpens (s : Supervisor (Watched σ)) (again : Nat → Bool) (bound failures : Nat) :
    s.Opened (s.openWithin again bound failures) := by
  induction bound generalizing s failures with
  | zero => exact attemptOpens s
  | succ bound ih =>
    have opened := attemptOpens s
    unfold openWithin
    cases attempted : s.attempt with
    | mk result t =>
      rw [attempted] at opened
      cases result with
      | ok value => exact opened
      | error failure =>
        dsimp only
        split
        · -- A later attempt starts from the state that the failed one left alone.
          have later := ih t (failures + 1)
          unfold Opened at later ⊢
          rw [opened.1] at later
          exact later
        · exact opened

theorem performSettled (settled : s.Settled) (operation : Operation) :
    (s.perform operation).Settled := by
  cases operation with
  | disconnect => exact truthfulSettled (disconnectTruthful s)
  | reconnect cooldown => exact truthfulSettled (reconnectTruthful s cooldown)
  | readLine =>
    rcases readLineStanding s with truthful | ⟨state, up⟩
    · exact truthfulSettled truthful
    · exact ⟨state ▸ settled.steady, fun rises => state ▸ settled.connected (up ▸ rises)⟩
  | tryOpen again bound =>
    have opened := openWithinOpens s again bound 0
    unfold Opened at opened
    cases result : (s.openWithin again bound 0).1 with
    | ok value =>
      rw [result] at opened
      exact ⟨fun other => by simp [perform, opened.1] at other, fun _ => opened.1⟩
    | error failure =>
      rw [result] at opened
      refine ⟨fun other => settled.steady (opened.1 ▸ other), fun rises => ?_⟩
      rw [perform, opened.2] at rises
      cases rises

theorem performAllSettled (settled : s.Settled) (operations : List Operation) :
    (s.performAll operations).Settled := by
  induction operations generalizing s with
  | nil => exact settled
  | cons operation operations ih => exact ih (performSettled settled operation)

theorem performTruthful (truthful : s.Truthful) {operation : Operation}
    (opens : ∀ again bound, operation = .tryOpen again bound → s.state = .connected →
      (s.openWithin again bound 0).1 = .ok ()) :
    (s.perform operation).Truthful := by
  have settled := performSettled (truthfulSettled truthful) operation
  have standing := (truthfulIff (truthfulSettled truthful)).mp truthful
  rw [truthfulIff settled]
  cases operation with
  | disconnect => exact fun up => by cases up
  | reconnect cooldown => exact (truthfulIff settled).mp (reconnectTruthful s cooldown)
  | readLine =>
    rcases readLineStanding s with truthful | ⟨state, up⟩
    · exact (truthfulIff settled).mp truthful
    · exact fun connected => up ▸ standing (state ▸ connected)
  | tryOpen again bound =>
    intro connected
    have opened := openWithinOpens s again bound 0
    unfold Opened at opened
    cases result : (s.openWithin again bound 0).1 with
    | ok value =>
      rw [result] at opened
      exact opened.2
    | error failure =>
      rw [result] at opened
      have before : s.state = .connected := opened.1 ▸ connected
      rw [opens again bound rfl before] at result
      cases result

theorem openingFailsUntruthful {again : Nat → Bool} {bound : Nat} {failure : OpenFailure}
    (connected : s.state = .connected)
    (fails : (s.openWithin again bound 0).1 = .error failure) :
    ¬ (s.perform (.tryOpen again bound)).Truthful := by
  have opened := openWithinOpens s again bound 0
  unfold Opened at opened
  rw [fails] at opened
  unfold Truthful
  rw [perform, opened.1, opened.2, connected]
  simp

theorem reconnectRedials (s : Supervisor σ) (cooldown : Nat) : Redials s (s.reconnect cooldown) := by
  refine ⟨[⟨s.now + waited cooldown, .connect, .reconnecting⟩, ⟨s.now, .disconnect, s.state⟩],
    reconnectCalls s cooldown, ?_⟩
  simp

theorem readRedials {s t : Supervisor σ} (redials : Redials s.afterRead t) : Redials s t := by
  obtain ⟨new, calls, seen⟩ := redials
  refine ⟨new ++ [⟨s.now, .read s.policy.readTimeout, s.state⟩], ?_, ?_⟩
  · rw [calls, List.append_assoc]
    rfl
  · intro call member connect
    rcases List.mem_append.mp member with later | first
    · exact seen call later connect
    · rw [List.mem_singleton.mp first] at connect
      cases connect

theorem disconnectRedials (s : Supervisor σ) : Redials s s.disconnect :=
  ⟨[⟨s.now, .disconnect, s.state⟩], rfl, by simp⟩

theorem readLineRedials (s : Supervisor σ) : Redials s s.readLine.2 := by
  apply readRedials
  cases came : s.outcome with
  | line text =>
    rw [readLineLine came]
    exact quietRedials rfl
  | overflow length =>
    rw [readLineOverflow came]
    exact disconnectRedials s.afterRead
  | refused =>
    rw [readLineRefused came]
    exact reconnectRedials s.afterRead _
  | failed fault =>
    rw [readLineFailed came]
    exact quietRedials rfl
  | timeout =>
    by_cases many : s.policy.timeoutThreshold < s.timeouts
    · rw [readLineExhausted came many]
      exact reconnectRedials s.counted _
    · rw [readLineTimeout came many]
      exact quietRedials rfl

theorem performRedials (s : Supervisor σ) {operation : Operation}
    (other : ∀ again bound, operation ≠ .tryOpen again bound) : Redials s (s.perform operation) := by
  cases operation with
  | tryOpen again bound => exact absurd rfl (other again bound)
  | readLine => exact readLineRedials s
  | reconnect cooldown => exact reconnectRedials s cooldown
  | disconnect => exact disconnectRedials s

theorem performAllTakeSucc (s : Supervisor (Watched σ)) {operations : List Operation} {n : Nat}
    {operation : Operation} (next : operations[n]? = some operation) :
    s.performAll (operations.take (n + 1)) =
      (s.performAll (operations.take n)).perform operation := by
  rw [List.take_add_one, next, Option.toList_some, performAllSnoc]

theorem truthfulUnlessOpeningFails (link : σ) (policy : Policy) (operations : List Operation) :
    let watched := fun n =>
      (Supervisor.new (⟨link, false⟩ : Watched σ) policy).performAll (operations.take n)
    let alone := fun n => (Supervisor.new link policy).performAll (operations.take n)
    (∀ n, (watched n).unwatched = alone n) ∧
    ((∀ n, (watched n).Truthful) ↔
      ∀ n again bound, operations[n]? = some (.tryOpen again bound) →
        (watched n).state = .connected → ((watched n).openWithin again bound 0).1 = .ok ()) ∧
    (∀ n, (watched n).state ≠ .reconnecting ∧
      ((watched n).link.up = true → (watched n).state = .connected)) ∧
    (∀ n operation, (∀ again bound, operation ≠ .tryOpen again bound) →
      Redials (alone n) ((alone n).perform operation)) ∧
    ∀ n cooldown, (((alone n).reconnect cooldown).calls).map (fun call => (call.action, call.state)) =
      (.connect, .reconnecting) :: (.disconnect, (alone n).state) ::
        (alone n).calls.map (fun call => (call.action, call.state)) := by
  intro watched alone
  let first : Supervisor (Watched σ) := .new ⟨link, false⟩ policy
  have begins : first.Truthful := rfl
  refine ⟨fun n => (unwatchedPerformAll first (operations.take n)).symm, ⟨?_, ?_⟩, ?_, ?_, ?_⟩
  · intro truthful n again bound next connected
    by_contra failed
    cases result : ((watched n).openWithin again bound 0).1 with
    | ok value => exact failed result
    | error failure =>
      have after := truthful (n + 1)
      rw [show watched (n + 1) = _ from performAllTakeSucc first next] at after
      exact openingFailsUntruthful connected result after
  · intro opens n
    induction n with
    | zero => exact begins
    | succ n ih =>
      cases next : operations[n]? with
      | none =>
        have same : operations.take (n + 1) = operations.take n := by
          rw [List.take_add_one, next, Option.toList_none, List.append_nil]
        rw [show watched (n + 1) = watched n from congrArg first.performAll same]
        exact ih
      | some operation =>
        rw [show watched (n + 1) = _ from performAllTakeSucc first next]
        refine performTruthful ih ?_
        rintro again bound rfl
        exact opens n again bound next
  · intro n
    obtain ⟨steady, connected⟩ := performAllSettled (truthfulSettled begins) (operations.take n)
    exact ⟨steady, connected⟩
  · exact fun n operation other => performRedials (alone n) other
  · intro n cooldown
    rw [reconnectCalls]
    rfl

theorem openingFailsConnected :
    ¬ ∀ (script : Script) (policy : Policy) (operations : List Operation),
      ((Supervisor.new (⟨script, false⟩ : Watched Script) policy).performAll operations).Truthful := by
  intro claim
  let policy : Policy := { Policy.standard with openTimeout := some 0 }
  have wrong := claim ⟨[⟨.line "$GPXYZ,1".toList, 0⟩], [⟨none, 0⟩, ⟨some (.other "second"), 0⟩]⟩ policy
    [.tryOpen policy.triesAgain 3, .tryOpen policy.triesAgain 3]
  unfold Truthful at wrong
  revert wrong
  decide +kernel

end NmeaReceiver.Supervisor
