import NmeaReceiver.Proofs.Session.Ending
import NmeaReceiver.Session.Scripted

/-! The life of a session from its start: the calls on its link are those of supervised reads, the
last of which may still be under way. When it ends, the link has been closed and the fix has met
every line by the time the event goes out; each subscription made before finds the event once, later
ones find nothing, and no call follows. -/
namespace NmeaReceiver.Session
open NmeaReceiver.Link NmeaReceiver.Fix

def meet (clock : Clock) (fix : State) : Option (List Char) → State
  | none => fix.requestPoll.2
  | some line => fix.ingest clock line

theorem meetLines (clock : Clock) (fix : State) (lines : List (List Char)) :
    (lines.map some).foldl (meet clock) fix = lines.foldl (State.ingest clock) fix := by
  rw [List.foldl_map]
  rfl

section Steps

variable {σ : Type} [Link σ]

structure Met (s t : Session σ) (events : List (Option (List Char))) (polls : Nat)
    (lines : List (List Char)) : Prop where
  fix : t.fix = events.foldl (meet s.clock) s.fix
  polls : events.countP Option.isNone = polls
  lines : events.filterMap id = lines

theorem stepMeets (s : Session σ) (action : Action) :
    ∃ events, Met s (s.step action) events ([action].count .poll) (s.handed action) := by
  cases action with
  | poll => exact ⟨[none], rfl, rfl, rfl⟩
  | subscribe => exact ⟨[], rfl, rfl, rfl⟩
  | disconnect => exact ⟨[], rfl, rfl, rfl⟩
  | tick =>
    refine ⟨s.underway.map some, ?_, ?_, ?_⟩
    · rw [meetLines]
      exact (tickedIngests (tickCases s)).fix
    · simp [List.countP_map, List.countP_eq_zero]
    · rw [List.filterMap_map]
      exact List.filterMap_some

theorem runMeets (first : Session σ) (actions : List Action) :
    ∃ events, Met first (first.run actions) events (actions.count .poll) (first.delivered actions) := by
  induction actions using List.reverseRecOn with
  | nil => exact ⟨[], rfl, rfl, rfl⟩
  | append_singleton actions action ih =>
    obtain ⟨events, fix, polls, lines⟩ := ih
    obtain ⟨more, next, asked, brought⟩ := stepMeets (first.run actions) action
    refine ⟨events ++ more, ?_, ?_, ?_⟩
    · rw [runAppend, List.foldl_append, ← fix, ← runClock first actions]
      exact next
    · rw [List.countP_append, List.count_append, polls, asked]
    · rw [List.filterMap_append, deliveredAppend, lines, brought]
      exact congrArg _ (List.append_nil _).symm

def begun (policy : Policy) : Phase → List Link.Action
  | .ready | .ended _ => []
  | .reading _ _ => [.read policy.readTimeout]
  | .cooling _ => [.read policy.readTimeout, .disconnect]
  | .connecting _ _ => [.read policy.readTimeout, .disconnect, .connect]

theorem amidCalls {r : Supervisor σ} {s : Session σ} (amid : Amid r s) (running : s.Running) :
    begun r.policy s.phase <+: callsOf r.policy r.timeouts r.outcome ∧
      s.supervisor.actions = r.actions ++ begun r.policy s.phase := by
  cases amid with
  | ready phase same =>
    rw [phase, same]
    exact ⟨List.nil_prefix, (List.append_nil _).symm⟩
  | reading phase same =>
    obtain ⟨rest, whole⟩ := readBegins r.policy r.timeouts r.outcome
    rw [phase, same]
    exact ⟨⟨rest, whole.symm⟩, Supervisor.afterReadActions r⟩
  | @cooling t cooldown waits phase same =>
    obtain ⟨whole, read⟩ := waitsCalls waits
    have dropped : t.beginReconnect.actions = t.actions ++ [.disconnect] :=
      Supervisor.disconnectActions t
    rw [phase, same, dropped, read, List.append_assoc]
    exact ⟨⟨[.connect], whole.symm⟩, rfl⟩
  | @connecting t cooldown waits phase same =>
    obtain ⟨whole, read⟩ := waitsCalls waits
    have dropped : (cooled t cooldown).actions = t.actions ++ [.disconnect] :=
      Supervisor.disconnectActions t
    rw [phase, same, Supervisor.beginConnectActions, dropped, read, List.append_assoc,
      List.append_assoc]
    exact ⟨⟨[], whole.symm⟩, rfl⟩
  | overflowed came phase same => exact absurd phase (running _)
  | stopped phase same => exact absurd phase (running _)

variable {first : Supervisor σ} {s : Session σ} {lines : List (List Char)} {n : Nat}

theorem runningReads (rounds : Rounds first s lines n) (fresh : first.actions = [])
    (running : s.Running) :
    s.supervisor.reads = n + (begun first.policy s.phase).countP Link.Action.isRead := by
  obtain ⟨policy, _, calls⟩ := Supervisor.readTimesCalled n first
  rw [Supervisor.reads, (amidCalls rounds.amid running).2, calls, fresh, List.nil_append,
    List.countP_append, callsOfAllReads, Supervisor.heardLength, policy]

theorem runningTrace (rounds : Rounds first s lines n) (fresh : first.actions = [])
    (running : s.Running) :
    let outcomes := first.heard s.supervisor.reads
    s.supervisor.actions <+: callsOfAll first.policy first.timeouts outcomes ∧ Fits outcomes.dropLast := by
  obtain ⟨started, calls⟩ := amidCalls rounds.amid running
  rw [runningReads rounds fresh running, calls, (Supervisor.readTimesCalled n first).2.2, fresh,
    List.nil_append]
  have under := Supervisor.heardCallsSucc n first ▸ (List.prefix_append_right_inj _).mpr started
  have before : Fits (first.heard (n + 1)).dropLast := by
    rw [Supervisor.heardSucc, List.dropLast_concat]
    exact rounds.fits
  cases phase : s.phase with
  | ready =>
    refine ⟨(List.append_nil _).symm ▸ List.prefix_refl _, fun outcome member => ?_⟩
    exact rounds.fits outcome (List.dropLast_subset _ member)
  | reading outcome due => rw [phase] at under; exact ⟨under, before⟩
  | cooling due => rw [phase] at under; exact ⟨under, before⟩
  | connecting result due => rw [phase] at under; exact ⟨under, before⟩
  | ended why => exact absurd phase (running why)

theorem overflowTrace (rounds : Rounds first s lines n) (fresh : first.actions = [])
    (ended : s.phase = .ended .overflow) :
    let outcomes := first.heard s.supervisor.reads
    s.supervisor = first.readTimes s.supervisor.reads ∧
      (∃ length, outcomes.getLast? = some (.overflow length)) ∧ Fits outcomes.dropLast ∧
      lines = outcomes.filterMap textOf := by
  cases rounds.amid with
  | @overflowed length came phase same =>
    rw [same, ← Supervisor.readTimesSucc, Supervisor.readTimesReads fresh, Supervisor.heardSucc, came]
    refine ⟨rfl, ⟨length, List.getLast?_concat⟩, ?_, ?_⟩
    · rw [List.dropLast_concat]
      exact rounds.fits
    · rw [rounds.lines, List.filterMap_append]
      exact (List.append_nil _).symm
  | ready phase same => rw [phase] at ended; cases ended
  | reading phase same => rw [phase] at ended; cases ended
  | cooling waits phase same => rw [phase] at ended; cases ended
  | connecting waits phase same => rw [phase] at ended; cases ended
  | stopped phase same => rw [phase] at ended; cases ended

theorem requestedTrace (rounds : Rounds first s lines n) (fresh : first.actions = [])
    (ended : s.phase = .ended .requested) :
    let outcomes := first.heard s.supervisor.reads
    s.supervisor = (first.readTimes s.supervisor.reads).disconnect ∧ Fits outcomes ∧
      lines = outcomes.filterMap textOf := by
  cases rounds.amid with
  | stopped phase same =>
    have reads : s.supervisor.reads = n := by
      rw [same, Supervisor.readsKept (Supervisor.disconnectActions _) rfl]
      exact Supervisor.readTimesReads fresh n
    rw [reads]
    exact ⟨same, rounds.fits, rounds.lines⟩
  | ready phase same => rw [phase] at ended; cases ended
  | reading phase same => rw [phase] at ended; cases ended
  | cooling waits phase same => rw [phase] at ended; cases ended
  | connecting waits phase same => rw [phase] at ended; cases ended
  | overflowed came phase same => rw [phase] at ended; cases ended

end Steps

/-- How the session that began as `first` ended: the tick after `before` closed the link and then
sent the event, at `sent`, and `after` came later. -/
structure Farewell (first : Session Script) (before after : List Action) (sent : Session Script)
    (why : Termination) (lines : List (List Char)) : Prop where
  running : (first.run before).ended? = none
  sends : (first.run before).tick = sent.finish why
  closed : sent.supervisor.state = .disconnected
  ingested : ∃ events, Met first sent events (before.count .poll) lines
  asked : why = .requested → .disconnect ∈ before
  silent : (first.run (before ++ .tick :: after)).supervisor = sent.supervisor
  inboxes : (first.run (before ++ .tick :: after)).inboxes =
    (first.inboxes ++ List.replicate (before.count Action.subscribe) []).map (· ++ [why]) ++
      List.replicate (after.count Action.subscribe) []

theorem endedNone {s : Session Script} : s.ended? = none ↔ s.Running := by
  unfold ended? Running
  cases s.phase <;> simp

theorem endedSome {s : Session Script} {why : Termination} :
    s.ended? = some why ↔ s.phase = .ended why := by
  unfold ended?
  cases s.phase <;> simp

theorem endedDelivered {σ : Type} [Link σ] {s : Session σ} {why : Termination}
    (ended : s.phase = .ended why) (actions : List Action) : s.delivered actions = [] := by
  induction actions generalizing s with
  | nil => rfl
  | cons action actions ih =>
    rw [delivered, ih (endedStep ended action).1, List.append_nil]
    cases action with
    | tick => simp only [handed, underway, ended]
    | _ => rfl

theorem runFarewell {first : Session Script} {why : Termination} (running : first.Running)
    (free : first.cancelled = false) (actions : List Action)
    (ended : (first.run actions).phase = .ended why) :
    ∃ before after sent, actions = before ++ .tick :: after ∧
      Farewell first before after sent why (first.delivered actions) := by
  obtain ⟨before, after, rfl, earlier, ends⟩ := runEnds running actions ended
  obtain ⟨sent, closes⟩ := tickedCloses (tickCases (first.run before)) rfl earlier ends
  obtain ⟨events, fix, polls, lines⟩ := runMeets first before
  obtain ⟨_, silent, inboxes⟩ := endedRun ends after
  have whole : first.run (before ++ .tick :: after) = (first.run before).tick.run after :=
    runAppend first before (.tick :: after)
  have told : first.delivered (before ++ .tick :: after) = first.delivered before := by
    rw [deliveredAppend, delivered, handed, closes.silent]
    change _ ++ (first.run before).tick.delivered after = _
    rw [endedDelivered ends, List.append_nil]
  refine ⟨before, after, sent, rfl, endedNone.mpr earlier, closes.ends, closes.closed,
    ⟨events, closes.fix.trans fix, polls, lines.trans told.symm⟩, ?_, ?_, ?_⟩
  · intro requested
    have asked := closes.asked requested
    rw [runCancelled, free, Bool.false_or, List.contains_iff_mem] at asked
    exact asked
  · rw [whole, silent, closes.ends]
    rfl
  · rw [whole, inboxes, closes.ends, ← runningInboxes before earlier, ← closes.inboxes]
    rfl

theorem lifecycle (supervisor : Supervisor Script) (clock : Clock) (actions : List Action) :
    let first := start supervisor clock
    let last := first.run actions
    let calls := last.supervisor.actions
    let outcomes := supervisor.link.playback last.supervisor.reads
    let brought := callsOfAll supervisor.policy supervisor.timeouts outcomes
    match last.ended? with
    | none => calls <+: brought ∧ Fits outcomes.dropLast ∧
      last.inboxes = List.replicate (1 + actions.count .subscribe) []
    | some why =>
      (match why with
        | .overflow => calls = brought ∧ (∃ length, outcomes.getLast? = some (.overflow length)) ∧
          Fits outcomes.dropLast
        | .requested => calls = brought ++ [.disconnect] ∧ Fits outcomes) ∧
      ∃ before after sent, actions = before ++ .tick :: after ∧
        Farewell first before after sent why (outcomes.filterMap textOf) := by
  intro first last calls outcomes brought
  have running : first.Running := nofun
  obtain ⟨n, rounds⟩ := runRounds first rfl actions
  have played : first.supervisor.heard last.supervisor.reads = outcomes :=
    Supervisor.heardPlayback _ first.supervisor
  have called : (first.supervisor.readTimes last.supervisor.reads).actions = brought := by
    rw [(Supervisor.readTimesCalled _ first.supervisor).2.2, played]
    rfl
  cases ending : last.ended? with
  | none =>
    have still := endedNone.mp ending
    obtain ⟨begins, fits⟩ := runningTrace rounds rfl still
    rw [played] at begins fits
    refine ⟨begins, fits, ?_⟩
    rw [runningInboxes actions still, ← List.replicate_append_replicate]
    rfl
  | some why =>
    have closed := endedSome.mp ending
    obtain ⟨before, after, sent, split, farewell⟩ := runFarewell running rfl actions closed
    cases why with
    | overflow =>
      obtain ⟨same, final, fits, lines⟩ := overflowTrace rounds rfl closed
      rw [played] at final fits lines
      have whole : calls = brought := (congrArg Supervisor.actions same).trans called
      exact ⟨⟨whole, final, fits⟩, before, after, sent, split, lines ▸ farewell⟩
    | requested =>
      obtain ⟨same, fits, lines⟩ := requestedTrace rounds rfl closed
      rw [played] at fits lines
      have whole : calls = brought ++ [.disconnect] := by
        rw [← called, ← Supervisor.disconnectActions]
        exact congrArg Supervisor.actions same
      exact ⟨⟨whole, fits⟩, before, after, sent, split, lines ▸ farewell⟩

end NmeaReceiver.Session
