import NmeaReceiver.Proofs.Session.Lifecycle

/-! A disconnect that is asked for stops a session before its next read. A read in flight is
completed as if nobody had asked, with its reconnect and with its line; when the loop is back at its
top it closes the link. -/
namespace NmeaReceiver.Session
open NmeaReceiver.Link NmeaReceiver.Fix

def Phase.left : Phase → Nat
  | .ready => 1
  | .reading _ _ => 4
  | .cooling _ => 3
  | .connecting _ _ => 2
  | .ended _ => 0

theorem leftMost (phase : Phase) : phase.left ≤ 4 := by
  cases phase <;> simp [Phase.left]

variable {σ : Type}

theorem leftRunning {s : Session σ} (running : s.Running) : 0 < s.phase.left := by
  cases phase : s.phase with
  | ended why => exact absurd phase (running why)
  | _ => simp [Phase.left]

def cancel (s : Session σ) : Session σ := { s with cancelled := true }

variable [Link σ]

theorem settledReads {s t : Session σ} {outcome : Outcome} (settled : Settled s outcome t) :
    t.supervisor.reads = s.supervisor.reads ∧ t.phase.left ≤ 3 := by
  have dropped : s.supervisor.disconnect.reads = s.supervisor.reads :=
    Supervisor.readsKept (Supervisor.disconnectActions s.supervisor) rfl
  cases settled with
  | line text => exact ⟨rfl, by simp [Phase.left, withSupervisor]⟩
  | overflow length => exact ⟨dropped, Nat.zero_le _⟩
  | failed fault => exact ⟨rfl, by simp [Phase.left, withSupervisor]⟩
  | patient few => exact ⟨rfl, by simp [Phase.left, withSupervisor]⟩
  | exhausted many => exact ⟨dropped, Nat.le_refl 3⟩
  | refused => exact ⟨dropped, Nat.le_refl 3⟩

theorem tickedCancelled {s t : Session σ} (ticked : Ticked s t) (asked : s.cancelled = true) :
    t.supervisor.reads = s.supervisor.reads ∧ (s.Running → t.phase.left < s.phase.left) := by
  cases ticked with
  | stopped phase asked =>
    refine ⟨?_, fun _ => by simp [phase, Phase.left, finish]⟩
    exact Supervisor.readsKept (Supervisor.disconnectActions s.supervisor) rfl
  | begun phase free => rw [asked] at free; cases free
  | settled phase settled =>
    obtain ⟨reads, left⟩ := settledReads settled
    exact ⟨reads, fun _ => phase ▸ Nat.lt_succ_of_le left⟩
  | dialled phase =>
    refine ⟨?_, fun _ => by simp [phase, Phase.left, withSupervisor]⟩
    exact Supervisor.readsKept (Supervisor.beginConnectActions _) rfl
  | @answered result due phase =>
    refine ⟨?_, fun _ => by simp [phase, Phase.left, withSupervisor]⟩
    cases result <;> rfl
  | finished phase => exact ⟨rfl, fun running => absurd phase (running _)⟩

theorem runCancelledReads {s : Session σ} (asked : s.cancelled = true) (actions : List Action) :
    (s.run actions).supervisor.reads = s.supervisor.reads := by
  induction actions generalizing s with
  | nil => rfl
  | cons action actions ih =>
    have next : (s.step action).supervisor.reads = s.supervisor.reads := by
      cases action with
      | tick => exact (tickedCancelled (tickCases s) asked).1
      | _ => rfl
    exact (ih (by rw [stepCancelled, asked, Bool.true_or])).trans next

theorem runCancelledLeft {s : Session σ} (asked : s.cancelled = true) (actions : List Action)
    (running : (s.run actions).Running) :
    actions.count .tick + (s.run actions).phase.left ≤ s.phase.left := by
  induction actions generalizing s with
  | nil => exact Nat.le_of_eq (Nat.zero_add _)
  | cons action actions ih =>
    have rest := ih (s := s.step action) (by rw [stepCancelled, asked, Bool.true_or]) running
    have now : s.Running := runningBefore running
    change _ + ((s.step action).run actions).phase.left ≤ _
    rw [List.count_cons]
    cases action with
    | tick =>
      have fewer := (tickedCancelled (tickCases s) asked).2 now
      change _ ≤ s.tick.phase.left at rest
      change actions.count .tick + 1 + _ ≤ _
      omega
    | poll => exact rest
    | subscribe => exact rest
    | disconnect => exact rest

theorem cancelSettle (s : Session σ) (outcome : Outcome) :
    s.cancel.settle outcome = (s.settle outcome).cancel := by
  have same : s.cancel.supervisor = s.supervisor := rfl
  unfold settle
  rw [same]
  obtain ⟨aftermath, supervisor⟩ := s.supervisor.endRead outcome
  cases aftermath with
  | done result => cases result <;> rfl
  | reconnect cooldown => rfl

theorem cancelStep {s : Session σ} {action : Action} (inside : s.phase = .ready → action ≠ .tick) :
    s.cancel.step action = (s.step action).cancel := by
  cases action with
  | poll => rfl
  | subscribe => rfl
  | disconnect => rfl
  | tick =>
    change s.cancel.tick = s.tick.cancel
    have same : s.cancel.phase = s.phase := rfl
    unfold tick
    rw [same]
    cases phase : s.phase with
    | ready => exact absurd rfl (inside phase)
    | reading outcome due => exact cancelSettle (s.moveTo due) outcome
    | cooling due => rfl
    | connecting result due => rfl
    | ended why => rfl

theorem cancelTop {s : Session σ} (phase : s.phase = .ready) :
    (s.cancel.step .tick).phase = .ended .requested := by
  have same : s.cancel.phase = .ready := phase
  change s.cancel.tick.phase = _
  rw [tick, same]
  rfl

theorem cancelRun {s : Session σ} (actions : List Action)
    (onward : (s.cancel.run actions).phase = .ended .requested → ¬ s.Running) :
    s.cancel.run actions = (s.run actions).cancel := by
  induction actions generalizing s with
  | nil => rfl
  | cons action actions ih =>
    have inside : s.phase = .ready → action ≠ .tick := by
      -- A tick at the top would end the session there, and it would stay ended as requested.
      rintro phase rfl
      refine onward (endedRun (cancelTop phase) actions).1 fun why ended => ?_
      rw [phase] at ended
      cases ended
    have next : s.cancel.step action = (s.step action).cancel := cancelStep inside
    change (s.cancel.step action).run actions = ((s.step action).run actions).cancel
    rw [next]
    refine ih fun stopped running => ?_
    rw [← next] at stopped
    have before : ((s.run [action]).Running) := running
    exact onward stopped (runningBefore before)

theorem overflowUnderway {first : Supervisor σ} {s : Session σ} {lines : List (List Char)} {n : Nat}
    (rounds : Rounds first s lines n) (fresh : first.actions = []) (running : s.Running) :
    (∃ length due, s.phase = .reading (.overflow length) due) ↔
      ¬ Fits (first.heard s.supervisor.reads) := by
  have within {outcome : Outcome} (short : ∀ length, outcome ≠ .overflow length) :
      Fits (first.heard n ++ [outcome]) := by
    intro other member
    rcases List.mem_append.mp member with old | new
    · exact rounds.fits other old
    · exact List.mem_singleton.mp new ▸ short
  rw [runningReads rounds fresh running]
  cases rounds.amid with
  | ready phase same =>
    rw [phase]
    exact ⟨nofun, fun unfit => absurd rounds.fits unfit⟩
  | reading phase same =>
    rw [phase]
    change _ ↔ ¬ Fits (first.heard (n + 1))
    rw [Supervisor.heardSucc]
    constructor
    · rintro ⟨length, due, came⟩ fits
      exact fits _ (List.mem_append_right _ (List.mem_singleton_self _)) length (Phase.reading.inj came).1
    · intro unfit
      by_contra none
      exact unfit (within fun length came => none ⟨length, _, congrArg (Phase.reading · _) came⟩)
  | cooling waits phase same =>
    rw [phase]
    change _ ↔ ¬ Fits (first.heard (n + 1))
    rw [Supervisor.heardSucc]
    exact ⟨nofun, fun unfit => absurd (within (waitsFits waits)) unfit⟩
  | connecting waits phase same =>
    rw [phase]
    change _ ↔ ¬ Fits (first.heard (n + 1))
    rw [Supervisor.heardSucc]
    exact ⟨nofun, fun unfit => absurd (within (waitsFits waits)) unfit⟩
  | overflowed came phase same => exact absurd phase (running _)
  | stopped phase same => exact absurd phase (running _)

theorem lastOverflows {outcomes : List Outcome} {length : Nat}
    (last : outcomes.getLast? = some (.overflow length)) : ¬ Fits outcomes :=
  fun fits => fits _ (List.mem_of_getLast? last) length rfl

theorem cancellation (supervisor : Supervisor Script) (clock : Clock) (before after : List Action) :
    let first := start supervisor clock
    let s := first.run before
    let t := (s.step .disconnect).run after
    let reads := s.supervisor.reads
    let outcomes := supervisor.link.playback reads
    t.supervisor.reads = reads ∧
    match s.ended?, t.ended? with
    | some _, _ => t = (s.run after).cancel
    | none, none => after.count .tick < 4 ∧ t = (s.run after).cancel
    | none, some why =>
      (why = .overflow ↔ ∃ length due, s.phase = .reading (.overflow length) due) ∧
      (match why with
        | .overflow => t.supervisor = first.supervisor.readTimes reads
        | .requested => t.supervisor = (first.supervisor.readTimes reads).disconnect) ∧
      ∃ events, Met first t events ((before ++ after).count .poll) (outcomes.filterMap textOf) := by
  intro first s t reads outcomes
  have whole : t = first.run (before ++ .disconnect :: after) :=
    (runAppend first before (.disconnect :: after)).symm
  have asked : (s.step .disconnect).cancelled = true := rfl
  have kept : t.supervisor.reads = reads := runCancelledReads asked after
  obtain ⟨n, begun⟩ := runRounds first rfl before
  obtain ⟨m, rounds⟩ := runRounds first rfl (before ++ .disconnect :: after)
  rw [← whole] at rounds
  have played : first.supervisor.heard reads = outcomes := Supervisor.heardPlayback _ first.supervisor
  have polls : (before ++ .disconnect :: after).count Action.poll = (before ++ after).count .poll := by
    simp
  obtain ⟨events, met⟩ := runMeets first (before ++ .disconnect :: after)
  rw [← whole, polls] at met
  refine ⟨kept, ?_⟩
  cases already : s.ended? with
  | some why =>
    exact cancelRun after fun _ running => running why (endedSome.mp already)
  | none =>
    have running := endedNone.mp already
    cases ending : t.ended? with
    | none =>
      have still := endedNone.mp ending
      have bound : after.count .tick + t.phase.left ≤ (s.step .disconnect).phase.left :=
        runCancelledLeft asked after still
      have most : (s.step .disconnect).phase.left ≤ 4 := leftMost _
      have least : 0 < t.phase.left := leftRunning still
      exact ⟨by omega, cancelRun after fun stopped _ => still _ stopped⟩
    | some why =>
      have closed := endedSome.mp ending
      cases why with
      | overflow =>
        obtain ⟨same, ⟨length, final⟩, fits, lines⟩ := overflowTrace rounds rfl closed
        rw [kept] at same final lines
        rw [lines, played] at met
        exact ⟨⟨fun _ => (overflowUnderway begun rfl running).mpr (lastOverflows final), fun _ => rfl⟩,
          same, events, met⟩
      | requested =>
        obtain ⟨same, fits, lines⟩ := requestedTrace rounds rfl closed
        rw [kept] at same fits lines
        rw [lines, played] at met
        exact ⟨⟨nofun, fun overflows => absurd fits ((overflowUnderway begun rfl running).mp overflows)⟩,
          same, events, met⟩

end NmeaReceiver.Session
