import NmeaReceiver.Link.Script
import NmeaReceiver.Proofs.Fix.LastWriter
import NmeaReceiver.Proofs.Session.Ticks

/-! Which lines a session hands to its fix, and what the fix holds after them. The lines that a
script holds are delivered in their order, none is lost and none comes twice; the values of the fix
follow them alone, since nothing else that a session does writes any. -/
namespace NmeaReceiver.Session
open NmeaReceiver.Link NmeaReceiver.Fix

def textOf : Outcome → Option (List Char)
  | .line text => some text
  | _ => none

def linesOf (cues : List (Cue Outcome)) : List (List Char) := cues.filterMap fun cue => textOf cue.value

theorem linesOfCons (cue : Cue Outcome) (cues : List (Cue Outcome)) :
    linesOf (cue :: cues) = (textOf cue.value).toList ++ linesOf cues := by
  unfold linesOf
  cases told : textOf cue.value <;> simp [told]

variable {σ : Type}

def underway (s : Session σ) : List (List Char) :=
  match s.phase with
  | .reading outcome _ => (textOf outcome).toList
  | _ => []

def handed (s : Session σ) : Action → List (List Char)
  | .tick => s.underway
  | _ => []

variable [Link σ]

def delivered (s : Session σ) : List Action → List (List Char)
  | [] => []
  | action :: actions => s.handed action ++ (s.step action).delivered actions

theorem deliveredAppend (s : Session σ) (before after : List Action) :
    s.delivered (before ++ after) = s.delivered before ++ (s.run before).delivered after := by
  induction before generalizing s with
  | nil => rfl
  | cons action before ih =>
    rw [List.cons_append, delivered, ih, delivered, List.append_assoc]
    rfl

structure Ingests (s t : Session σ) (lines : List (List Char)) : Prop where
  clock : t.clock = s.clock
  fix : t.fix = lines.foldl (State.ingest s.clock) s.fix

structure Writes (s t : Session σ) (lines : List (List Char)) : Prop where
  clock : t.clock = s.clock
  values : t.fix.values = (lines.foldl (State.ingest s.clock) s.fix).values

theorem settledIngests {s t : Session σ} {outcome : Outcome} (settled : Settled s outcome t) :
    Ingests s t (textOf outcome).toList := by
  cases settled with
  | line text => exact ⟨rfl, rfl⟩
  | overflow length => exact ⟨rfl, rfl⟩
  | failed fault => exact ⟨rfl, rfl⟩
  | patient few => exact ⟨rfl, rfl⟩
  | exhausted many => exact ⟨rfl, rfl⟩
  | refused => exact ⟨rfl, rfl⟩

theorem tickedIngests {s t : Session σ} (ticked : Ticked s t) : Ingests s t s.underway := by
  unfold underway
  cases ticked with
  | stopped phase asked => rw [phase]; exact ⟨rfl, rfl⟩
  | begun phase free => rw [phase]; exact ⟨rfl, rfl⟩
  | settled phase settled =>
    rw [phase]
    obtain ⟨clock, fix⟩ := settledIngests settled
    exact ⟨clock, fix⟩
  | dialled phase => rw [phase]; exact ⟨rfl, rfl⟩
  | answered phase => rw [phase]; exact ⟨rfl, rfl⟩
  | finished phase => rw [phase]; exact ⟨rfl, rfl⟩

theorem requestPollValues (s : State) : s.requestPoll.2.values = s.values := by
  unfold State.requestPoll
  split <;> rfl

theorem stepWrites (s : Session σ) (action : Action) :
    Writes s (s.step action) (s.handed action) := by
  cases action with
  | poll => exact ⟨rfl, requestPollValues s.fix⟩
  | subscribe => exact ⟨rfl, rfl⟩
  | disconnect => exact ⟨rfl, rfl⟩
  | tick =>
    obtain ⟨clock, fix⟩ := tickedIngests (tickCases s)
    exact ⟨clock, congrArg State.values fix⟩

theorem runClock (s : Session σ) (actions : List Action) : (s.run actions).clock = s.clock := by
  induction actions generalizing s with
  | nil => rfl
  | cons action actions ih => exact (ih (s.step action)).trans (stepWrites s action).clock

theorem runWrites (s : Session σ) (actions : List Action) (seen : List (List Char))
    (written : s.fix.values = lastWritten s.clock seen) :
    (s.run actions).fix.values = lastWritten s.clock (seen ++ s.delivered actions) := by
  induction actions generalizing s seen with
  | nil => rw [delivered, List.append_nil]; exact written
  | cons action actions ih =>
    -- What is handed over now counts as seen by the rest of the run.
    obtain ⟨clock, values⟩ := stepWrites s action
    have next : (s.step action).fix.values =
        lastWritten (s.step action).clock (seen ++ s.handed action) := by
      rw [values, clock]
      exact foldIngestValues written (s.handed action)
    have rest := ih (s.step action) (seen ++ s.handed action) next
    rw [clock, List.append_assoc] at rest
    exact rest

def ahead (s : Session Script) : List (List Char) := s.underway ++ linesOf s.supervisor.link.reads

theorem beginReadAhead (supervisor : Supervisor Script) :
    (textOf supervisor.beginRead.1).toList ++ linesOf supervisor.beginRead.2.2.link.reads =
      linesOf supervisor.link.reads := by
  change (textOf (Link.read supervisor.policy.readTimeout supervisor.link).value).toList ++
    linesOf (Link.read supervisor.policy.readTimeout supervisor.link).link.reads = _
  cases reads : supervisor.link.reads with
  | nil => rw [scriptReadSpent _ reads, reads]; rfl
  | cons cue rest => rw [scriptRead _ reads, linesOfCons]

theorem beginConnectReads (supervisor : Supervisor Script) :
    supervisor.beginConnect.2.2.link.reads = supervisor.link.reads := by
  change (Link.connect supervisor.link).link.reads = _
  rw [scriptConnectLink]

theorem settledAhead {s t : Session Script} {outcome : Outcome} (settled : Settled s outcome t) :
    t.underway ++ linesOf t.supervisor.link.reads = linesOf s.supervisor.link.reads := by
  cases settled with
  | line text => rfl
  | overflow length => rfl
  | failed fault => rfl
  | patient few => rfl
  | exhausted many => rfl
  | refused => rfl

theorem tickedAhead {s t : Session Script} (ticked : Ticked s t) :
    s.ahead = s.underway ++ t.ahead := by
  unfold ahead
  cases ticked with
  | stopped phase asked => simp only [underway, phase]; rfl
  | begun phase free =>
    simp only [underway, phase]
    exact (beginReadAhead s.supervisor).symm
  | settled phase settled => rw [settledAhead settled]; rfl
  | dialled phase =>
    simp only [underway, phase]
    exact congrArg linesOf (beginConnectReads (s.moveTo _).supervisor).symm
  | @answered result due phase =>
    simp only [underway, phase]
    cases result <;> rfl
  | finished phase => simp only [underway, phase]; rfl

theorem stepAhead (s : Session Script) (action : Action) :
    s.ahead = s.handed action ++ (s.step action).ahead := by
  cases action with
  | poll => rfl
  | subscribe => rfl
  | disconnect => rfl
  | tick => exact tickedAhead (tickCases s)

theorem runAhead (s : Session Script) (actions : List Action) :
    s.ahead = s.delivered actions ++ (s.run actions).ahead := by
  induction actions generalizing s with
  | nil => rfl
  | cons action actions ih =>
    rw [stepAhead s action, ih (s.step action), ← List.append_assoc]
    rfl

end NmeaReceiver.Session
