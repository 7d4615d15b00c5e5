import Mathlib.Data.List.Induction
import NmeaReceiver.Proofs.Link.Calls
import NmeaReceiver.Proofs.Session.Delivery

/-! The loop of a session as a loop of supervised reads. A round is one such read; a session is
amid the round that begins with a supervisor `r`, and where in it tells its phase. At the end of
the round its supervisor is the one that the supervised read leaves, whatever its callers did
meanwhile. -/
namespace NmeaReceiver.Session
open NmeaReceiver.Link

variable {σ : Type} [Link σ]

def Waits (r t : Supervisor σ) (cooldown : Nat) : Prop :=
  r.afterRead.endRead r.outcome = (.reconnect cooldown, t)

def cooled (t : Supervisor σ) (cooldown : Nat) : Supervisor σ := t.beginReconnect.elapse cooldown

inductive Amid (r : Supervisor σ) (s : Session σ) : Prop where
  | ready (phase : s.phase = .ready) (same : s.supervisor = r)
  | reading (phase : s.phase = .reading r.outcome r.afterRead.now)
      (same : s.supervisor = r.beginRead.2.2)
  | cooling {t : Supervisor σ} {cooldown : Nat} (waits : Waits r t cooldown)
      (phase : s.phase = .cooling (cooled t cooldown).now) (same : s.supervisor = t.beginReconnect)
  | connecting {t : Supervisor σ} {cooldown : Nat} (waits : Waits r t cooldown)
      (phase : s.phase = .connecting (cooled t cooldown).beginConnect.1
        ((cooled t cooldown).beginConnect.2.2.after (cooled t cooldown).beginConnect.2.1))
      (same : s.supervisor = (cooled t cooldown).beginConnect.2.2)
  | overflowed {length : Nat} (came : r.outcome = .overflow length)
      (phase : s.phase = .ended .overflow) (same : s.supervisor = r.readLine.2)
  | stopped (phase : s.phase = .ended .requested) (same : s.supervisor = r.disconnect)

theorem waitsReadLine {r t : Supervisor σ} {cooldown : Nat} (waits : Waits r t cooldown) :
    r.readLine = (.retry, t.reconnect cooldown) := by
  rw [Supervisor.readLineEndRead, waits]

theorem waitsNoLine {r t : Supervisor σ} {cooldown : Nat} (waits : Waits r t cooldown) :
    r.outcome = .refused ∨ r.outcome = .timeout := by
  unfold Waits at waits
  cases came : r.outcome with
  | refused => exact .inl rfl
  | timeout => exact .inr rfl
  | line text => rw [came] at waits; cases waits
  | overflow length => rw [came] at waits; cases waits
  | failed fault => rw [came] at waits; cases waits

theorem waitsFits {r t : Supervisor σ} {cooldown : Nat} (waits : Waits r t cooldown) (length : Nat) :
    r.outcome ≠ .overflow length := by
  rcases waitsNoLine waits with came | came <;> simp [came]

theorem waitsCalls {r t : Supervisor σ} {cooldown : Nat} (waits : Waits r t cooldown) :
    callsOf r.policy r.timeouts r.outcome = [.read r.policy.readTimeout, .disconnect, .connect] ∧
      t.actions = r.actions ++ [.read r.policy.readTimeout] := by
  rw [← Supervisor.afterReadActions]
  unfold Waits at waits
  cases came : r.outcome with
  | refused =>
    rw [came] at waits
    cases waits
    exact ⟨rfl, rfl⟩
  | timeout =>
    rw [came] at waits
    by_cases many : r.afterRead.policy.timeoutThreshold < r.afterRead.timeouts
    · rw [Supervisor.endReadExhausted many] at waits
      cases waits
      exact ⟨if_pos many, rfl⟩
    · rw [Supervisor.endReadPatient many] at waits
      cases waits
  | line text => rw [came] at waits; cases waits
  | overflow length => rw [came] at waits; cases waits
  | failed fault => rw [came] at waits; cases waits

inductive Progress (r : Supervisor σ) (s t : Session σ) : Prop where
  | stays (amid : Amid r t) (silent : s.underway = [])
  | completes (phase : t.phase = .ready) (same : t.supervisor = r.readLine.2)
      (fits : ∀ length, r.outcome ≠ .overflow length) (told : s.underway = (textOf r.outcome).toList)

theorem readingProgress {r : Supervisor σ} {s t : Session σ}
    (phase : s.phase = .reading r.outcome r.afterRead.now) (same : s.supervisor = r.beginRead.2.2)
    (settled : Settled (s.moveTo r.afterRead.now) r.outcome t) : Progress r s t := by
  have told : s.underway = (textOf r.outcome).toList := by simp only [underway, phase]
  have moved : (s.moveTo r.afterRead.now).supervisor = r.afterRead := by
    simp only [moveTo, same]
    rfl
  generalize came : r.outcome = outcome at settled told
  -- A refusal and one timeout too many leave the round waiting; an overflow ends the session amid it.
  cases settled with
  | line text =>
    refine .completes rfl ?_ (by simp [came]) (came ▸ told)
    rw [Supervisor.readLineLine came, ← moved]
    rfl
  | failed fault =>
    refine .completes rfl ?_ (by simp [came]) (came ▸ told)
    rw [Supervisor.readLineFailed came, ← moved]
    rfl
  | overflow length =>
    refine .stays (.overflowed came rfl ?_) told
    rw [Supervisor.readLineOverflow came, ← moved]
    rfl
  | refused =>
    rw [moved]
    have waits : Waits r r.afterRead r.policy.refusedCooldown := by
      rw [Waits, came]
      rfl
    exact .stays (.cooling waits rfl rfl) told
  | patient few =>
    rw [moved] at few ⊢
    refine .completes rfl ?_ (by simp [came]) (came ▸ told)
    rw [Supervisor.readLineTimeout came few]
    rfl
  | exhausted many =>
    rw [moved] at many ⊢
    have waits : Waits r r.counted r.policy.timeoutCooldown := by
      rw [Waits, came, Supervisor.endReadExhausted many]
      rfl
    exact .stays (.cooling waits rfl rfl) told

theorem tickProgress {r : Supervisor σ} {s : Session σ} (amid : Amid r s) : Progress r s s.tick := by
  cases amid with
  | ready phase same =>
    have silent : s.underway = [] := by simp only [underway, phase]
    subst same
    rw [tick, phase]
    dsimp only [top]
    split
    · exact .stays (.stopped rfl rfl) silent
    · exact .stays (.reading rfl rfl) silent
  | reading phase same =>
    have settles : s.tick = (s.moveTo r.afterRead.now).settle r.outcome := by rw [tick, phase]
    exact readingProgress phase same (settles ▸ settleCases _ _)
  | @cooling u cooldown waits phase same =>
    have silent : s.underway = [] := by simp only [underway, phase]
    have moved : (s.moveTo (cooled u cooldown).now).supervisor = cooled u cooldown := by
      simp only [moveTo, same]
      rfl
    rw [tick, phase]
    dsimp only
    rw [moved]
    exact .stays (.connecting waits rfl rfl) silent
  | @connecting u cooldown waits phase same =>
    have silent : s.underway = [] := by simp only [underway, phase]
    have none : (textOf r.outcome).toList = [] := by
      rcases waitsNoLine waits with came | came <;> rw [came] <;> rfl
    rw [tick, phase]
    refine .completes rfl ?_ (waitsFits waits) (silent.trans none.symm)
    rw [waitsReadLine waits]
    simp only [moveTo, withSupervisor, same]
    rfl
  | overflowed came phase same =>
    have silent : s.underway = [] := by simp only [underway, phase]
    rw [tick, phase]
    exact .stays (.overflowed came phase same) silent
  | stopped phase same =>
    have silent : s.underway = [] := by simp only [underway, phase]
    rw [tick, phase]
    exact .stays (.stopped phase same) silent

theorem quietStep (s : Session σ) {action : Action} (quiet : action ≠ .tick) :
    (s.step action).phase = s.phase ∧ (s.step action).supervisor = s.supervisor ∧
      s.handed action = [] := by
  cases action with
  | tick => exact absurd rfl quiet
  | _ => exact ⟨rfl, rfl, rfl⟩

theorem quietAmid {r : Supervisor σ} {s : Session σ} {action : Action} (quiet : action ≠ .tick)
    (amid : Amid r s) : Amid r (s.step action) := by
  obtain ⟨phase, same, _⟩ := quietStep s quiet
  cases amid with
  | ready stage is => exact .ready (phase.trans stage) (same.trans is)
  | reading stage is => exact .reading (phase.trans stage) (same.trans is)
  | cooling waits stage is => exact .cooling waits (phase.trans stage) (same.trans is)
  | connecting waits stage is => exact .connecting waits (phase.trans stage) (same.trans is)
  | overflowed came stage is => exact .overflowed came (phase.trans stage) (same.trans is)
  | stopped stage is => exact .stopped (phase.trans stage) (same.trans is)

structure Rounds (first : Supervisor σ) (s : Session σ) (lines : List (List Char)) (n : Nat) :
    Prop where
  amid : Amid (first.readTimes n) s
  fits : Fits (first.heard n)
  lines : lines = (first.heard n).filterMap textOf

theorem roundsTick {first : Supervisor σ} {s : Session σ} {lines : List (List Char)} {n : Nat}
    (rounds : Rounds first s lines n) : ∃ m, Rounds first s.tick (lines ++ s.underway) m := by
  obtain ⟨amid, fits, told⟩ := rounds
  cases tickProgress amid with
  | stays amid silent => exact ⟨n, amid, fits, by rw [silent, List.append_nil, told]⟩
  | completes phase same short line =>
    refine ⟨n + 1, .ready phase ?_, ?_, ?_⟩
    · rw [same, Supervisor.readTimesSucc]
    · intro outcome member
      rw [Supervisor.heardSucc] at member
      rcases List.mem_append.mp member with old | new
      · exact fits outcome old
      · rw [List.mem_singleton.mp new]
        exact short
    · rw [Supervisor.heardSucc, List.filterMap_append, told, line]
      cases came : textOf (first.readTimes n).outcome <;> simp [came]

theorem roundsStep {first : Supervisor σ} {s : Session σ} {lines : List (List Char)} {n : Nat}
    (rounds : Rounds first s lines n) (action : Action) :
    ∃ m, Rounds first (s.step action) (lines ++ s.handed action) m := by
  by_cases quiet : action = .tick
  · rw [quiet]
    exact roundsTick rounds
  · obtain ⟨_, _, nothing⟩ := quietStep s quiet
    rw [nothing, List.append_nil]
    exact ⟨n, quietAmid quiet rounds.amid, rounds.fits, rounds.lines⟩

theorem runRounds (first : Session σ) (ready : first.phase = .ready) (actions : List Action) :
    ∃ n, Rounds first.supervisor (first.run actions) (first.delivered actions) n := by
  induction actions using List.reverseRecOn with
  | nil => exact ⟨0, .ready ready rfl, by simp [Supervisor.heard, Fits], rfl⟩
  | append_singleton actions action ih =>
    obtain ⟨n, rounds⟩ := ih
    rw [runAppend, deliveredAppend]
    have whole : (first.run actions).delivered [action] = (first.run actions).handed action :=
      List.append_nil _
    rw [whole]
    exact roundsStep rounds action

end NmeaReceiver.Session
