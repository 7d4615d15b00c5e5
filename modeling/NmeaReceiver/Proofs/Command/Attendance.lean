import NmeaReceiver.Link.Opening
import NmeaReceiver.Proofs.Session.Ending

/-! The command beside the task of its session. The task runs from the start; the command subscribes
after that, and then polls, asks for the disconnect and looks for events until it is told of the end.
Every list of moves is one way in which the two may go. The task has a sender until it ends and the
command has one until it leaves, so the channel is never closed while the command waits: if the task
has ended before the subscription, it waits for ever. A task that ends so early has met a line that
is too long, for nobody can have asked for the disconnect. -/
namespace NmeaReceiver.Command
open NmeaReceiver.Session NmeaReceiver.Link

inductive Attended.Stage where
  | started
  | waiting
  | left
  deriving DecidableEq

inductive Attended.Move where
  | task
  | subscribe
  | poll
  | interrupt
  | receive
  deriving DecidableEq

structure Attended (σ : Type) where
  session : Session σ
  stage : Attended.Stage

namespace Attended

variable {σ : Type}

def begun (supervisor : Supervisor σ) (clock : Fix.Clock) : Attended σ :=
  ⟨{ Session.start supervisor clock with inboxes := [] }, .started⟩

def senders (a : Attended σ) : Nat :=
  (match a.session.phase with
    | .ended _ => 0
    | _ => 1) +
  match a.stage with
    | .left => 0
    | _ => 1

def receive (a : Attended σ) : Attended σ :=
  match a.session.inboxes with
  | (_ :: later) :: others => ⟨{ a.session with inboxes := later :: others }, .left⟩
  | _ => if a.senders = 0 then { a with stage := .left } else a

/-- The task has ended, and the command neither holds the event nor finds the channel closed. -/
def Stuck (a : Attended σ) : Prop :=
  (∃ why, a.session.phase = .ended why) ∧ a.stage = .waiting ∧ a.session.inboxes.flatten = [] ∧
    a.senders ≠ 0

structure Alone (a : Attended σ) : Prop where
  stage : a.stage = .started
  inboxes : a.session.inboxes = []
  free : a.session.cancelled = false
  overflows : ∀ why, a.session.phase = .ended why → why = .overflow

inductive Heeds (a : Attended σ) : Prop where
  | attending (stage : a.stage = .waiting) (running : a.session.Running)
      (empty : a.session.inboxes = [[]])
  | told {why : Termination} (stage : a.stage = .waiting) (ended : a.session.phase = .ended why)
      (holds : a.session.inboxes = [[why]])
  | left {why : Termination} (stage : a.stage = .left) (ended : a.session.phase = .ended why)

structure Missed (a : Attended σ) : Prop where
  stage : a.stage = .waiting
  ended : a.session.phase = .ended .overflow
  empty : a.session.inboxes = [[]]

theorem aloneBegun (supervisor : Supervisor σ) (clock : Fix.Clock) :
    Alone (begun supervisor clock) :=
  ⟨rfl, rfl, rfl, fun _ ended => by cases ended⟩

theorem waitingOpen {a : Attended σ} (waiting : a.stage = .waiting) : a.senders ≠ 0 := by
  simp [senders, waiting]

theorem receiveNothing {a : Attended σ} (waiting : a.stage = .waiting)
    (empty : a.session.inboxes = [[]]) : a.receive = a := by
  unfold receive
  rw [empty]
  exact if_neg (waitingOpen waiting)

theorem missedStuck {a : Attended σ} (missed : Missed a) : Stuck a :=
  ⟨⟨_, missed.ended⟩, missed.stage, by rw [missed.empty]; rfl, waitingOpen missed.stage⟩

theorem heedsFree {a : Attended σ} (heeds : Heeds a) : ¬ Stuck a := by
  intro stuck
  obtain ⟨⟨why, ended⟩, waiting, nothing, -⟩ := stuck
  cases heeds with
  | attending stage running empty => exact running why ended
  | told stage ended holds =>
    rw [holds] at nothing
    cases nothing
  | left stage ended =>
    rw [waiting] at stage
    cases stage

theorem heedsReceive {a : Attended σ} (heeds : Heeds a) (waiting : a.stage = .waiting) :
    Heeds a.receive := by
  cases heeds with
  | attending stage running empty =>
    rw [receiveNothing stage empty]
    exact .attending stage running empty
  | told stage ended holds =>
    unfold receive
    rw [holds]
    exact .left rfl ended
  | left stage ended =>
    rw [waiting] at stage
    cases stage

variable [Link σ]

def act (a : Attended σ) (action : Session.Action) : Attended σ :=
  { a with session := a.session.step action }

def step (a : Attended σ) (move : Move) : Attended σ :=
  match a.stage, move with
  | _, .task => a.act .tick
  | .started, .subscribe => { a.act .subscribe with stage := .waiting }
  | .waiting, .poll => a.act .poll
  | .waiting, .interrupt => a.act .disconnect
  | .waiting, .receive => a.receive
  | _, _ => a

def run (a : Attended σ) (moves : List Move) : Attended σ := moves.foldl step a

theorem runAppend (a : Attended σ) (front back : List Move) :
    a.run (front ++ back) = (a.run front).run back := by
  simp [run, List.foldl_append]

theorem tickTells {s : Session σ} (running : s.Running) :
    (s.tick.Running ∧ s.tick.inboxes = s.inboxes) ∨
      ∃ why, s.tick.phase = .ended why ∧ s.tick.inboxes = s.inboxes.map (· ++ [why]) ∧
        (why = .requested → s.cancelled = true) := by
  by_cases still : s.tick.Running
  · have running : (s.step .tick).Running := still
    have same : s.tick.inboxes = s.inboxes ++ [] := runningStepInboxes running
    exact .inl ⟨still, same.trans (List.append_nil _)⟩
  · obtain ⟨why, ended⟩ := not_forall_not.mp still
    obtain ⟨sent, closes⟩ := tickedCloses (tickCases s) rfl running ended
    refine .inr ⟨why, ended, ?_, closes.asked⟩
    rw [closes.ends, ← closes.inboxes]
    rfl

theorem aloneTask {a : Attended σ} (alone : Alone a) : Alone (a.act .tick) := by
  have free : (a.act .tick).session.cancelled = false := by
    rw [act, stepCancelled, alone.free]
    rfl
  by_cases running : a.session.Running
  · obtain ⟨still, same⟩ | ⟨why, ended, told, asked⟩ := tickTells running
    · exact ⟨alone.stage, same.trans alone.inboxes, free, fun why ended => absurd ended (still why)⟩
    · refine ⟨alone.stage, told.trans (by rw [alone.inboxes, List.map_nil]), free, ?_⟩
      intro other also
      obtain rfl : why = other := Phase.ended.inj (ended.symm.trans also)
      cases why with
      | overflow => rfl
      | requested =>
        rw [alone.free] at asked
        cases asked rfl
  · obtain ⟨why, ended⟩ := not_forall_not.mp running
    obtain ⟨phase, _, inboxes⟩ := endedStep ended .tick
    refine ⟨alone.stage, inboxes.trans (by rw [alone.inboxes]; rfl), free, ?_⟩
    intro other also
    exact alone.overflows other (ended.trans (phase.symm.trans also))

theorem aloneRun {a : Attended σ} (alone : Alone a) {moves : List Move}
    (unsubscribed : .subscribe ∉ moves) : Alone (a.run moves) := by
  induction moves generalizing a with
  | nil => exact alone
  | cons move moves ih =>
    obtain ⟨other, later⟩ := not_or.mp (fun found => unsubscribed (List.mem_cons.mpr found))
    refine ih ?_ later
    unfold step
    rw [alone.stage]
    cases move with
    | task => exact aloneTask alone
    | subscribe => exact absurd rfl other
    | poll => exact alone
    | interrupt => exact alone
    | receive => exact alone

theorem missedAct {a : Attended σ} (missed : Missed a) {action : Session.Action}
    (other : [action].count .subscribe = 0) : Missed (a.act action) := by
  obtain ⟨phase, _, inboxes⟩ := endedStep missed.ended action
  rw [other, missed.empty] at inboxes
  exact ⟨missed.stage, phase, inboxes⟩

theorem missedStep {a : Attended σ} (missed : Missed a) (move : Move) : Missed (a.step move) := by
  unfold step
  rw [missed.stage]
  cases move with
  | task => exact missedAct missed rfl
  | subscribe => exact missed
  | poll => exact missedAct missed rfl
  | interrupt => exact missedAct missed rfl
  | receive => exact (receiveNothing missed.stage missed.empty).symm ▸ missed

theorem missedRun {a : Attended σ} (missed : Missed a) (moves : List Move) :
    Missed (a.run moves) := by
  induction moves generalizing a with
  | nil => exact missed
  | cons move moves ih => exact ih (missedStep missed move)

theorem heedsAct {a : Attended σ} (heeds : Heeds a) {action : Session.Action}
    (other : [action].count .subscribe = 0) : Heeds (a.act action) := by
  cases heeds with
  | attending stage running empty =>
    cases action with
    | tick =>
      obtain ⟨still, same⟩ | ⟨why, ended, told, _⟩ := tickTells running
      · exact .attending stage still (same.trans empty)
      · exact .told stage ended (told.trans (by rw [empty]; rfl))
    | poll => exact .attending stage running empty
    | disconnect => exact .attending stage running empty
    | subscribe => cases other
  | told stage ended holds =>
    obtain ⟨phase, _, inboxes⟩ := endedStep ended action
    rw [other, holds] at inboxes
    exact .told stage phase inboxes
  | left stage ended => exact .left stage (endedStep ended action).1

theorem heedsStep {a : Attended σ} (heeds : Heeds a) (move : Move) : Heeds (a.step move) := by
  unfold step
  cases stage : a.stage with
  | started => cases heeds <;> simp_all
  | waiting =>
    cases move with
    | task => exact heedsAct heeds rfl
    | subscribe => exact heeds
    | poll => exact heedsAct heeds rfl
    | interrupt => exact heedsAct heeds rfl
    | receive => exact heedsReceive heeds stage
  | left =>
    cases move with
    | task => exact heedsAct heeds rfl
    | subscribe => exact heeds
    | poll => exact heeds
    | interrupt => exact heeds
    | receive => exact heeds

theorem heedsRun {a : Attended σ} (heeds : Heeds a) (moves : List Move) : Heeds (a.run moves) := by
  induction moves generalizing a with
  | nil => exact heeds
  | cons move moves ih => exact ih (heedsStep heeds move)

def SubscribesLate (a : Attended σ) (moves : List Move) : Prop :=
  ∃ before after, moves = before ++ .subscribe :: after ∧ .subscribe ∉ before ∧
    ¬ (a.run before).session.Running

theorem subscribesLate {a : Attended σ} (alone : Alone a) {before after : List Move}
    (unsubscribed : .subscribe ∉ before) (ended : ¬ (a.run before).session.Running) :
    Missed (a.run (before ++ .subscribe :: after)) := by
  have earlier := aloneRun alone unsubscribed
  rw [runAppend]
  refine missedRun ?_ after
  unfold step
  rw [earlier.stage]
  obtain ⟨why, phase⟩ := not_forall_not.mp ended
  have overflow := earlier.overflows why phase
  exact ⟨rfl, overflow ▸ phase, by simp [act, Session.step, earlier.inboxes]⟩

theorem subscribesTimely {a : Attended σ} (alone : Alone a) {before after : List Move}
    (unsubscribed : .subscribe ∉ before) (running : (a.run before).session.Running) :
    Heeds (a.run (before ++ .subscribe :: after)) := by
  have earlier := aloneRun alone unsubscribed
  rw [runAppend]
  refine heedsRun ?_ after
  unfold step
  rw [earlier.stage]
  exact .attending rfl running (by simp [act, Session.step, earlier.inboxes])

theorem runCases {a : Attended σ} (alone : Alone a) (moves : List Move) :
    Alone (a.run moves) ∨ (Missed (a.run moves) ∧ SubscribesLate a moves) ∨ Heeds (a.run moves) := by
  by_cases subscribed : .subscribe ∈ moves
  · obtain ⟨before, after, rfl, first⟩ := List.eq_append_cons_of_mem subscribed
    by_cases running : (a.run before).session.Running
    · exact .inr (.inr (subscribesTimely alone first running))
    · exact .inr (.inl ⟨subscribesLate alone first running, before, after, rfl, first, running⟩)
  · exact .inl (aloneRun alone subscribed)

theorem stuckIffLate (supervisor : Supervisor σ) (clock : Fix.Clock) (moves : List Move) :
    let first := begun supervisor clock
    let last := first.run moves
    (Stuck last ↔ SubscribesLate first moves) ∧
    (Stuck last → last.session.phase = .ended .overflow ∧ ∀ more, Stuck (last.run more)) ∧
    (∀ why, last.session.phase = .ended why → last.stage = .waiting →
      ¬ SubscribesLate first moves → last.session.inboxes = [[why]]) ∧
    (last.stage = .left → ∃ why, last.session.phase = .ended why) := by
  intro first last
  have alone := aloneBegun supervisor clock
  have became := runCases alone moves
  refine ⟨⟨?_, ?_⟩, ?_, ?_, ?_⟩
  · intro stuck
    obtain before | ⟨missed, late⟩ | heeds := became
    · cases before.stage.symm.trans stuck.2.1
    · exact late
    · exact absurd stuck (heedsFree heeds)
  · intro late
    obtain ⟨before, after, rfl, unsubscribed, ended⟩ := late
    exact missedStuck (subscribesLate alone unsubscribed ended)
  · intro stuck
    obtain before | ⟨missed, late⟩ | heeds := became
    · cases before.stage.symm.trans stuck.2.1
    · exact ⟨missed.ended, fun more => missedStuck (missedRun missed more)⟩
    · exact absurd stuck (heedsFree heeds)
  · intro why ended waiting timely
    obtain before | ⟨missed, late⟩ | heeds := became
    · cases before.stage.symm.trans waiting
    · exact absurd late timely
    · cases heeds with
      | attending stage running empty => exact absurd ended (running why)
      | told stage closed holds =>
        rw [holds, Phase.ended.inj (closed.symm.trans ended)]
      | left stage closed => cases stage.symm.trans waiting
  · intro leaving
    obtain before | ⟨missed, late⟩ | heeds := became
    · cases before.stage.symm.trans leaving
    · cases missed.stage.symm.trans leaving
    · cases heeds with
      | attending stage running empty => cases stage.symm.trans leaving
      | told stage closed holds => cases stage.symm.trans leaving
      | left stage closed => exact ⟨_, closed⟩

theorem endMissed :
    ¬ ∀ (script : Script) (policy : Policy) (clock : Fix.Clock) (moves : List Move),
      let opened := (Supervisor.new script policy).openScripted
      opened.1.isOk = true → ¬ Stuck ((begun opened.2 clock).run moves) := by
  intro never
  let script : Script := ⟨[⟨.line "$GPXYZ,1".toList, 0⟩, ⟨.overflow 100, 0⟩], []⟩
  have missed := never script .standard (.fixed ⟨0, 0⟩ .zero) [.task, .task, .subscribe]
    (by decide +kernel)
  exact missed ⟨⟨.overflow, rfl⟩, rfl, rfl, by decide +kernel⟩

end Attended
end NmeaReceiver.Command
