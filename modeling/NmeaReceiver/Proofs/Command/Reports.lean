import NmeaReceiver.Proofs.Command.Polling

/-! What the poller reports. Each report answers a poll of its own with what was written since that
poll was accepted, and the tick that reports it has its next poll accepted. A poll goes without a
report just if its answer becomes complete after a tick has looked and before the same tick asks:
the look has not seen the answer, and the next poll is accepted at once. -/
namespace NmeaReceiver.Command.Polling
open NmeaReceiver.Fix

structure Answers (between : List Event) (seen : State) : Prop where
  latest : .asked true ∉ between
  first : reported between = []
  place : ∃ position, lastTold (·.position) (written between) = some position ∧
    seen.latitude = some position.latitude ∧ seen.longitude = some position.longitude
  moment : ∃ time, lastTold (·.time) (written between) = some time ∧
    seen.utc = some time.utc ∧ seen.offsetHours = some time.offsetHours

structure Reporting (w : Watch) : Prop where
  listed : w.poller.reports.reverse = reported w.history
  answers : ∀ front seen after, w.history = front ++ .looked seen true :: after →
    ∃ before between, front = before ++ .asked true :: between ∧ Answers between seen
  accepted : ∀ front seen after, w.history = front ++ .looked seen true :: after →
    ∃ writes : List Update, (after = writes.map .wrote ∧ w.asking = true) ∨
      ∃ rest, after = writes.map .wrote ++ .asked true :: rest
  once : ∀ before between after, w.history = before ++ .asked true :: (between ++ after) →
    .asked true ∉ between → (reported between).length ≤ 1

theorem lookAnswers {w : Watch} (standing : Standing w) (idle : w.asking = false)
    (answered : w.poller.answered = true) :
    ∃ before between, w.history = before ++ .asked true :: between ∧
      Answers between w.poller.fix := by
  simp only [Poller.answered, State.waiting, Bool.and_eq_true, Bool.not_eq_true',
    Bool.or_eq_false_iff] at answered
  obtain ⟨polled, located, timed⟩ := answered
  obtain ⟨before, cut, latest⟩ := sinceCut (standing.polled.mp polled)
  have told := standing.told polled
  rw [told.location] at located
  rw [told.time] at timed
  obtain ⟨position, placed⟩ := lastToldSome located
  obtain ⟨time, dated⟩ := lastToldSome timed
  exact ⟨before, _, cut, latest, standing.calm idle, ⟨position, placed, told.place position placed⟩,
    ⟨time, dated, told.moment time dated⟩⟩

theorem reportAnswers (moves : List Move) {front after : List Event} {seen : State}
    (same : (Watch.run moves).history = front ++ .looked seen true :: after) :
    ∃ before between, front = before ++ .asked true :: between ∧ Answers between seen := by
  obtain ⟨w, standing, rfl, idle, rfl, answered⟩ := eventBrought moves same
  exact lookAnswers standing idle answered

theorem reportAccepted (moves : List Move) {front after : List Event} {seen : State}
    (same : (Watch.run moves).history = front ++ .looked seen true :: after) :
    ∃ writes : List Update, (after = writes.map .wrote ∧ (Watch.run moves).asking = true) ∨
      ∃ rest, after = writes.map .wrote ++ .asked true :: rest := by
  obtain ⟨due, writes, only⟩ | ⟨writes, accepted, rest, rfl⟩ := afterLook moves same
  · exact ⟨writes, .inl ⟨only, due⟩⟩
  · refine ⟨writes, .inr ⟨rest, ?_⟩⟩
    cases accepted with
    | true => rfl
    | false =>
      -- A tick whose poll is refused has reported nothing, and this one has.
      rw [← List.cons_append, ← List.append_assoc] at same
      obtain ⟨w, standing, history, due, busy⟩ := eventBrought moves same
      have calm := (standingBusy standing due busy).calm rfl
      have grown : w.ask.history = front ++ (.looked seen true :: (writes.map .wrote ++
          [.asked false])) := by
        simp [Watch.ask, busy, history]
      rw [grown, sinceOthers _ (by simp), reportedAppend] at calm
      cases (List.append_eq_nil_iff.mp calm).2

theorem reportOnce (moves : List Move) {before between after : List Event}
    (same : (Watch.run moves).history = before ++ .asked true :: (between ++ after))
    (latest : .asked true ∉ between) : (reported between).length ≤ 1 := by
  induction between using List.reverseRecOn generalizing after with
  | nil => exact Nat.zero_le 1
  | append_singleton between event ih =>
    obtain ⟨earlier, other⟩ := not_or.mp (fun found => latest (List.mem_append.mpr found))
    rw [List.append_assoc] at same
    have most := ih same earlier
    rw [reportedAppend]
    cases report : event.report? with
    | none =>
      have silent : reported [event] = [] := List.filterMap_cons_none report
      rwa [silent, List.append_nil]
    | some seen =>
      have look : event = .looked seen true := by
        unfold Event.report? at report
        split at report <;> simp_all
      subst look
      rw [List.singleton_append, ← List.cons_append, ← List.append_assoc] at same
      obtain ⟨start, rest, parts, answers⟩ := reportAnswers moves same
      have cut : rest = between := by
        rw [← sinceLast start answers.latest, ← parts, sinceLast before earlier]
      rw [← cut, answers.first]
      exact Nat.le_refl 1

theorem reportsAnswerPolls (moves : List Move) : Reporting (.run moves) where
  listed := by rw [(runStanding moves).listed, List.reverse_reverse]
  answers _ _ _ same := reportAnswers moves same
  accepted _ _ _ same := reportAccepted moves same
  once _ _ _ same latest := reportOnce moves same latest

theorem reportOfOneSentence :
    let clock : Clock := .fixed ⟨0, 0⟩ .zero
    let line := "$GPRMC,120000,A,0000.00,N,00000.00,E,,,150124".toList
    let w := Watch.run [.turn, .turn, .ingest clock line, .turn]
    Reporting w ∧
      w.poller.reports = [⟨some .zero, some .zero, none, some ⟨1705320000, 0⟩, some .zero, none,
        false, false⟩] := by
  intro clock line w
  exact ⟨reportsAnswerPolls [.turn, .turn, .ingest clock line, .turn], by decide +kernel⟩

def AnsweredLate (between : List Event) : Prop :=
  ∃ (quiet : List Event) (seen : State) (writes : List Update),
    between = quiet ++ .looked seen false :: writes.map .wrote ∧ seen.waiting = true

def EachReported (history : List Event) : Prop :=
  ∀ before between after, history = before ++ .asked true :: (between ++ .asked true :: after) →
    .asked true ∉ between → reported between ≠ []

theorem lateUnreported (moves : List Move) {before quiet after : List Event} {seen : State}
    {writes : List Update}
    (same : (Watch.run moves).history =
      before ++ .asked true :: (quiet ++ .looked seen false :: writes.map .wrote ++ after))
    (latest : .asked true ∉ quiet) :
    reported (quiet ++ .looked seen false :: writes.map .wrote) = [] := by
  rw [List.append_assoc, List.cons_append, ← List.cons_append, ← List.append_assoc] at same
  obtain ⟨w, standing, history, idle, -⟩ := eventBrought moves same
  have calm := standing.calm idle
  rw [history, sinceLast before latest] at calm
  rw [reportedAppend, calm, List.nil_append]
  exact (List.filterMap_cons_none rfl).trans (reportedWrites writes)

theorem reportedUnlessLate (moves : List Move) {before between after : List Event}
    (polls : (Watch.run moves).history =
      before ++ .asked true :: (between ++ .asked true :: after))
    (next : .asked true ∉ between) : reported between ≠ [] ↔ ¬ AnsweredLate between := by
  constructor
  · intro told late
    obtain ⟨quiet, seen, writes, rfl, -⟩ := late
    exact told (lateUnreported moves polls fun found => next (List.mem_append_left _ found))
  · intro timely
    rw [← List.cons_append, ← List.append_assoc] at polls
    obtain ⟨w, standing, history, due, -⟩ := eventBrought moves polls
    obtain ⟨quiet, seen, writes, same, -, -⟩ := standing.underway due
    have polled : w.poller.polled = true := standing.polled.mpr (by simp [history])
    rw [history, sinceLast before next, polled, Bool.true_and] at same
    cases waits : seen.waiting with
    | true =>
      rw [waits] at same
      exact absurd ⟨quiet, seen, writes, same, waits⟩ timely
    | false =>
      rw [same, waits]
      simp [reported, Event.report?]

theorem timelyAnswerReported :
    let line := "$GPRMC,120000,A,0000.00,N,00000.00,E,,,150124".toList
    let w := Watch.run [.turn, .turn, .ingest (.fixed ⟨0, 0⟩ .zero) line, .turn, .turn]
    let before := w.history.take 1
    let between := (w.history.drop 2).take 2
    w.history = before ++ .asked true :: (between ++ .asked true :: []) ∧
      .asked true ∉ between ∧ (reported between ≠ [] ↔ ¬ AnsweredLate between) := by
  intro line w before between
  have polls : w.history = before ++ .asked true :: (between ++ .asked true :: []) := by
    decide +kernel
  have next : .asked true ∉ between := by decide +kernel
  exact ⟨polls, next, reportedUnlessLate _ polls next⟩

theorem lateAnswerUnreported : ¬ ∀ moves, EachReported (Watch.run moves).history := by
  intro each
  let line := "$GPRMC,120000,A,0000.00,N,00000.00,E,,,150124".toList
  let moves : List Move := [.turn, .turn, .turn, .ingest (.fixed ⟨0, 0⟩ .zero) line, .turn]
  let history := (Watch.run moves).history
  have polls : history =
      history.take 1 ++ .asked true :: ((history.drop 2).take 2 ++ .asked true :: []) := by
    decide +kernel
  have next : .asked true ∉ (history.drop 2).take 2 := by decide +kernel
  exact each moves _ _ _ polls next (by decide +kernel)

end NmeaReceiver.Command.Polling
