import Mathlib.Data.List.Induction
import NmeaReceiver.Command.Poller
import NmeaReceiver.Proofs.Fix.Handshake
import NmeaReceiver.Proofs.Fix.LastWriter

/-! The poller beside the lines that are ingested. A tick looks at the fix and then asks for the
next poll, and each of the two meets the fix on its own: lines may be ingested before, between and
after. Every list of moves is one way in which it may go; the history keeps what was seen, what was
asked and what was written, in the order in which the fix met it. -/
namespace NmeaReceiver.Command.Polling
open NmeaReceiver.Fix

inductive Event where
  | looked (seen : State) (reported : Bool)
  | asked (accepted : Bool)
  | wrote (update : Update)
  deriving DecidableEq

def Event.update? : Event → Option Update
  | .wrote update => some update
  | _ => none

def Event.report? : Event → Option State
  | .looked seen true => some seen
  | _ => none

def written (events : List Event) : List Update := events.filterMap Event.update?

def reported (events : List Event) : List State := events.filterMap Event.report?

@[simp] theorem writtenAppend (front back : List Event) :
    written (front ++ back) = written front ++ written back := List.filterMap_append

@[simp] theorem reportedAppend (front back : List Event) :
    reported (front ++ back) = reported front ++ reported back := List.filterMap_append

theorem reportedWrites (writes : List Update) : reported (writes.map .wrote) = [] := by
  simp [reported, Event.report?]

inductive Move where
  | turn
  | ingest (clock : Clock) (line : List Char)

-- While it is asking, a tick has looked and has yet to ask.
structure Watch where
  poller : Poller
  asking : Bool
  history : List Event

namespace Watch

def fresh : Watch := ⟨.new, false, []⟩

def look (w : Watch) : Watch :=
  ⟨w.poller.look, true, w.history ++ [.looked w.poller.fix w.poller.answered]⟩

def ask (w : Watch) : Watch :=
  ⟨w.poller.ask, false, w.history ++ [.asked w.poller.fix.requestPoll.1]⟩

def step (w : Watch) : Move → Watch
  | .turn => if w.asking then w.ask else w.look
  | .ingest clock line => { w with
      poller := w.poller.ingest clock line
      history := w.history ++ (updateIn clock line).toList.map .wrote }

def run (moves : List Move) : Watch := moves.foldl step fresh

theorem runSnoc (moves : List Move) (move : Move) :
    run (moves ++ [move]) = (run moves).step move := by
  simp [run, List.foldl_append]

def write (w : Watch) (update : Update) : Watch :=
  { w with
    poller := { w.poller with fix := w.poller.fix.apply update }
    history := w.history ++ [.wrote update] }

end Watch

inductive Stepped (w : Watch) : Watch → Prop where
  | looked (idle : w.asking = false) : Stepped w w.look
  | asked (due : w.asking = true) : Stepped w w.ask
  | wrote (update : Update) : Stepped w (w.write update)
  | silent : Stepped w w

theorem stepCases (w : Watch) (move : Move) : Stepped w (w.step move) := by
  cases move with
  | turn =>
    unfold Watch.step
    cases due : w.asking with
    | true => exact .asked due
    | false => exact .looked due
  | ingest clock line =>
    simp only [Watch.step, Poller.ingest, ingestUpdate]
    cases updateIn clock line with
    | none =>
      simp only [Option.toList_none, List.map_nil, List.append_nil]
      exact .silent
    | some update => exact .wrote update

def since (history : List Event) : List Event :=
  history.foldl (fun kept event => if event = .asked true then [] else kept ++ [event]) []

theorem sinceAccepted (history : List Event) : since (history ++ [.asked true]) = [] := by
  simp [since]

theorem sinceOther (history : List Event) {event : Event} (other : event ≠ .asked true) :
    since (history ++ [event]) = since history ++ [event] := by
  simp [since, other]

theorem sinceOthers (history : List Event) {more : List Event} (others : .asked true ∉ more) :
    since (history ++ more) = since history ++ more := by
  induction more using List.reverseRecOn with
  | nil => simp
  | append_singleton more event ih =>
    obtain ⟨earlier, last⟩ := not_or.mp (fun found => others (List.mem_append.mpr found))
    rw [← List.append_assoc, sinceOther _ fun same => last (by simp [same]), ih earlier,
      List.append_assoc]

theorem sinceLast (before : List Event) {between : List Event} (last : .asked true ∉ between) :
    since (before ++ .asked true :: between) = between := by
  rw [List.append_cons, sinceOthers _ last, sinceAccepted, List.nil_append]

theorem sinceCut {history : List Event} (polled : .asked true ∈ history) :
    ∃ before, history = before ++ .asked true :: since history ∧ .asked true ∉ since history := by
  induction history using List.reverseRecOn with
  | nil => simp at polled
  | append_singleton history event ih =>
    by_cases accepted : event = .asked true
    · subst accepted
      rw [sinceAccepted]
      exact ⟨history, rfl, by simp⟩
    · have earlier : .asked true ∈ history := by simpa [Ne.symm accepted] using polled
      obtain ⟨before, same, last⟩ := ih earlier
      rw [sinceOther history accepted]
      refine ⟨before, ?_, by simp [last, Ne.symm accepted]⟩
      rw [← List.cons_append, ← List.append_assoc, ← same]

structure Told (between : List Event) (s : State) : Prop where
  location : s.locationPending = (written between).all (·.position.isNone)
  time : s.timePending = (written between).all (·.time.isNone)
  place : ∀ position, lastTold (·.position) (written between) = some position →
    s.latitude = some position.latitude ∧ s.longitude = some position.longitude
  moment : ∀ time, lastTold (·.time) (written between) = some time →
    s.utc = some time.utc ∧ s.offsetHours = some time.offsetHours

theorem toldAccepted {s : State} (accepted : s.requestPoll.1 = true) : Told [] s.requestPoll.2 := by
  rw [Handshake.requestPollTakes accepted]
  exact ⟨rfl, rfl, by simp [written, lastTold], by simp [written, lastTold]⟩

theorem toldOther {between : List Event} {s : State} (told : Told between s) {event : Event}
    (silent : event.update? = none) : Told (between ++ [event]) s := by
  have same : written (between ++ [event]) = written between := by simp [written, silent]
  constructor <;> rw [same]
  · exact told.location
  · exact told.time
  · exact told.place
  · exact told.moment

theorem toldWrote {between : List Event} {s : State} (told : Told between s) (update : Update) :
    Told (between ++ [.wrote update]) (s.apply update) := by
  have grown : written (between ++ [.wrote update]) = written between ++ [update] :=
    writtenAppend between _
  constructor <;> rw [grown]
  · simp [told.location]
  · simp [told.time]
  · intro position last
    rw [lastToldSnoc] at last
    cases carried : update.position with
    | none =>
      rw [carried, Option.none_or] at last
      simpa [carried] using told.place position last
    | some newer =>
      rw [carried, Option.some_or] at last
      cases last
      simp [carried]
  · intro time last
    rw [lastToldSnoc] at last
    cases carried : update.time with
    | none =>
      rw [carried, Option.none_or] at last
      simpa [carried] using told.moment time last
    | some newer =>
      rw [carried, Option.some_or] at last
      cases last
      simp [carried]

theorem applyWaits {s : State} {update : Update} (waits : (s.apply update).waiting = true) :
    s.waiting = true := by
  simp only [State.waiting, State.applyLocationPending, State.applyTimePending, Bool.or_eq_true,
    Bool.and_eq_true] at waits ⊢
  exact waits.imp And.left And.left

/-- The tick under way: nothing is reported between the last accepted poll and the look, and
nothing but updates comes after it. -/
def Underway (w : Watch) : Prop :=
  ∃ (quiet : List Event) (seen : State) (writes : List Update),
    since w.history = quiet ++ .looked seen (w.poller.polled && !seen.waiting) :: writes.map .wrote ∧
    reported quiet = [] ∧ (w.poller.fix.waiting = true → seen.waiting = true)

structure Standing (w : Watch) : Prop where
  listed : w.poller.reports = (reported w.history).reverse
  polled : w.poller.polled = true ↔ .asked true ∈ w.history
  free : w.poller.polled = false → w.poller.fix.waiting = false
  told : w.poller.polled = true → Told (since w.history) w.poller.fix
  calm : w.asking = false → reported (since w.history) = []
  underway : w.asking = true → Underway w

theorem standingFresh : Standing .fresh where
  listed := rfl
  polled := by simp [Watch.fresh, Poller.new]
  free _ := rfl
  told := by simp [Watch.fresh, Poller.new]
  calm _ := rfl
  underway := by simp [Watch.fresh]

theorem standingLook {w : Watch} (standing : Standing w) (idle : w.asking = false) :
    Standing w.look := by
  have kept : w.poller.look.fix = w.poller.fix ∧ w.poller.look.polled = w.poller.polled := by
    unfold Poller.look
    split <;> exact ⟨rfl, rfl⟩
  have other : Event.looked w.poller.fix w.poller.answered ≠ .asked true := by simp
  constructor
  case listed =>
    cases answered : w.poller.answered with
    | true => simp [Watch.look, Poller.look, answered, standing.listed, reported, Event.report?]
    | false => simp [Watch.look, Poller.look, answered, standing.listed, reported, Event.report?]
  case polled => simpa [Watch.look, kept.2] using standing.polled
  case free => simpa only [Watch.look, kept.1, kept.2] using standing.free
  case told =>
    intro polled
    simp only [Watch.look, kept.1, kept.2, sinceOther _ other] at polled ⊢
    exact toldOther (standing.told polled) rfl
  case calm => simp [Watch.look]
  case underway =>
    intro due
    refine ⟨since w.history, w.poller.fix, [], ?_, standing.calm idle, ?_⟩
    · simp only [Watch.look, kept.2, sinceOther _ other, List.map_nil]
      rfl
    · simp [Watch.look, kept.1]

theorem standingAccepted {w : Watch} (standing : Standing w)
    (accepted : w.poller.fix.requestPoll.1 = true) : Standing w.ask := by
  have polled : w.ask.poller.polled = true := by simp [Watch.ask, Poller.ask, accepted]
  have history : w.ask.history = w.history ++ [.asked true] := by simp [Watch.ask, accepted]
  constructor
  case listed =>
    rw [history, reportedAppend]
    exact standing.listed.trans (congrArg _ (List.append_nil _).symm)
  case polled => simp [polled, history]
  case free => simp [polled]
  case told =>
    intro polled
    rw [history, sinceAccepted]
    exact toldAccepted accepted
  case calm =>
    intro idle
    rw [history, sinceAccepted]
    rfl
  case underway => simp [Watch.ask]

theorem standingBusy {w : Watch} (standing : Standing w) (due : w.asking = true)
    (busy : w.poller.fix.requestPoll.1 = false) : Standing w.ask := by
  have waits : w.poller.fix.waiting = true := by
    by_contra free
    simp [State.requestPoll, free] at busy
  have polled : w.poller.polled = true := by
    by_contra never
    rw [standing.free (Bool.eq_false_iff.mpr never)] at waits
    cases waits
  have poller : w.ask.poller = w.poller := by
    simp [Watch.ask, Poller.ask, busy, State.requestPollBusy busy]
  have history : w.ask.history = w.history ++ [.asked false] := by simp [Watch.ask, busy]
  have other : Event.asked false ≠ .asked true := by simp
  constructor
  case listed =>
    rw [poller, history, reportedAppend]
    exact standing.listed.trans (congrArg _ (List.append_nil _).symm)
  case polled =>
    rw [poller, history]
    simpa using standing.polled
  case free => simpa only [poller] using standing.free
  case told =>
    rw [poller, history, sinceOther _ other]
    exact fun _ => toldOther (standing.told polled) rfl
  case calm =>
    -- The poll is waiting still, so the look of this tick found it waiting and reported nothing.
    intro idle
    obtain ⟨quiet, seen, writes, same, nothing, still⟩ := standing.underway due
    have unreported : (Event.looked seen (w.poller.polled && !seen.waiting)).report? = none := by
      simp [still waits, Event.report?]
    have silent : reported (_ :: writes.map Event.wrote) = [] :=
      (List.filterMap_cons_none unreported).trans (reportedWrites writes)
    rw [history, sinceOther _ other, same, reportedAppend, reportedAppend, nothing, silent]
    rfl
  case underway => simp [Watch.ask]

theorem standingWrite {w : Watch} (standing : Standing w) (update : Update) :
    Standing (w.write update) := by
  have other : Event.wrote update ≠ .asked true := by simp
  constructor
  case listed =>
    simp only [Watch.write, reportedAppend]
    exact standing.listed.trans (congrArg _ (List.append_nil _).symm)
  case polled => simpa [Watch.write] using standing.polled
  case free =>
    intro never
    exact Bool.eq_false_iff.mpr fun waits =>
      Bool.eq_false_iff.mp (standing.free never) (applyWaits waits)
  case told =>
    intro polled
    simp only [Watch.write, sinceOther _ other]
    exact toldWrote (standing.told polled) update
  case calm =>
    intro idle
    simp only [Watch.write, sinceOther _ other, reportedAppend, standing.calm idle]
    rfl
  case underway =>
    intro due
    obtain ⟨quiet, seen, writes, same, nothing, still⟩ := standing.underway due
    refine ⟨quiet, seen, writes ++ [update], ?_, nothing, fun waits => still (applyWaits waits)⟩
    simp only [Watch.write, sinceOther _ other, same, List.map_append, List.map_singleton,
      List.append_assoc, List.cons_append]

theorem steppedStanding {w next : Watch} (standing : Standing w) (stepped : Stepped w next) :
    Standing next := by
  cases stepped with
  | looked idle => exact standingLook standing idle
  | asked due =>
    cases accepted : w.poller.fix.requestPoll.1 with
    | true => exact standingAccepted standing accepted
    | false => exact standingBusy standing due accepted
  | wrote update => exact standingWrite standing update
  | silent => exact standing

theorem runStanding (moves : List Move) : Standing (.run moves) := by
  induction moves using List.reverseRecOn with
  | nil => exact standingFresh
  | append_singleton moves move ih =>
    rw [Watch.runSnoc]
    exact steppedStanding ih (stepCases _ move)

theorem snocAtEvent {history front after : List Event} {last event : Event}
    (same : history ++ [last] = front ++ event :: after) :
    (after = [] ∧ history = front ∧ last = event) ∨
      ∃ earlier, after = earlier ++ [last] ∧ history = front ++ event :: earlier := by
  obtain rfl | ⟨earlier, final, rfl⟩ := List.eq_nil_or_concat after
  · obtain ⟨parts, ends⟩ := List.append_inj' same rfl
    exact .inl ⟨rfl, parts, List.singleton_inj.mp ends⟩
  · rw [List.concat_eq_append, ← List.cons_append, ← List.append_assoc] at same
    obtain ⟨parts, ends⟩ := List.append_inj' same rfl
    exact .inr ⟨earlier, by rw [List.concat_eq_append, ends], parts⟩

def Brings (w : Watch) : Event → Prop
  | .looked seen reported => w.asking = false ∧ w.poller.fix = seen ∧ w.poller.answered = reported
  | .asked accepted => w.asking = true ∧ w.poller.fix.requestPoll.1 = accepted
  | .wrote _ => True

theorem steppedHistory {w next : Watch} (stepped : Stepped w next) :
    next.history = w.history ∨ ∃ event, next.history = w.history ++ [event] ∧ Brings w event := by
  cases stepped with
  | looked idle => exact .inr ⟨_, rfl, idle, rfl, rfl⟩
  | asked due => exact .inr ⟨_, rfl, due, rfl⟩
  | wrote update => exact .inr ⟨_, rfl, trivial⟩
  | silent => exact .inl rfl

theorem eventBrought (moves : List Move) {front after : List Event} {event : Event}
    (same : (Watch.run moves).history = front ++ event :: after) :
    ∃ w, Standing w ∧ w.history = front ∧ Brings w event := by
  induction moves using List.reverseRecOn generalizing after with
  | nil => simp [Watch.run, Watch.fresh] at same
  | append_singleton moves move ih =>
    rw [Watch.runSnoc] at same
    obtain still | ⟨last, grown, brings⟩ := steppedHistory (stepCases (Watch.run moves) move)
    · exact ih (still ▸ same)
    · obtain ⟨_, earlier, rfl⟩ | ⟨after, _, earlier⟩ := snocAtEvent (grown.symm.trans same)
      · exact ⟨_, runStanding moves, earlier, brings⟩
      · exact ih earlier

def Asks (events : List Event) : Prop :=
  ∃ (writes : List Update) (accepted : Bool) (rest : List Event),
    events = writes.map .wrote ++ .asked accepted :: rest

theorem asksSnoc {events : List Event} (asks : Asks events) (event : Event) :
    Asks (events ++ [event]) := by
  obtain ⟨writes, accepted, rest, rfl⟩ := asks
  exact ⟨writes, accepted, rest ++ [event], by rw [List.append_assoc, List.cons_append]⟩

theorem afterLook (moves : List Move) {front after : List Event} {seen : State} {told : Bool}
    (same : (Watch.run moves).history = front ++ .looked seen told :: after) :
    ((Watch.run moves).asking = true ∧ ∃ writes : List Update, after = writes.map .wrote) ∨
      Asks after := by
  induction moves using List.reverseRecOn generalizing after with
  | nil => simp [Watch.run, Watch.fresh] at same
  | append_singleton moves move ih =>
    rw [Watch.runSnoc] at same ⊢
    have stepped := stepCases (Watch.run moves) move
    generalize (Watch.run moves).step move = next at same stepped ⊢
    cases stepped with
    | looked idle =>
      obtain ⟨none, _, _⟩ | ⟨after, rfl, earlier⟩ := snocAtEvent same
      · exact .inl ⟨rfl, [], none⟩
      · obtain ⟨due, _⟩ | asks := ih earlier
        · cases idle.symm.trans due
        · exact .inr (asksSnoc asks _)
    | asked due =>
      obtain ⟨_, _, other⟩ | ⟨after, rfl, earlier⟩ := snocAtEvent same
      · cases other
      · obtain ⟨_, writes, rfl⟩ | asks := ih earlier
        · exact .inr ⟨writes, _, [], rfl⟩
        · exact .inr (asksSnoc asks _)
    | wrote update =>
      obtain ⟨_, _, other⟩ | ⟨after, rfl, earlier⟩ := snocAtEvent same
      · cases other
      · obtain ⟨due, writes, rfl⟩ | asks := ih earlier
        · exact .inl ⟨due, writes ++ [update], by rw [List.map_append, List.map_singleton]⟩
        · exact .inr (asksSnoc asks _)
    | silent => exact ih same

end NmeaReceiver.Command.Polling
