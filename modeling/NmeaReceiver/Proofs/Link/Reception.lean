import NmeaReceiver.Link.Stream
import NmeaReceiver.Proofs.Line.Polling

/-! What a stream delivers. A reception keeps, beside the stream, what the far end has offered since
the last connect, what the stream has returned of it and the lines that reads have given. A read
polls the reader until it answers; what arrives while it waits is seen by the next poll, and a read
that nothing ends times out. -/
namespace NmeaReceiver.Link
open NmeaReceiver.Line

-- Octets arrive when the stream is ready to return them, in portions of any size.
inductive Arrival where
  | octets (sent : Octets)
  | ending (how : Ending)
  | unplugged
  | meeting (next : Meeting)

def Arrival.sent : Arrival → Octets
  | .octets sent => sent
  | _ => []

inductive Happening where
  | connect
  | disconnect
  | arrival (arrival : Arrival)
  | read (during : List Arrival)

structure Reception where
  stream : Stream
  offered : Octets
  returned : Octets
  lines : List (List Char)

def Outcome.lines : Outcome → List (List Char)
  | .line text => [text]
  | _ => []

namespace Reception

def fresh (limit : Nat) (meeting : Meeting) : Reception := ⟨.fresh limit meeting, [], [], []⟩

def connect (r : Reception) : Reception :=
  let stream := r.stream.connect.2
  ⟨stream, stream.wire.arrived, [], []⟩

def disconnect (r : Reception) : Reception := { r with stream := r.stream.disconnect }

-- A device that goes takes back what nobody has read.
def arrive (r : Reception) : Arrival → Reception
  | .octets sent => { r with stream := r.stream.receive sent, offered := r.offered ++ sent }
  | .ending how => { r with stream := r.stream.finish how }
  | .unplugged => { r with stream := r.stream.unplug, offered := r.returned }
  | .meeting next => { r with stream := { r.stream with meeting := next } }

def taken (before after : Wire) : Octets :=
  before.arrived.take (before.arrived.length - after.arrived.length)

def poll (r : Reception) : Outcome × Reception :=
  let (outcome, stream) := r.stream.read
  (outcome, ⟨stream, r.offered, r.returned ++ taken r.stream.wire stream.wire,
    r.lines ++ outcome.lines⟩)

def read (r : Reception) : List Arrival → Outcome × Reception
  | [] => r.poll
  | arrival :: later => match r.poll with
    | (.timeout, after) => (after.arrive arrival).read later
    | (outcome, after) => (outcome, later.foldl arrive (after.arrive arrival))

def step (r : Reception) : Happening → Reception
  | .connect => r.connect
  | .disconnect => r.disconnect
  | .arrival arrival => r.arrive arrival
  | .read during => (r.read during).2

def run (r : Reception) (happenings : List Happening) : Reception := happenings.foldl step r

def reads (r : Reception) : Nat → List Outcome
  | 0 => []
  | n + 1 => r.poll.1 :: r.poll.2.reads n

def hear (r : Reception) : List Octets → List Outcome
  | [] => []
  | piece :: pieces =>
    (r.arrive (.octets piece)).poll.1 :: (r.arrive (.octets piece)).poll.2.hear pieces

def Live (r : Reception) : Prop := ∃ reader, r.stream.reader = some reader ∧ reader.stage = .running

def Holds (limit : Nat) (held : Octets) (connected : Option Reader) : Prop :=
  ∀ reader, connected = some reader →
    reader.limit = limit ∧ reader.buffer = held ∧ reader.stage ≠ .draining

structure Intact (limit : Nat) (cuts : List Octets) (buffer : Octets) (r : Reception) : Prop where
  bound : r.stream.limit = limit
  offered : r.offered = r.returned ++ r.stream.wire.arrived
  returned : r.returned = joined cuts ++ buffer
  clean : ∀ segment ∈ cuts, 10 ∉ segment
  short : ∀ segment ∈ cuts, segment.length < limit
  lines : r.lines = cuts.map textOf
  held : Holds limit buffer r.stream.reader

inductive Polls (limit : Nat) (cuts : List Octets) (ending : Option Ending) :
    Outcome → Reception → Prop where
  | line {segment rest : Octets} {after : Reception}
      (intact : Intact limit (cuts ++ [segment]) rest after) (live : after.Live) :
      Polls limit cuts ending (.line (textOf segment)) after
  | tooLong {segment tail : Octets} {after : Reception} (length : Nat) (clean : 10 ∉ segment)
      (long : limit ≤ segment.length) (seen : segment ++ tail ≠ [] ∨ ending = some .closed)
      (intact : Intact limit cuts (segment ++ tail) after) :
      Polls limit cuts ending (.overflow length) after
  | timeout {buffer : Octets} {after : Reception} (clean : 10 ∉ buffer)
      (short : buffer.length < limit ∨ buffer = []) (goesOn : ending = none)
      (intact : Intact limit cuts buffer after) (live : after.Live)
      (read : after.stream.wire.arrived = []) : Polls limit cuts ending .timeout after
  | unfinished {buffer : Octets} {after : Reception} (clean : 10 ∉ buffer)
      (short : buffer.length < limit) (filled : buffer ≠ []) (closed : ending = some .closed)
      (intact : Intact limit cuts buffer after) (read : after.stream.wire.arrived = []) :
      Polls limit cuts ending (.failed (.other unfinishedMessage)) after
  | ended {after : Reception} (positive : 0 < limit) (closed : ending = some .closed)
      (intact : Intact limit cuts [] after) (read : after.stream.wire.arrived = []) :
      Polls limit cuts ending .refused after
  | reset {buffer : Octets} {after : Reception} (clean : 10 ∉ buffer)
      (short : buffer.length < limit ∨ buffer = []) (broken : ending = some .reset)
      (intact : Intact limit cuts buffer after) (read : after.stream.wire.arrived = []) :
      Polls limit cuts ending (.failed (.network .connectionReset)) after

variable {limit : Nat} {cuts : List Octets} {buffer : Octets} {r : Reception}

theorem holdsReader {limitAfter : Nat} {stage : Stage} (bound : limitAfter = limit)
    (steady : stage ≠ .draining) : Holds limit buffer (some ⟨limitAfter, buffer, stage⟩) := by
  intro reader same
  cases same
  exact ⟨bound, rfl, steady⟩

theorem holdsNone : Holds limit buffer none := by
  intro reader same
  cases same

theorem takenParts {before after : Wire} {parts : Octets}
    (split : before.arrived = parts ++ after.arrived) : taken before after = parts := by
  simp [taken, split]

theorem grownIntact (intact : Intact limit cuts buffer r) {stream : Stream} {more : List Octets}
    {parts held : Octets} (bound : stream.limit = limit)
    (split : r.stream.wire.arrived = parts ++ stream.wire.arrived)
    (same : buffer ++ parts = joined more ++ held) (clean : ∀ segment ∈ more, 10 ∉ segment)
    (short : ∀ segment ∈ more, segment.length < limit)
    (holds : Holds limit held stream.reader) :
    Intact limit (cuts ++ more) held
      ⟨stream, r.offered, r.returned ++ taken r.stream.wire stream.wire,
        r.lines ++ more.map textOf⟩ := by
  refine ⟨bound, ?_, ?_, ?_, ?_, ?_, holds⟩
  · rw [takenParts split, intact.offered, split, List.append_assoc]
  · rw [takenParts split, intact.returned, List.append_assoc, same]
    simp [joined]
  · intro segment member
    rcases List.mem_append.mp member with old | new
    · exact intact.clean segment old
    · exact clean segment new
  · intro segment member
    rcases List.mem_append.mp member with old | new
    · exact intact.short segment old
    · exact short segment new
  · rw [intact.lines, List.map_append]

theorem heldIntact (intact : Intact limit cuts buffer r) {stream : Stream} {parts held : Octets}
    (bound : stream.limit = limit) (split : r.stream.wire.arrived = parts ++ stream.wire.arrived)
    (same : buffer ++ parts = held)
    (holds : Holds limit held stream.reader) :
    Intact limit cuts held
      ⟨stream, r.offered, r.returned ++ taken r.stream.wire stream.wire, r.lines ++ []⟩ := by
  have nothing : buffer ++ parts = joined [] ++ held := same
  have grown := grownIntact intact bound split nothing (by simp) (by simp) holds
  rw [List.append_nil] at grown
  exact grown

theorem pollPolls (intact : r.Intact limit cuts buffer) (live : r.Live) :
    Polls limit cuts r.stream.wire.ending r.poll.1 r.poll.2 := by
  obtain ⟨reader, connected, running⟩ := live
  obtain ⟨sameLimit, sameBuffer, -⟩ := intact.held reader connected
  obtain ⟨parts, split, -, limitKept, speaks⟩ := pollPolled running r.stream.wire
  simp only [poll, Stream.read, connected]
  generalize reader.poll r.stream.wire = answer at split limitKept speaks ⊢
  obtain ⟨said, ⟨limitAfter, kept, stage⟩, ⟨unread, ending⟩⟩ := answer
  dsimp only at split limitKept speaks
  rw [sameLimit] at limitKept speaks
  rw [sameBuffer] at speaks
  generalize same : buffer ++ parts = held at speaks
  cases speaks with
  | @line segment rest unread clean short =>
    have cut : buffer ++ parts = joined [segment] ++ kept := by
      rw [same]
      simp [joined]
    exact .line (grownIntact intact intact.bound split cut (by simpa using clean)
      (by simpa using short) (holdsReader limitKept (by simp))) ⟨_, rfl, rfl⟩
  | tooLong length clean long seen =>
    exact .tooLong length clean long seen
      (heldIntact intact intact.bound split same (holdsReader limitKept (by simp)))
  | nothing clean short goesOn =>
    exact .timeout clean short goesOn
      (heldIntact intact intact.bound split same (holdsReader limitKept (by simp))) ⟨_, rfl, rfl⟩ rfl
  | unfinished clean short filled closed =>
    exact .unfinished clean short filled closed
      (heldIntact intact intact.bound split same (holdsReader limitKept (by simp))) rfl
  | ended positive closed =>
    exact .ended positive closed (heldIntact intact intact.bound split same holdsNone) rfl
  | reset clean short broken =>
    exact .reset clean short broken
      (heldIntact intact intact.bound split same (holdsReader limitKept (by simp))) rfl

theorem pollOffered (r : Reception) : r.poll.2.offered = r.offered := rfl

theorem pollEnding (r : Reception) : r.poll.2.stream.wire.ending = r.stream.wire.ending := by
  change r.stream.read.2.wire.ending = r.stream.wire.ending
  unfold Stream.read
  cases connected : r.stream.reader with
  | none => rfl
  | some reader =>
    have kept := readerEnding reader r.stream.wire
    dsimp only
    generalize reader.poll r.stream.wire = answer at kept
    obtain ⟨said, after, left⟩ := answer
    cases said <;> exact kept

theorem deadPoll (intact : Intact limit cuts buffer r) (dead : ¬ r.Live) :
    r.poll = (.refused, r.disconnect) := by
  have nothing : r.returned ++ taken r.stream.wire r.stream.wire = r.returned := by simp [taken]
  cases connected : r.stream.reader with
  | none =>
    have same : r.stream.disconnect = r.stream := by
      rw [Stream.disconnect, ← connected]
    simp only [poll, Stream.readUnconnected connected, nothing, disconnect, same, Outcome.lines,
      List.append_nil]
  | some reader =>
    obtain ⟨-, -, steady⟩ := intact.held reader connected
    have failed : reader.stage = .failed := by
      cases stage : reader.stage with
      | running => exact absurd ⟨reader, connected, stage⟩ dead
      | draining => exact absurd stage steady
      | failed => rfl
    simp only [poll, Stream.read, connected, Reader.pollFailed failed, nothing, disconnect,
      Stream.disconnect, Outcome.lines, List.append_nil]

theorem freshIntact (limit : Nat) (meeting : Meeting) :
    Intact limit [] [] (fresh limit meeting) :=
  ⟨rfl, rfl, rfl, by simp, by simp, rfl, holdsNone⟩

theorem disconnectIntact (intact : Intact limit cuts buffer r) :
    Intact limit cuts buffer r.disconnect :=
  ⟨intact.bound, intact.offered, intact.returned, intact.clean, intact.short, intact.lines,
    holdsNone⟩

theorem connectIntact (intact : Intact limit cuts buffer r) : Intact limit [] [] r.connect := by
  have bound : r.stream.connect.2.limit = limit := by
    rw [← intact.bound, Stream.connect]
    cases r.stream.meeting <;> rfl
  refine ⟨bound, rfl, rfl, by simp, by simp, rfl, ?_⟩
  unfold connect Stream.connect
  cases r.stream.meeting with
  | refused fault => exact holdsNone
  | greeted octets => exact holdsReader intact.bound (by simp)
  | standing => exact holdsReader intact.bound (by simp)

theorem connectLive (opened : r.stream.connect.1 = .ok ()) : r.connect.Live := by
  unfold Live connect
  unfold Stream.connect at opened ⊢
  cases meeting : r.stream.meeting with
  | refused fault =>
    rw [meeting] at opened
    cases opened
  | greeted octets => exact ⟨_, rfl, rfl⟩
  | standing => exact ⟨_, rfl, rfl⟩

theorem arriveReader (r : Reception) (arrival : Arrival) :
    (r.arrive arrival).stream.reader = r.stream.reader := by
  cases arrival <;> rfl

theorem arriveLines (r : Reception) (arrival : Arrival) :
    (r.arrive arrival).lines = r.lines ∧ (r.arrive arrival).returned = r.returned := by
  cases arrival <;> exact ⟨rfl, rfl⟩

theorem arriveIntact (intact : Intact limit cuts buffer r) (arrival : Arrival) :
    Intact limit cuts buffer (r.arrive arrival) := by
  obtain ⟨lines, returned⟩ := arriveLines r arrival
  refine ⟨?_, ?_, returned ▸ intact.returned, intact.clean, intact.short, lines ▸ intact.lines,
    arriveReader r arrival ▸ intact.held⟩
  · cases arrival <;> exact intact.bound
  · cases arrival with
    | octets sent => simp [arrive, Stream.receive, intact.offered]
    | unplugged => simp [arrive, Stream.unplug]
    | ending how => exact intact.offered
    | meeting next => exact intact.offered

theorem arrivalsIntact (intact : Intact limit cuts buffer r) (arrivals : List Arrival) :
    Intact limit cuts buffer (arrivals.foldl arrive r) := by
  induction arrivals generalizing r with
  | nil => exact intact
  | cons arrival arrivals ih => exact ih (arriveIntact intact arrival)

theorem arrivalsLive (live : r.Live) (arrivals : List Arrival) : (arrivals.foldl arrive r).Live := by
  induction arrivals generalizing r with
  | nil => exact live
  | cons arrival arrivals ih =>
    refine ih ?_
    unfold Live
    rw [arriveReader]
    exact live

theorem arriveOffered {r : Reception} (offered : r.offered = r.returned ++ r.stream.wire.arrived)
    (read : r.stream.wire.arrived = []) (arrival : Arrival) :
    (r.arrive arrival).offered = r.offered ++ arrival.sent := by
  cases arrival with
  | octets sent => rfl
  | unplugged => simp [arrive, Arrival.sent, offered, read]
  | ending how => exact (List.append_nil _).symm
  | meeting next => exact (List.append_nil _).symm

theorem readPolls (intact : Intact limit cuts buffer r) (live : r.Live) (during : List Arrival) :
    ∃ waited later middle kept, during = waited ++ later ∧ Intact limit cuts kept middle ∧
      middle.Live ∧ middle.offered = r.offered ++ waited.flatMap Arrival.sent ∧
      r.read during = (middle.poll.1, later.foldl arrive middle.poll.2) ∧
      (middle.poll.1 = .timeout → later = []) := by
  induction during generalizing r buffer with
  | nil => exact ⟨[], [], r, buffer, rfl, intact, live, (List.append_nil _).symm, rfl, fun _ => rfl⟩
  | cons arrival during ih =>
    have polls := pollPolls intact live
    have offered := pollOffered r
    generalize polled : r.poll = answer at polls offered
    obtain ⟨outcome, after⟩ := answer
    dsimp only at polls offered
    by_cases waits : outcome = .timeout
    · subst waits
      cases polls with
      | timeout clean short goesOn next lives empty =>
        obtain ⟨waited, later, middle, kept, parts, mid, midLive, midOffered, answers, out⟩ :=
          ih (arriveIntact next arrival) (arrivalsLive lives [arrival])
        refine ⟨arrival :: waited, later, middle, kept, congrArg (arrival :: ·) parts, mid, midLive,
          ?_, ?_, out⟩
        · rw [midOffered, arriveOffered next.offered empty, offered, List.append_assoc]
          rfl
        · simp only [read, polled]
          exact answers
    · refine ⟨[], arrival :: during, r, buffer, rfl, intact, live, (List.append_nil _).symm, ?_, ?_⟩
      · simp only [read, polled]
        rfl
      · rw [polled]
        exact fun out => absurd out waits

end Reception
end NmeaReceiver.Link
