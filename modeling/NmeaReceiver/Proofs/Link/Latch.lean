import NmeaReceiver.Proofs.Link.Exposed

/-! A connection that has ended. Once a read has come to anything but a line or a timeout, and after a
connect that fails, every read is refused until a connect succeeds, whatever arrives meanwhile or is
still in the buffer. A timeout ends nothing: the read after it goes on where it stopped. -/
namespace NmeaReceiver.Link.Reception
open NmeaReceiver.Line

inductive Unconnected : Reception → List Happening → Prop where
  | nil (r : Reception) : Unconnected r []
  | failed {r : Reception} {fault : Fault} {later : List Happening}
      (refused : r.stream.connect.1 = .error fault) (next : Unconnected r.connect later) :
      Unconnected r (.connect :: later)
  | disconnect {r : Reception} {later : List Happening} (next : Unconnected r.disconnect later) :
      Unconnected r (.disconnect :: later)
  | arrival {r : Reception} (arrival : Arrival) {later : List Happening}
      (next : Unconnected (r.arrive arrival) later) : Unconnected r (.arrival arrival :: later)
  | read {r : Reception} (during : List Arrival) {later : List Happening}
      (next : Unconnected (r.read during).2 later) : Unconnected r (.read during :: later)

/-- Every read is refused and adds no line until a connect succeeds. -/
def Ended (r : Reception) : Prop :=
  ∀ later, Unconnected r later → ∀ during,
    ((r.run later).read during).1 = .refused ∧
      ((r.run later).read during).2.lines = (r.run later).lines

inductive Fatal : Outcome → Prop where
  | overflow (length : Nat) : Fatal (.overflow length)
  | failed (fault : Fault) : Fatal (.failed fault)
  | refused : Fatal .refused

structure Latched (r : Reception) : Prop where
  fatal : ∀ during, Fatal (r.read during).1 → Ended (r.read during).2
  failedConnect : ∀ fault, r.stream.connect.1 = .error fault → Ended r.connect
  timeout : ∀ first after, r.read first = (.timeout, after) →
    after.Live ∧ ∀ more, after.read more = r.read (first ++ more)

variable {limit : Nat} {cuts : List Octets} {buffer : Octets} {r : Reception}

theorem fatalStops {outcome : Outcome} (fatal : Fatal outcome) : outcome.goesOn = false := by
  cases fatal <;> rfl

theorem unconnectedDead (intact : Intact limit cuts buffer r) (dead : ¬ r.Live)
    {later : List Happening} (unconnected : Unconnected r later) : ¬ (r.run later).Live := by
  induction unconnected generalizing cuts buffer with
  | nil r => exact dead
  | failed refused next ih =>
    refine ih (connectIntact intact) (connectDead ?_)
    rw [refused]
    rfl
  | disconnect next ih => exact ih (disconnectIntact intact) (disconnectDead _)
  | arrival arrival next ih =>
    exact ih (arriveIntact intact arrival) (arrivalsDead dead [arrival])
  | read during next ih =>
    rw [deadRead intact dead during] at ih
    have dropped := disconnectIntact intact
    have stays := ih (arrivalsIntact dropped during) (arrivalsDead (disconnectDead _) during)
    rw [← congrArg Prod.snd (deadRead intact dead during)] at stays
    exact stays

theorem deadEnded (intact : Intact limit cuts buffer r) (dead : ¬ r.Live) : Ended r := by
  intro later unconnected during
  obtain ⟨_, _, next⟩ := runIntact intact later
  rw [deadRead next (unconnectedDead intact dead unconnected) during]
  exact ⟨rfl, (arrivalsLines _ during).1⟩

theorem quietBuffer {reader : Reader} (clean : 10 ∉ reader.buffer)
    (short : reader.buffer.length < reader.limit ∨ reader.buffer = []) :
    reader.fromBuffer = (.nothing, reader) := by
  unfold Reader.fromBuffer
  split
  · rfl
  · rename_i filled
    rw [List.isEmpty_iff] at filled
    have fits := short.resolve_right filled
    rw [cutNone _ clean, if_neg (Nat.not_le_of_lt fits)]
    rfl

theorem quietPoll {reader : Reader} {wire : Wire} (running : reader.stage = .running)
    (clean : 10 ∉ reader.buffer) (short : reader.buffer.length < reader.limit ∨ reader.buffer = [])
    (empty : wire.arrived = []) (goesOn : wire.ending = none) :
    reader.poll wire = (.nothing, reader, wire) := by
  have quiet := quietBuffer clean short
  obtain ⟨arrived, ending⟩ := wire
  obtain ⟨bound, buffer, stage⟩ := reader
  dsimp only at empty goesOn running
  subst empty goesOn running
  simp only [Reader.poll, quiet, List.append_nil, Reader.atEnding]

theorem timeoutAgain (intact : Intact limit cuts buffer r) (live : r.Live) {after : Reception}
    (waits : r.poll = (.timeout, after)) : after.poll = (.timeout, after) := by
  have polls := pollPolls intact live
  have kept := pollEnding r
  rw [waits] at polls kept
  cases polls with
  | timeout clean short goesOn next lives empty =>
    obtain ⟨reader, connected, running⟩ := lives
    obtain ⟨sameLimit, sameBuffer, -⟩ := next.held reader connected
    rw [← sameBuffer] at clean short
    rw [← sameLimit] at short
    have quiet := quietPoll running clean short empty (kept.trans goesOn)
    have nothing : taken after.stream.wire after.stream.wire = [] := takenParts rfl
    obtain ⟨⟨bound, meeting, reader', wire⟩, offered, returned, lines⟩ := after
    dsimp only at connected
    subst connected
    simp only [poll, Stream.read, quiet, nothing, Outcome.lines, List.append_nil]

theorem timeoutOn (intact : Intact limit cuts buffer r) (live : r.Live) {first : List Arrival}
    {after : Reception} (waits : r.read first = (.timeout, after)) (more : List Arrival) :
    after.read more = r.read (first ++ more) := by
  induction first generalizing r buffer with
  | nil =>
    have again := timeoutAgain intact live waits
    change r.poll = _ at waits
    rw [List.nil_append]
    cases more with
    | nil => exact again.trans waits.symm
    | cons arrival more => simp only [read, again, waits]
  | cons arrival first ih =>
    have polls := pollPolls intact live
    rw [List.cons_append, read]
    rw [read] at waits
    generalize r.poll = answer at polls waits ⊢
    obtain ⟨outcome, middle⟩ := answer
    cases polls with
    | timeout clean short goesOn next lives empty =>
      exact ih (arriveIntact next arrival) (arrivalsLive lives [arrival]) waits
    | line | tooLong | unfinished | ended | reset => cases waits

theorem endedUntilConnected (limit : Nat) (meeting : Meeting) (happenings : List Happening) :
    Latched ((fresh limit meeting).run happenings) := by
  obtain ⟨cuts, buffer, intact⟩ := runIntact (freshIntact limit meeting) happenings
  generalize (fresh limit meeting).run happenings = r at intact
  refine ⟨?_, ?_, ?_⟩
  · intro during fatal
    obtain ⟨_, _, next⟩ := stepIntact intact (.read during)
    exact deadEnded next (readStops intact during (fatalStops fatal))
  · intro fault refused
    have failed : r.stream.connect.1.toBool = false := refused ▸ rfl
    exact deadEnded (connectIntact intact) (connectDead failed)
  · intro first after waits
    obtain ⟨_, _, _, connected⟩ := intactTimeout intact waits
    exact ⟨⟨_, connected, rfl⟩, timeoutOn intact (liveOf intact waits (by simp)) waits⟩

end NmeaReceiver.Link.Reception
