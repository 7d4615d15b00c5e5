import NmeaReceiver.Proofs.Link.Reception

/-! Streams deliver whole lines. At every moment of a connection the lines given are the first ones
of what the stream has returned since the connect, and what a live reader answers next follows from
what has been offered: the next segment, or what the end of the wire makes of the rest. -/
namespace NmeaReceiver.Link.Reception
open NmeaReceiver.Line

/-- What a poll may answer when `left` are the segments offered and not yet given and `rest` is
what no newline has ended. -/
inductive Answers (limit : Nat) (ending : Option Ending) : List Octets → Octets → Outcome → Prop where
  | line {segment rest : Octets} {left : List Octets} (short : segment.length < limit) :
      Answers limit ending (segment :: left) rest (.line (textOf segment))
  | tooLong {segment rest : Octets} {left : List Octets} (length : Nat)
      (long : limit ≤ segment.length) : Answers limit ending (segment :: left) rest (.overflow length)
  | restTooLong {rest : Octets} (length : Nat) (long : limit ≤ rest.length)
      (seen : rest ≠ [] ∨ ending = some .closed) : Answers limit ending [] rest (.overflow length)
  | timeout {rest : Octets} (short : rest.length < limit ∨ rest = []) (goesOn : ending = none) :
      Answers limit ending [] rest .timeout
  | unfinished {rest : Octets} (short : rest.length < limit) (filled : rest ≠ [])
      (closed : ending = some .closed) :
      Answers limit ending [] rest (.failed (.other unfinishedMessage))
  | ended (positive : 0 < limit) (closed : ending = some .closed) :
      Answers limit ending [] [] .refused
  | reset {rest : Octets} (short : rest.length < limit ∨ rest = []) (broken : ending = some .reset) :
      Answers limit ending [] rest (.failed (.network .connectionReset))

variable {limit : Nat} {cuts : List Octets} {buffer : Octets} {r : Reception}

theorem offeredParts (intact : Intact limit cuts buffer r) :
    r.offered = joined cuts ++ (buffer ++ r.stream.wire.arrived) := by
  rw [intact.offered, intact.returned, List.append_assoc]

theorem linesCounted (intact : Intact limit cuts buffer r) : r.lines.length = cuts.length := by
  rw [intact.lines, List.length_map]

theorem offeredLeft (intact : Intact limit cuts buffer r) :
    ended r.offered = cuts ++ ended (buffer ++ r.stream.wire.arrived) ∧
      unended r.offered = unended (buffer ++ r.stream.wire.arrived) := by
  rw [offeredParts intact]
  exact ⟨endedJoined intact.clean _, unendedJoined intact.clean _⟩

theorem offeredRead (intact : Intact limit cuts buffer r) (clean : 10 ∉ buffer)
    (read : r.stream.wire.arrived = []) : ended r.offered = cuts ∧ unended r.offered = buffer := by
  obtain ⟨ended, unended⟩ := offeredLeft intact
  rw [read, List.append_nil] at ended unended
  rw [ended, unended, endedNone clean, unendedNone clean, List.append_nil]
  exact ⟨rfl, rfl⟩

theorem pollAnswers (intact : Intact limit cuts buffer r) (live : r.Live) :
    Answers limit r.stream.wire.ending ((ended r.offered).drop r.lines.length) (unended r.offered)
      r.poll.1 := by
  have polls := pollPolls intact live
  have offered := pollOffered r
  rw [linesCounted intact]
  generalize r.poll = answer at polls offered ⊢
  obtain ⟨outcome, after⟩ := answer
  dsimp only at polls offered ⊢
  rw [← offered]
  cases polls with
  | @line segment rest after next lives =>
    rw [(offeredLeft next).1, List.append_assoc, List.drop_left]
    exact .line (next.short segment (by simp))
  | @tooLong segment tail after length clean long seen next =>
    -- The octets that have not been read may still end the segment, or make it longer.
    obtain ⟨segments, rest⟩ := offeredLeft next
    rw [List.append_assoc] at segments rest
    rw [segments, rest, List.drop_left]
    rcases newlineOrNone (tail ++ after.stream.wire.arrived) with none | ⟨more, later, none, begins⟩
    · have whole : 10 ∉ segment ++ (tail ++ after.stream.wire.arrived) := by
        rw [List.mem_append]
        exact not_or.mpr ⟨clean, none⟩
      rw [endedNone whole, unendedNone whole]
      refine .restTooLong length ?_ ?_
      · simp only [List.length_append]
        omega
      · cases seen with
        | inl filled => exact .inl (by simp_all)
        | inr closed => exact .inr closed
    · have whole : 10 ∉ segment ++ more := by
        rw [List.mem_append]
        exact not_or.mpr ⟨clean, none⟩
      rw [begins, ← List.append_assoc, endedCons whole]
      refine .tooLong length ?_
      rw [List.length_append]
      omega
  | timeout clean short goesOn next lives empty =>
    obtain ⟨segments, rest⟩ := offeredRead next clean empty
    rw [segments, rest, List.drop_length]
    exact .timeout short goesOn
  | unfinished clean short filled closed next empty =>
    obtain ⟨segments, rest⟩ := offeredRead next clean empty
    rw [segments, rest, List.drop_length]
    exact .unfinished short filled closed
  | ended positive closed next empty =>
    obtain ⟨segments, rest⟩ := offeredRead next (by simp) empty
    rw [segments, rest, List.drop_length]
    exact .ended positive closed
  | reset clean short broken next empty =>
    obtain ⟨segments, rest⟩ := offeredRead next clean empty
    rw [segments, rest, List.drop_length]
    exact .reset short broken

theorem pollLine (intact : Intact limit cuts buffer r) (live : r.Live) {text : List Char}
    (out : r.poll.1 = .line text) :
    ∃ segment rest, text = textOf segment ∧ Intact limit (cuts ++ [segment]) rest r.poll.2 ∧
      r.poll.2.Live := by
  have polls := pollPolls intact live
  rw [out] at polls
  cases polls with
  | line next lives => exact ⟨_, _, rfl, next, lives⟩

theorem pollTimeout (intact : Intact limit cuts buffer r) (live : r.Live)
    (out : r.poll.1 = .timeout) :
    ∃ kept, 10 ∉ kept ∧ Intact limit cuts kept r.poll.2 ∧ r.poll.2.Live ∧
      r.poll.2.stream.wire.arrived = [] := by
  have polls := pollPolls intact live
  rw [out] at polls
  cases polls with
  | timeout clean short goesOn next lives empty => exact ⟨_, clean, next, lives, empty⟩

theorem deadRead (intact : Intact limit cuts buffer r) (dead : ¬ r.Live) (during : List Arrival) :
    r.read during = (.refused, during.foldl arrive r.disconnect) := by
  have refused := deadPoll intact dead
  cases during with
  | nil => exact refused
  | cons arrival during => rw [read, refused]; rfl

theorem pollIntact (intact : Intact limit cuts buffer r) :
    ∃ cuts kept, Intact limit cuts kept r.poll.2 := by
  by_cases live : r.Live
  · have polls := pollPolls intact live
    generalize r.poll = answer at polls ⊢
    obtain ⟨outcome, after⟩ := answer
    cases polls with
    | line next _ => exact ⟨_, _, next⟩
    | tooLong _ _ _ _ next => exact ⟨_, _, next⟩
    | timeout _ _ _ next _ _ => exact ⟨_, _, next⟩
    | unfinished _ _ _ _ next _ => exact ⟨_, _, next⟩
    | ended _ _ next _ => exact ⟨_, _, next⟩
    | reset _ _ _ next _ => exact ⟨_, _, next⟩
  · rw [deadPoll intact live]
    exact ⟨_, _, disconnectIntact intact⟩

theorem stepIntact (intact : Intact limit cuts buffer r) (happening : Happening) :
    ∃ cuts kept, Intact limit cuts kept (r.step happening) := by
  cases happening with
  | connect => exact ⟨_, _, connectIntact intact⟩
  | disconnect => exact ⟨_, _, disconnectIntact intact⟩
  | arrival arrival => exact ⟨_, _, arriveIntact intact arrival⟩
  | read during =>
    change ∃ cuts kept, Intact limit cuts kept (r.read during).2
    by_cases live : r.Live
    · obtain ⟨waited, later, middle, kept, parts, mid, lives, offered, answers, out⟩ :=
        readPolls intact live during
      obtain ⟨cuts, kept, next⟩ := pollIntact mid
      rw [answers]
      exact ⟨cuts, kept, arrivalsIntact next later⟩
    · rw [deadRead intact live]
      exact ⟨_, _, arrivalsIntact (disconnectIntact intact) during⟩

theorem runIntact (intact : Intact limit cuts buffer r) (happenings : List Happening) :
    ∃ cuts kept, Intact limit cuts kept (r.run happenings) := by
  induction happenings generalizing r cuts buffer with
  | nil => exact ⟨cuts, buffer, intact⟩
  | cons happening happenings ih =>
    obtain ⟨cuts, kept, next⟩ := stepIntact intact happening
    exact ih next

theorem nextLine {ending : Option Ending} {segment rest : Octets} {left : List Octets}
    {outcome : Outcome} (answers : Answers limit ending (segment :: left) rest outcome)
    (short : segment.length < limit) : outcome = .line (textOf segment) := by
  cases answers with
  | line _ => rfl
  | tooLong length long => omega

theorem nextWaits {rest : Octets} {outcome : Outcome} (answers : Answers limit none [] rest outcome)
    (short : rest.length < limit) : outcome = .timeout := by
  cases answers with
  | timeout _ _ => rfl
  | restTooLong length long _ => omega
  | unfinished _ _ closed => cases closed
  | ended _ closed => cases closed
  | reset _ broken => cases broken

def report (rest : Octets) : Outcome :=
  if rest = [] then .refused else .failed (.other unfinishedMessage)

theorem nextReports {rest : Octets} {outcome : Outcome}
    (answers : Answers limit (some .closed) [] rest outcome) (short : rest.length < limit) :
    outcome = report rest := by
  cases answers with
  | timeout _ goesOn => cases goesOn
  | restTooLong length long _ => omega
  | unfinished _ filled _ => rw [report, if_neg filled]
  | ended _ _ => rfl
  | reset _ broken => cases broken

theorem hearPieces {rest : Octets} (intact : Intact limit cuts buffer r) (live : r.Live)
    (goesOn : r.stream.wire.ending = none) (same : r.offered = joined cuts ++ rest)
    (pieces : List Octets) {tail more : Octets} (clean : 10 ∉ rest ++ pieces.flatten ++ tail)
    (short : (rest ++ pieces.flatten ++ tail).length < limit) :
    r.hear (pieces ++ [tail ++ 10 :: more]) =
      List.replicate pieces.length .timeout ++ [.line (textOf (rest ++ pieces.flatten ++ tail))] := by
  induction pieces generalizing r buffer rest with
  | nil =>
    rw [List.flatten_nil, List.append_nil] at clean short ⊢
    have next := arriveIntact intact (.octets (tail ++ 10 :: more))
    have answers := pollAnswers next live
    have offered : (r.arrive (.octets (tail ++ 10 :: more))).offered =
        joined cuts ++ ((rest ++ tail) ++ 10 :: more) := by
      change r.offered ++ _ = _
      rw [same, List.append_assoc, List.append_assoc]
    rw [offered, endedJoined intact.clean, endedCons clean, linesCounted next, List.drop_left] at answers
    simp only [List.nil_append, hear, nextLine answers short, List.length_nil, List.replicate_zero]
  | cons piece pieces ih =>
    rw [List.flatten_cons, ← List.append_assoc] at clean short ⊢
    have next := arriveIntact intact (.octets piece)
    have offered : (r.arrive (.octets piece)).offered = joined cuts ++ (rest ++ piece) := by
      change r.offered ++ piece = _
      rw [same, List.append_assoc]
    have none : 10 ∉ rest ++ piece := fun member =>
      clean (List.mem_append_left _ (List.mem_append_left _ member))
    have fits : (rest ++ piece).length < limit := by
      simp only [List.length_append] at short ⊢
      omega
    have answers := pollAnswers next live
    rw [offered, endedJoined intact.clean, unendedJoined intact.clean, endedNone none,
      unendedNone none, linesCounted next, List.append_nil, List.drop_length,
      show (r.arrive (.octets piece)).stream.wire.ending = _ from goesOn] at answers
    have waits := nextWaits answers fits
    obtain ⟨kept, _, after, lives, _⟩ := pollTimeout next live waits
    have later := ih after lives ((pollEnding _).trans goesOn) ((pollOffered _).trans offered) clean short
    rw [List.cons_append, hear, waits, later]
    rfl

theorem readsLeft {left : List Octets} {rest : Octets} (intact : Intact limit cuts buffer r)
    (live : r.Live) (closed : r.stream.wire.ending = some .closed)
    (segments : ended r.offered = cuts ++ left) (same : unended r.offered = rest)
    (short : ∀ segment ∈ left ++ [rest], segment.length < limit) :
    r.reads (left.length + 1) = left.map (fun segment => .line (textOf segment)) ++ [report rest] := by
  have answers := pollAnswers intact live
  rw [segments, same, closed, linesCounted intact, List.drop_left] at answers
  induction left generalizing r cuts buffer with
  | nil =>
    have last := nextReports answers (short rest (by simp))
    simp only [List.length_nil, reads, last, List.map_nil, List.nil_append]
  | cons segment left ih =>
    have line := nextLine answers (short segment (by simp))
    obtain ⟨found, kept, _, after, lives⟩ := pollLine intact live line
    have offered := pollOffered r
    have begins : ended r.poll.2.offered = cuts ++ segment :: left := by rw [offered, segments]
    have first : found = segment := by
      rw [(offeredLeft after).1, List.append_assoc] at begins
      exact (List.cons.inj (List.append_cancel_left begins)).1
    subst first
    have ending := (pollEnding r).trans closed
    have grown : ended r.poll.2.offered = (cuts ++ [found]) ++ left := by
      rw [begins, List.append_assoc]
      rfl
    have next := pollAnswers after lives
    rw [grown, offered, same, ending, linesCounted after, List.drop_left] at next
    have later := ih after lives ending grown (by rw [offered, same])
      (fun other member => short other (List.mem_cons_of_mem _ member)) next
    rw [List.length_cons, reads, line, later]
    rfl

structure Faithful (limit : Nat) (r : Reception) : Prop where
  inOrder : r.lines <+: ((ended r.returned).takeWhile (·.length < limit)).map textOf
  offered : r.offered = r.returned ++ r.stream.wire.arrived
  anew : r.connect.lines = [] ∧ r.connect.returned = [] ∧
    r.connect.offered = match r.stream.meeting with
      | .greeted octets => octets
      | _ => r.offered.drop r.returned.length
  forgets : ∀ reader, ({ r with stream := { r.stream with reader := reader } } : Reception).connect =
    r.connect
  opened : r.stream.connect.1 = .ok () → r.connect.Live
  answers : r.Live → Answers limit r.stream.wire.ending ((ended r.offered).drop r.lines.length)
    (unended r.offered) (r.read []).1
  goesOn : ∀ during text after, r.read during = (.line text, after) →
    after.Live ∧ after.lines = r.lines ++ [text]
  timeout : ∀ during after, r.read during = (.timeout, after) →
    after.lines = r.lines ∧ after.offered = r.offered ++ during.flatMap Arrival.sent ∧
    after.lines = (ended after.offered).map textOf ∧
    after.stream.reader = some ⟨limit, unended after.offered, .running⟩
  whole : r.Live → r.stream.wire.ending = none → r.lines.length = (ended r.offered).length →
    ∀ (pieces : List Octets) (tail more : Octets),
      10 ∉ unended r.offered ++ pieces.flatten ++ tail →
      (unended r.offered ++ pieces.flatten ++ tail).length < limit →
      r.hear (pieces ++ [tail ++ 10 :: more]) = List.replicate pieces.length .timeout ++
        [.line (textOf (unended r.offered ++ pieces.flatten ++ tail))]
  complete : r.Live → ∀ during outcome after, r.read during = (outcome, after) →
    outcome = .refused ∨ outcome = .failed (.other unfinishedMessage) →
    (∃ waited, waited <+: during ∧
      after.returned = r.offered ++ waited.flatMap Arrival.sent) ∧
    after.lines = r.lines ∧ after.lines = (ended after.returned).map textOf ∧
    outcome = report (unended after.returned)
  drained : r.Live → r.stream.wire.ending = some .closed →
    (∀ segment ∈ r.offered.splitOn 10, segment.length < limit) →
    let left := (ended r.offered).drop r.lines.length
    r.reads (left.length + 1) =
      left.map (fun segment => .line (textOf segment)) ++ [report (unended r.offered)]

theorem arrivalsLines (r : Reception) (arrivals : List Arrival) :
    (arrivals.foldl arrive r).lines = r.lines ∧ (arrivals.foldl arrive r).returned = r.returned := by
  induction arrivals generalizing r with
  | nil => exact ⟨rfl, rfl⟩
  | cons arrival arrivals ih =>
    obtain ⟨lines, returned⟩ := arriveLines r arrival
    obtain ⟨later, laterReturned⟩ := ih (r.arrive arrival)
    exact ⟨later.trans lines, laterReturned.trans returned⟩

theorem liveOf (intact : Intact limit cuts buffer r) {during : List Arrival} {outcome : Outcome}
    {after : Reception} (out : r.read during = (outcome, after)) (other : outcome ≠ .refused) :
    r.Live := by
  by_contra dead
  rw [deadRead intact dead] at out
  exact other (congrArg Prod.fst out).symm

theorem intactInOrder (intact : Intact limit cuts buffer r) :
    r.lines <+: ((ended r.returned).takeWhile (·.length < limit)).map textOf := by
  have short : ∀ segment ∈ cuts, decide (segment.length < limit) = true := by
    intro segment member
    exact decide_eq_true (intact.short segment member)
  rw [intact.returned, endedJoined intact.clean, List.takeWhile_append_of_pos short, List.map_append,
    intact.lines]
  exact List.prefix_append _ _

theorem intactTimeout (intact : Intact limit cuts buffer r) {during : List Arrival}
    {after : Reception} (out : r.read during = (.timeout, after)) :
    after.lines = r.lines ∧ after.offered = r.offered ++ during.flatMap Arrival.sent ∧
    after.lines = (ended after.offered).map textOf ∧
    after.stream.reader = some ⟨limit, unended after.offered, .running⟩ := by
  obtain ⟨waited, later, middle, kept, parts, mid, live, offered, answers, last⟩ :=
    readPolls intact (liveOf intact out (by simp)) during
  obtain ⟨waits, same⟩ := Prod.mk.inj (answers.symm.trans out)
  obtain rfl := last waits
  obtain ⟨rest, clean, next, ⟨reader, connected, running⟩, empty⟩ := pollTimeout mid live waits
  obtain ⟨sameLimit, sameBuffer, _⟩ := next.held reader connected
  obtain ⟨segments, left⟩ := offeredRead next clean empty
  rw [List.foldl_nil] at same
  subst same
  rw [List.append_nil] at parts
  subst parts
  refine ⟨by rw [next.lines, intact.lines], offered, by rw [segments, next.lines], ?_⟩
  rw [connected, left, ← sameLimit, ← sameBuffer, ← running]

theorem intactComplete (intact : Intact limit cuts buffer r) (live : r.Live) {during : List Arrival}
    {outcome : Outcome} {after : Reception} (out : r.read during = (outcome, after))
    (last : outcome = .refused ∨ outcome = .failed (.other unfinishedMessage)) :
    (∃ waited, waited <+: during ∧ after.returned = r.offered ++ waited.flatMap Arrival.sent) ∧
    after.lines = r.lines ∧ after.lines = (ended after.returned).map textOf ∧
    outcome = report (unended after.returned) := by
  obtain ⟨waited, later, middle, kept, parts, mid, lives, offered, answers, _⟩ :=
    readPolls intact live during
  obtain ⟨told, same⟩ := Prod.mk.inj (answers.symm.trans out)
  obtain ⟨lines, returned⟩ := arrivalsLines middle.poll.2 later
  rw [same] at lines returned
  have polls := pollPolls mid lives
  rw [told] at polls
  have settled {rest : Octets} (clean : 10 ∉ rest) (next : Intact limit cuts rest middle.poll.2)
      (empty : middle.poll.2.stream.wire.arrived = []) :
      (∃ waited, waited <+: during ∧ after.returned = r.offered ++ waited.flatMap Arrival.sent) ∧
      after.lines = r.lines ∧ after.lines = (ended after.returned).map textOf ∧
      unended after.returned = rest := by
    have whole : middle.poll.2.returned = middle.offered := by
      rw [← pollOffered middle, next.offered, empty, List.append_nil]
    obtain ⟨segments, left⟩ := offeredRead next clean empty
    rw [lines, returned, whole, ← pollOffered middle, segments, left, next.lines, intact.lines]
    refine ⟨⟨waited, parts ▸ List.prefix_append _ _, ?_⟩, rfl, rfl, rfl⟩
    rw [pollOffered, offered]
  rcases last with rfl | rfl
  · cases polls with
    | ended positive closed next empty =>
      obtain ⟨all, told, complete, rest⟩ := settled (by simp) next empty
      exact ⟨all, told, complete, by rw [rest]; rfl⟩
  · cases polls with
    | unfinished clean short filled closed next empty =>
      obtain ⟨all, told, complete, rest⟩ := settled clean next empty
      exact ⟨all, told, complete, by rw [rest, report, if_neg filled]⟩

theorem intactFaithful (intact : Intact limit cuts buffer r) : Faithful limit r where
  inOrder := intactInOrder intact
  offered := intact.offered
  anew := by
    have dropped : r.offered.drop r.returned.length = r.stream.wire.arrived := by
      rw [intact.offered, List.drop_left]
    refine ⟨rfl, rfl, ?_⟩
    rw [dropped]
    unfold connect Stream.connect
    cases r.stream.meeting <;> rfl
  forgets reader := by
    unfold connect Stream.connect
    cases r.stream.meeting <;> rfl
  opened := connectLive
  answers := pollAnswers intact
  goesOn during text after out := by
    obtain ⟨waited, later, middle, kept, parts, mid, live, offered, answers, _⟩ :=
      readPolls intact (liveOf intact out (by simp)) during
    obtain ⟨told, same⟩ := Prod.mk.inj (answers.symm.trans out)
    obtain ⟨segment, rest, shown, next, lives⟩ := pollLine mid live told
    obtain ⟨lines, _⟩ := arrivalsLines middle.poll.2 later
    subst same
    refine ⟨arrivalsLive lives later, ?_⟩
    rw [lines, next.lines, intact.lines, shown]
    simp
  timeout during after out := intactTimeout intact out
  whole live goesOn all pieces tail more clean short := by
    have parts := (joinedEnded r.offered).symm
    obtain ⟨segments, left⟩ := offeredLeft intact
    have same : ended r.offered = cuts := by
      rw [linesCounted intact, segments, List.length_append] at all
      have none := List.length_eq_zero_iff.mp (Nat.left_eq_add.mp all)
      rw [segments, none, List.append_nil]
    rw [same] at parts
    exact hearPieces intact live goesOn parts pieces clean short
  complete live during outcome after out last := intactComplete intact live out last
  drained live closed short := by
    obtain ⟨segments, rest⟩ := offeredLeft intact
    intro left
    have begins : ended r.offered = cuts ++ left := by
      have ahead : left = ended (buffer ++ r.stream.wire.arrived) := by
        change (ended r.offered).drop r.lines.length = _
        rw [linesCounted intact, segments, List.drop_left]
      rw [ahead, segments]
    refine readsLeft intact live closed begins rfl ?_
    intro segment member
    refine short segment ?_
    rw [splitEnded, begins, List.append_assoc]
    exact List.mem_append_right cuts member

theorem streamsAreFaithful (limit : Nat) (meeting : Meeting) (happenings : List Happening) :
    Faithful limit ((fresh limit meeting).run happenings) := by
  obtain ⟨cuts, buffer, intact⟩ := runIntact (freshIntact limit meeting) happenings
  exact intactFaithful intact

example : ((fresh 82 .standing).run [.connect, .read [.octets [36, 71], .octets [80, 13, 10, 36]],
    .connect, .read [.octets [66], .octets [10]]]).lines = [['B']] := by
  cbv

end NmeaReceiver.Link.Reception
