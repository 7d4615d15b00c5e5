import NmeaReceiver.Proofs.Line.Segments

/-! A stream that comes in chunks. After each chunk the buffer is cut until it gives no line; a line
that is too long ends it all. A moment is one such event and the buffer after it, and a course
tells what was cut by the segment at the front of the buffer. The lines and the overflow follow
from the segments of the whole stream; only the length reported with a line that is too long
depends on where the chunks meet. -/
namespace NmeaReceiver.Line.Chunks

inductive Event where
  | fed (chunk : Octets)
  | said (answer : Cut)
  deriving DecidableEq, Repr

structure Moment where
  event : Event
  buffer : Octets
  deriving DecidableEq, Repr

theorem lineShortens {limit : Nat} {buffer rest : Octets} {text : List Char}
    (found : cut limit buffer = (.line text, rest)) : rest.length < buffer.length := by
  obtain ⟨segment, rfl, short, clean, same⟩ := cutLine found
  simp only [List.length_append, List.length_cons]
  omega

def decode (limit : Nat) (buffer : Octets) (chunks : List Octets) : List Moment :=
  match _ : cut limit buffer with
  | (.line text, rest) => ⟨.said (.line text), rest⟩ :: decode limit rest chunks
  | (.incomplete, rest) => match chunks with
    | [] => [⟨.said .incomplete, rest⟩]
    | chunk :: more =>
      ⟨.said .incomplete, rest⟩ :: ⟨.fed chunk, rest ++ chunk⟩ :: decode limit (rest ++ chunk) more
  | (answer, rest) => [⟨.said answer, rest⟩]
termination_by (chunks.length, buffer.length)
decreasing_by
  · exact Prod.Lex.right _ (lineShortens (by assumption))
  · exact Prod.Lex.left _ _ (by simp)

def decodeChunks (limit : Nat) : List Octets → List Moment
  | [] => []
  | chunk :: more => ⟨.fed chunk, chunk⟩ :: decode limit chunk more

def Event.line? : Event → Option (List Char)
  | .said (.line text) => some text
  | _ => none

def Event.chunk : Event → Octets
  | .fed chunk => chunk
  | .said _ => []

def lines (moments : List Moment) : List (List Char) := moments.filterMap (·.event.line?)

def given (moments : List Moment) : Octets := moments.flatMap (·.event.chunk)

def bufferAfter (start : Octets) (moments : List Moment) : Octets :=
  (moments.getLast?.map (·.buffer)).getD start

def Overflows (moments : List Moment) : Prop :=
  ∃ length buffer, moments.getLast? = some ⟨.said (.tooLong length), buffer⟩

inductive Course (limit : Nat) : Octets → List Octets → List Moment → Prop where
  | line {segment rest chunks later} (clean : 10 ∉ segment) (short : segment.length < limit)
      (next : Course limit rest chunks later) :
      Course limit (segment ++ 10 :: rest) chunks (⟨.said (.line (textOf segment)), rest⟩ :: later)
  | waits {buffer} (clean : 10 ∉ buffer) (short : buffer.length < limit) :
      Course limit buffer [] [⟨.said .incomplete, buffer⟩]
  | feeds {buffer chunk more later} (clean : 10 ∉ buffer) (short : buffer.length < limit)
      (next : Course limit (buffer ++ chunk) more later) :
      Course limit buffer (chunk :: more)
        (⟨.said .incomplete, buffer⟩ :: ⟨.fed chunk, buffer ++ chunk⟩ :: later)
  | overflows {buffer chunks length segment tail} (clean : 10 ∉ segment)
      (long : limit ≤ segment.length) (begins : buffer = segment ++ tail) :
      Course limit buffer chunks [⟨.said (.tooLong length), buffer⟩]

theorem decodeCourse (limit : Nat) (buffer : Octets) (chunks : List Octets) :
    Course limit buffer chunks (decode limit buffer chunks) := by
  fun_induction decode limit buffer chunks with
  | case1 buffer chunks text rest found ih =>
    obtain ⟨segment, clean, same, short, shown⟩ := lineBegins found
    rw [same, shown]
    exact .line clean short ih
  | case2 buffer rest found =>
    obtain ⟨same, clean, short⟩ := incompleteWaits found
    rw [same]
    exact .waits clean short
  | case3 buffer rest found chunk more ih =>
    obtain ⟨same, clean, short⟩ := incompleteWaits found
    subst same
    exact .feeds clean short ih
  | case4 buffer chunks answer rest noLine complete found =>
    cases answer with
    | line text => exact absurd rfl (noLine text)
    | incomplete => exact absurd rfl complete
    | unfinished => exact absurd found (cutNeverUnfinished limit buffer rest)
    | tooLong length =>
      obtain ⟨same, segment, tail, clean, long, begins⟩ := tooLongBegins found
      rw [same]
      exact .overflows clean long begins

theorem courseSome {limit : Nat} {buffer : Octets} {chunks : List Octets} {moments : List Moment}
    (course : Course limit buffer chunks moments) : moments ≠ [] := by
  cases course <;> simp

theorem overflowsCons (moment : Moment) {later : List Moment} (some : later ≠ []) :
    Overflows (moment :: later) ↔ Overflows later := by
  cases later with
  | nil => exact absurd rfl some
  | cons next others => simp only [Overflows, List.getLast?_cons_cons]

theorem bufferAfterCons (start : Octets) (moment : Moment) (later : List Moment) :
    bufferAfter start (moment :: later) = bufferAfter moment.buffer later := by
  cases later with
  | nil => rfl
  | cons next others => simp [bufferAfter, List.getLast?_cons]

-- What stands after a long stretch makes the first segment no shorter.
theorem longBegins {limit : Nat} {segment : Octets} (clean : 10 ∉ segment)
    (long : limit ≤ segment.length) (more : Octets) (filled : segment ++ more ≠ [] ∨ 0 < limit) :
    (ended (segment ++ more)).takeWhile (·.length < limit) = [] ∧
      ∃ first ∈ segments (segment ++ more), limit ≤ first.length := by
  rcases newlineOrNone more with none | ⟨tail, rest, none, rfl⟩
  · have whole : 10 ∉ segment ++ more := by simp [clean, none]
    have some : segment ++ more ≠ [] := by
      rcases filled with some | positive
      · exact some
      · have octets : segment ≠ [] := List.ne_nil_of_length_pos (by omega)
        simp [octets]
    rw [endedNone whole, segmentsNone whole some]
    exact ⟨rfl, segment ++ more, by simp, by simp only [List.length_append]; omega⟩
  · have whole : 10 ∉ segment ++ tail := by simp [clean, none]
    have grown : limit ≤ (segment ++ tail).length := by
      simp only [List.length_append]
      omega
    rw [← List.append_assoc, endedCons whole, segmentsCons whole]
    refine ⟨?_, segment ++ tail, by simp, grown⟩
    rw [List.takeWhile_cons_of_neg]
    simpa using grown

theorem filledMore {limit : Nat} {segment tail : Octets} (filled : segment ++ tail ≠ [] ∨ 0 < limit)
    (more : Octets) : segment ++ (tail ++ more) ≠ [] ∨ 0 < limit := by
  rcases filled with some | positive
  · exact .inl (by simp_all)
  · exact .inr positive

structure Result (limit : Nat) (stream start : Octets) (moments : List Moment) : Prop where
  delivered : lines moments = ((ended stream).takeWhile (·.length < limit)).map textOf
  overflows : Overflows moments ↔ ∃ segment ∈ segments stream, limit ≤ segment.length
  left : ¬ Overflows moments → bufferAfter start moments = unended stream

theorem courseResult {limit : Nat} {buffer : Octets} {chunks : List Octets} {moments : List Moment}
    (course : Course limit buffer chunks moments) (each : ∀ chunk ∈ chunks, chunk ≠ [])
    (filled : buffer ≠ [] ∨ 0 < limit) :
    Result limit (buffer ++ chunks.flatten) buffer moments := by
  induction course with
  | @line segment rest chunks later clean short next ih =>
    obtain ⟨delivered, overflows, left⟩ := ih each (.inr (by omega))
    rw [List.append_assoc, List.cons_append]
    refine ⟨?_, ?_, ?_⟩
    · rw [endedCons clean, List.takeWhile_cons_of_pos (by simpa using short), List.map_cons,
        ← delivered]
      rfl
    · have fits : ¬ limit ≤ segment.length := by omega
      rw [overflowsCons _ (courseSome next), overflows, segmentsCons clean]
      simp [fits]
    · rw [overflowsCons _ (courseSome next), bufferAfterCons, unendedCons clean]
      exact left
  | @waits buffer clean short =>
    rw [List.flatten_nil, List.append_nil]
    refine ⟨?_, ?_, ?_⟩
    · rw [endedNone clean]
      rfl
    · simp [Overflows, segments, endedNone clean, unendedNone clean, short]
    · intro _
      rw [unendedNone clean]
      rfl
  | @feeds buffer chunk more later clean short next ih =>
    have some : buffer ++ chunk ≠ [] := by simp [each chunk List.mem_cons_self]
    obtain ⟨delivered, overflows, left⟩ :=
      ih (fun other member => each other (List.mem_cons_of_mem _ member)) (.inl some)
    rw [List.flatten_cons, ← List.append_assoc]
    refine ⟨delivered, ?_, ?_⟩
    · rw [overflowsCons _ (by simp), overflowsCons _ (courseSome next), overflows]
    · rw [overflowsCons _ (by simp), overflowsCons _ (courseSome next), bufferAfterCons,
        bufferAfterCons]
      exact left
  | @overflows buffer chunks length segment tail clean long begins =>
    subst begins
    obtain ⟨none, first⟩ := longBegins clean long _ (filledMore filled chunks.flatten)
    have ends : Overflows [⟨.said (.tooLong length), segment ++ tail⟩] := ⟨length, _, rfl⟩
    rw [List.append_assoc]
    refine ⟨?_, ?_, ?_⟩
    · rw [none]
      rfl
    · exact ⟨fun _ => first, fun _ => ends⟩
    · exact fun never => absurd ends never

structure Kept (limit : Nat) (stream start : Octets) (before : List Moment) (moment : Moment) :
    Prop where
  conserved : joined ((ended stream).take (lines (before ++ [moment])).length) ++ moment.buffer =
    start ++ given (before ++ [moment])
  untouched : ∀ answer, moment.event = .said answer → moment.event.line? = none →
    bufferAfter start before = moment.buffer
  waiting : moment.event = .said .incomplete →
    10 ∉ moment.buffer ∧ moment.buffer.length < limit

theorem keptLine {limit : Nat} {segment rest stream : Octets} (clean : 10 ∉ segment)
    {before : List Moment} {moment : Moment} (text : List Char)
    (kept : Kept limit stream rest before moment) :
    Kept limit (segment ++ 10 :: stream) (segment ++ 10 :: rest)
      (⟨.said (.line text), rest⟩ :: before) moment := by
  refine ⟨?_, ?_, kept.waiting⟩
  · have counted : (lines (⟨.said (.line text), rest⟩ :: before ++ [moment])).length =
        (lines (before ++ [moment])).length + 1 := rfl
    rw [counted, endedCons clean, List.take_succ_cons, joinedCons, List.append_assoc,
      List.cons_append, kept.conserved]
    simp [given, Event.chunk]
  · rw [bufferAfterCons]
    exact kept.untouched

theorem keptIncomplete {limit : Nat} {buffer stream : Octets} {before : List Moment}
    {moment : Moment} (kept : Kept limit stream buffer before moment) :
    Kept limit stream buffer (⟨.said .incomplete, buffer⟩ :: before) moment := by
  refine ⟨kept.conserved, ?_, kept.waiting⟩
  rw [bufferAfterCons]
  exact kept.untouched

theorem keptFed {limit : Nat} {buffer chunk stream : Octets} {before : List Moment}
    {moment : Moment} (kept : Kept limit stream (buffer ++ chunk) before moment) :
    Kept limit stream buffer (⟨.fed chunk, buffer ++ chunk⟩ :: before) moment := by
  refine ⟨?_, ?_, kept.waiting⟩
  · have same := kept.conserved
    rw [List.append_assoc] at same
    exact same
  · rw [bufferAfterCons]
    exact kept.untouched

theorem keptFirst {limit : Nat} {stream start : Octets} {moment : Moment}
    (taken : joined ((ended stream).take (lines [moment]).length) ++ moment.buffer =
      start ++ moment.event.chunk)
    (untouched : ∀ answer, moment.event = .said answer → moment.event.line? = none →
      start = moment.buffer)
    (waiting : moment.event = .said .incomplete →
      10 ∉ moment.buffer ∧ moment.buffer.length < limit) :
    Kept limit stream start [] moment := by
  refine ⟨?_, untouched, waiting⟩
  rw [List.nil_append, taken]
  simp [given]

theorem keptFedFirst (limit : Nat) (stream start chunk : Octets) :
    Kept limit stream start [] ⟨.fed chunk, start ++ chunk⟩ := by
  refine keptFirst ?_ ?_ ?_
  · simp [lines, Event.line?, joined, Event.chunk]
  · intro answer said
    cases said
  · intro said
    cases said

theorem keptWaitsFirst {limit : Nat} {buffer : Octets} (clean : 10 ∉ buffer)
    (short : buffer.length < limit) (stream : Octets) :
    Kept limit stream buffer [] ⟨.said .incomplete, buffer⟩ := by
  refine keptFirst ?_ (fun _ _ _ => rfl) (fun _ => ⟨clean, short⟩)
  simp [lines, Event.line?, joined, Event.chunk]

theorem courseKept {limit : Nat} {buffer : Octets} {chunks : List Octets} {moments : List Moment}
    (course : Course limit buffer chunks moments) {before after : List Moment} {moment : Moment}
    (parts : moments = before ++ moment :: after) :
    Kept limit (buffer ++ chunks.flatten) buffer before moment := by
  -- The moment stands first, or it stands later in what the course goes on with.
  induction course generalizing before with
  | @line segment rest chunks later clean short next ih =>
    rw [List.append_assoc, List.cons_append]
    cases before with
    | nil =>
      cases parts
      refine keptFirst ?_ ?_ ?_
      · rw [endedCons clean]
        simp [lines, Event.line?, joined, Event.chunk]
      · intro answer _ none
        cases none
      · intro said
        cases said
    | cons first others =>
      cases parts
      exact keptLine clean _ (ih rfl)
  | @waits buffer clean short =>
    cases before with
    | nil =>
      cases parts
      exact keptWaitsFirst clean short _
    | cons first others => simp at parts
  | @feeds buffer chunk more later clean short next ih =>
    cases before with
    | nil =>
      cases parts
      exact keptWaitsFirst clean short _
    | cons first others =>
      cases others with
      | nil =>
        cases parts
        exact keptIncomplete (keptFedFirst limit _ buffer chunk)
      | cons second others =>
        cases parts
        rw [List.flatten_cons, ← List.append_assoc]
        exact keptIncomplete (keptFed (ih rfl))
  | @overflows buffer chunks length segment tail clean long begins =>
    cases before with
    | nil =>
      cases parts
      refine keptFirst ?_ (fun _ _ _ => rfl) ?_
      · simp [lines, Event.line?, joined, Event.chunk]
      · intro said
        cases said
    | cons first others => simp at parts

theorem chunksResult (limit : Nat) (chunks : List Octets) (filled : ∀ chunk ∈ chunks, chunk ≠ []) :
    Result limit chunks.flatten [] (decodeChunks limit chunks) := by
  cases chunks with
  | nil =>
    refine ⟨rfl, ?_, fun _ => rfl⟩
    simp [Overflows, decodeChunks, segments, ended, unended]
  | cons chunk more =>
    have course := decodeCourse limit chunk more
    obtain ⟨delivered, overflows, left⟩ := courseResult course
      (fun other member => filled other (List.mem_cons_of_mem _ member))
      (.inl (filled chunk List.mem_cons_self))
    refine ⟨delivered, ?_, ?_⟩
    · rw [decodeChunks, overflowsCons _ (courseSome course)]
      exact overflows
    · rw [decodeChunks, overflowsCons _ (courseSome course), bufferAfterCons]
      exact left

theorem chunksKept (limit : Nat) (chunks : List Octets) {before after : List Moment}
    {moment : Moment} (parts : decodeChunks limit chunks = before ++ moment :: after) :
    Kept limit chunks.flatten [] before moment := by
  cases chunks with
  | nil => simp [decodeChunks] at parts
  | cons chunk more =>
    rw [decodeChunks] at parts
    cases before with
    | nil =>
      cases parts
      exact keptFedFirst limit _ [] chunk
    | cons first others =>
      obtain ⟨same, rest⟩ := List.cons.inj parts
      subst same
      exact keptFed (courseKept (decodeCourse limit chunk more) rest)

/-- Where the chunks meet shows in nothing but the length told with a line that is too long. -/
theorem streamInChunks (limit : Nat) (chunks : List Octets)
    (filled : ∀ chunk ∈ chunks, chunk ≠ []) :
    Result limit chunks.flatten [] (decodeChunks limit chunks) ∧
    (∀ before moment after, decodeChunks limit chunks = before ++ moment :: after →
      Kept limit chunks.flatten [] before moment) ∧
    ∀ others : List Octets, (∀ chunk ∈ others, chunk ≠ []) → others.flatten = chunks.flatten →
      lines (decodeChunks limit others) = lines (decodeChunks limit chunks) ∧
      (Overflows (decodeChunks limit others) ↔ Overflows (decodeChunks limit chunks)) := by
  have result := chunksResult limit chunks filled
  refine ⟨result, fun before moment after => chunksKept limit chunks, ?_⟩
  intro others othersFilled same
  have other := chunksResult limit others othersFilled
  rw [same] at other
  exact ⟨other.delivered.trans result.delivered.symm, other.overflows.trans result.overflows.symm⟩

theorem streamInThreeChunks :
    (∀ chunk ∈ ([[36, 65], [13, 10, 66, 66], [66, 66, 10]] : List Octets), chunk ≠ []) ∧
    lines (decodeChunks 4 [[36, 65], [13, 10, 66, 66], [66, 66, 10]]) = [['$', 'A']] ∧
    Overflows (decodeChunks 4 [[36, 65], [13, 10, 66, 66], [66, 66, 10]]) := by
  have filled :
      ∀ chunk ∈ ([[36, 65], [13, 10, 66, 66], [66, 66, 10]] : List Octets), chunk ≠ [] := by decide
  have result := (streamInChunks 4 _ filled).1
  refine ⟨filled, ?_, ?_⟩
  · rw [result.delivered]
    decide
  · rw [result.overflows]
    exact ⟨[66, 66, 66, 66], by decide, by decide⟩

example : (decodeChunks 3 [[65, 66, 67, 68, 10]]).getLast? =
    some ⟨.said (.tooLong 5), [65, 66, 67, 68, 10]⟩ := by
  cbv

example : (decodeChunks 3 [[65, 66, 67, 68], [10]]).getLast? =
    some ⟨.said (.tooLong 4), [65, 66, 67, 68]⟩ := by
  cbv

end NmeaReceiver.Line.Chunks
