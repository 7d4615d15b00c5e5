import Mathlib.Data.List.TakeWhile
import NmeaReceiver.Line.Splitter

/-! The segments of a stream: what stands between its newlines. A buffer is cut by its first
segment alone, whatever follows the newline. -/
namespace NmeaReceiver.Line

def ended (stream : Octets) : List Octets := (stream.splitOn 10).dropLast

def unended (stream : Octets) : Octets := (stream.splitOn 10).getLastD []

def segments (stream : Octets) : List Octets :=
  ended stream ++ if unended stream = [] then [] else [unended stream]

def joined (taken : List Octets) : Octets := taken.flatMap (· ++ [10])

theorem joinedCons (segment : Octets) (taken : List Octets) :
    joined (segment :: taken) = segment ++ 10 :: joined taken := by
  simp [joined]

theorem newlineOrNone (stream : Octets) :
    10 ∉ stream ∨ ∃ segment rest, 10 ∉ segment ∧ stream = segment ++ 10 :: rest := by
  by_cases member : 10 ∈ stream
  · obtain ⟨segment, rest, same, clean⟩ := List.eq_append_cons_of_mem member
    exact .inr ⟨segment, rest, clean, same⟩
  · exact .inl member

theorem endedNone {stream : Octets} (clean : 10 ∉ stream) : ended stream = [] := by
  simp [ended, List.splitOn_eq_singleton clean]

theorem unendedNone {stream : Octets} (clean : 10 ∉ stream) : unended stream = stream := by
  simp [unended, List.splitOn_eq_singleton clean]

theorem endedCons {segment : Octets} (clean : 10 ∉ segment) (rest : Octets) :
    ended (segment ++ 10 :: rest) = segment :: ended rest := by
  unfold ended
  rw [List.splitOn_append_cons_self_of_not_mem clean,
    List.dropLast_cons_of_ne_nil (List.splitOn_ne_nil 10 rest)]

theorem unendedCons {segment : Octets} (clean : 10 ∉ segment) (rest : Octets) :
    unended (segment ++ 10 :: rest) = unended rest := by
  unfold unended
  rw [List.splitOn_append_cons_self_of_not_mem clean]
  cases pieces : rest.splitOn 10 with
  | nil => exact absurd pieces (List.splitOn_ne_nil 10 rest)
  | cons first others => rfl

theorem segmentsCons {segment : Octets} (clean : 10 ∉ segment) (rest : Octets) :
    segments (segment ++ 10 :: rest) = segment :: segments rest := by
  simp [segments, endedCons clean, unendedCons clean]

theorem segmentsNone {stream : Octets} (clean : 10 ∉ stream) (filled : stream ≠ []) :
    segments stream = [stream] := by
  simp [segments, endedNone clean, unendedNone clean, filled]

theorem streamInduction {motive : Octets → Prop} (clean : ∀ stream, 10 ∉ stream → motive stream)
    (line : ∀ segment rest, 10 ∉ segment → motive rest → motive (segment ++ 10 :: rest))
    (stream : Octets) : motive stream := by
  induction size : stream.length using Nat.strongRecOn generalizing stream with
  | ind n ih =>
    rcases newlineOrNone stream with none | ⟨segment, rest, none, rfl⟩
    · exact clean stream none
    · refine line segment rest none (ih rest.length ?_ rest rfl)
      simp only [List.length_append, List.length_cons] at size
      omega

theorem joinedEnded (stream : Octets) : joined (ended stream) ++ unended stream = stream := by
  induction stream using streamInduction with
  | clean stream clean => rw [endedNone clean, unendedNone clean]; rfl
  | line segment rest clean ih =>
    rw [endedCons clean, unendedCons clean, joinedCons, List.append_assoc, List.cons_append, ih]

theorem splitEnded (stream : Octets) : stream.splitOn 10 = ended stream ++ [unended stream] := by
  have some := List.splitOn_ne_nil 10 stream
  rw [ended, unended, List.getLastD_eq_getLast?, List.getLast?_eq_some_getLast some,
    Option.getD_some, List.dropLast_concat_getLast some]

theorem endedJoined {taken : List Octets} (clean : ∀ segment ∈ taken, 10 ∉ segment) (rest : Octets) :
    ended (joined taken ++ rest) = taken ++ ended rest := by
  induction taken with
  | nil => rfl
  | cons segment taken ih =>
    have first : 10 ∉ segment := clean segment List.mem_cons_self
    have others := ih fun other member => clean other (List.mem_cons_of_mem segment member)
    rw [joinedCons, List.append_assoc, List.cons_append, endedCons first, others, List.cons_append]

theorem endedGrows (stream more : Octets) :
    (ended stream).length ≤ (ended (stream ++ more)).length := by
  induction stream using streamInduction with
  | clean stream clean => rw [endedNone clean]; exact Nat.zero_le _
  | line segment rest clean ih =>
    rw [List.append_assoc, List.cons_append, endedCons clean, endedCons clean]
    exact Nat.succ_le_succ ih

theorem unendedJoined {taken : List Octets} (clean : ∀ segment ∈ taken, 10 ∉ segment)
    (rest : Octets) : unended (joined taken ++ rest) = unended rest := by
  induction taken with
  | nil => rfl
  | cons segment taken ih =>
    have first : 10 ∉ segment := clean segment List.mem_cons_self
    have others := ih fun other member => clean other (List.mem_cons_of_mem segment member)
    rw [joinedCons, List.append_assoc, List.cons_append, unendedCons first, others]

theorem newlineFree {segment : Octets} (clean : 10 ∉ segment) :
    ∀ octet ∈ segment, (!isNewline octet) = true := by
  intro octet member
  have other : octet ≠ 10 := by
    intro same
    exact clean (same ▸ member)
  simpa [isNewline] using other

theorem cutNone (limit : Nat) {buffer : Octets} (clean : 10 ∉ buffer) :
    cut limit buffer =
      if limit ≤ buffer.length then (.tooLong buffer.length, buffer) else (.incomplete, buffer) := by
  have none : buffer.dropWhile (!isNewline ·) = [] :=
    List.dropWhile_eq_nil_iff.mpr (newlineFree clean)
  simp [cut, none]

theorem cutCons (limit : Nat) {segment : Octets} (clean : 10 ∉ segment) (rest : Octets) :
    cut limit (segment ++ 10 :: rest) =
      if segment.length < limit then (.line (textOf segment), rest)
      else (.tooLong (segment.length + 1), segment ++ 10 :: rest) := by
  have stop : (10 :: rest).dropWhile (!isNewline ·) = 10 :: rest := rfl
  have stopTaken : (10 :: rest).takeWhile (!isNewline ·) = [] := rfl
  have dropped : (segment ++ 10 :: rest).dropWhile (!isNewline ·) = 10 :: rest := by
    rw [List.dropWhile_append_of_pos (newlineFree clean), stop]
  have taken : (segment ++ 10 :: rest).takeWhile (!isNewline ·) = segment := by
    rw [List.takeWhile_append_of_pos (newlineFree clean), stopTaken, List.append_nil]
  simp only [cut, dropped, taken]

theorem lineBegins {limit : Nat} {buffer rest : Octets} {text : List Char}
    (found : cut limit buffer = (.line text, rest)) :
    ∃ segment, 10 ∉ segment ∧ buffer = segment ++ 10 :: rest ∧ segment.length < limit ∧
      text = textOf segment := by
  obtain ⟨segment, same, short, clean, shown⟩ := cutLine found
  refine ⟨segment, ?_, same, short, shown⟩
  intro member
  have other := List.all_eq_true.mp clean 10 member
  simp [isNewline] at other

theorem incompleteWaits {limit : Nat} {buffer rest : Octets}
    (found : cut limit buffer = (.incomplete, rest)) :
    rest = buffer ∧ 10 ∉ buffer ∧ buffer.length < limit := by
  rcases newlineOrNone buffer with clean | ⟨segment, after, clean, rfl⟩
  · rw [cutNone limit clean] at found
    split at found
    · cases found
    · cases found
      exact ⟨rfl, clean, by omega⟩
  · rw [cutCons limit clean] at found
    split at found <;> cases found

theorem tooLongBegins {limit length : Nat} {buffer rest : Octets}
    (found : cut limit buffer = (.tooLong length, rest)) :
    rest = buffer ∧ ∃ segment tail, 10 ∉ segment ∧ limit ≤ segment.length ∧
      buffer = segment ++ tail := by
  rcases newlineOrNone buffer with clean | ⟨segment, after, clean, rfl⟩
  · rw [cutNone limit clean] at found
    split at found
    · rename_i long
      cases found
      exact ⟨rfl, buffer, [], clean, long, by simp⟩
    · cases found
  · rw [cutCons limit clean] at found
    split at found
    · cases found
    · cases found
      exact ⟨rfl, segment, 10 :: after, clean, by omega, rfl⟩

theorem cutNeverUnfinished (limit : Nat) (buffer rest : Octets) :
    cut limit buffer ≠ (.unfinished, rest) := by
  intro found
  rcases newlineOrNone buffer with clean | ⟨segment, after, clean, rfl⟩
  · rw [cutNone limit clean] at found
    split at found <;> cases found
  · rw [cutCons limit clean] at found
    split at found <;> cases found

end NmeaReceiver.Line
