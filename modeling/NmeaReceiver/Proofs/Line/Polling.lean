import NmeaReceiver.Line.Reader
import NmeaReceiver.Proofs.Line.Segments

/-! All that a reader can say when it is polled. What it holds is its buffer with the octets that
the poll takes off the wire. It takes them only if the buffer alone gives no answer, and it looks at
the end of the wire only if the octets taken give none either. -/
namespace NmeaReceiver.Line

inductive Looked (r : Reader) : Answer × Reader → Prop where
  | line {segment rest : Octets} (clean : 10 ∉ segment) (short : segment.length < r.limit)
      (begins : r.buffer = segment ++ 10 :: rest) :
      Looked r (.line (textOf segment), { r with buffer := rest })
  | tooLong {segment tail : Octets} (length : Nat) (clean : 10 ∉ segment)
      (long : r.limit ≤ segment.length) (begins : r.buffer = segment ++ tail)
      (filled : r.buffer ≠ []) :
      Looked r (.tooLong length, { r with stage := .failed })
  | nothing (clean : 10 ∉ r.buffer) (short : r.buffer.length < r.limit ∨ r.buffer = []) :
      Looked r (.nothing, r)

theorem fromBufferLooked (r : Reader) : Looked r r.fromBuffer := by
  by_cases empty : r.buffer = []
  · have silent : r.fromBuffer = (.nothing, r) := by simp [Reader.fromBuffer, empty]
    rw [silent]
    exact .nothing (by simp [empty]) (.inr empty)
  · have looks : r.fromBuffer = r.answer (cut r.limit r.buffer) := by
      simp [Reader.fromBuffer, empty]
    rw [looks]
    rcases newlineOrNone r.buffer with clean | ⟨segment, rest, clean, begins⟩
    · rw [cutNone r.limit clean]
      split
      · rename_i long
        exact .tooLong _ clean long (List.append_nil _).symm empty
      · rename_i short
        exact .nothing clean (.inl (Nat.lt_of_not_le short))
    · rw [begins, cutCons r.limit clean]
      split
      · rename_i short
        exact .line clean short begins
      · rename_i long
        exact .tooLong _ clean (Nat.le_of_not_lt long) begins empty

/-- What a running reader says that holds `held` while `unread` is left on the wire, what it keeps
of it and at which stage it then is. -/
inductive Says (limit : Nat) (ending : Option Ending) :
    Octets → Octets → Answer → Octets → Stage → Prop where
  | line {segment rest unread : Octets} (clean : 10 ∉ segment) (short : segment.length < limit) :
      Says limit ending (segment ++ 10 :: rest) unread (.line (textOf segment)) rest .running
  | tooLong {segment tail unread : Octets} (length : Nat) (clean : 10 ∉ segment)
      (long : limit ≤ segment.length) (seen : segment ++ tail ≠ [] ∨ ending = some .closed) :
      Says limit ending (segment ++ tail) unread (.tooLong length) (segment ++ tail) .failed
  | nothing {held : Octets} (clean : 10 ∉ held) (short : held.length < limit ∨ held = [])
      (goesOn : ending = none) : Says limit ending held [] .nothing held .running
  | unfinished {held : Octets} (clean : 10 ∉ held) (short : held.length < limit)
      (filled : held ≠ []) (closed : ending = some .closed) :
      Says limit ending held [] .unfinished held .failed
  | ended (positive : 0 < limit) (closed : ending = some .closed) :
      Says limit ending [] [] .ended [] .draining
  | reset {held : Octets} (clean : 10 ∉ held) (short : held.length < limit ∨ held = [])
      (broken : ending = some .reset) : Says limit ending held [] .reset held .failed

structure Polled (r : Reader) (wire : Wire) (taken : Octets) (said : Answer) (after : Reader)
    (left : Wire) : Prop where
  parts : wire.arrived = taken ++ left.arrived
  ending : left.ending = wire.ending
  limit : after.limit = r.limit
  speaks : Says r.limit wire.ending (r.buffer ++ taken) left.arrived said after.buffer after.stage

theorem atEndingSays {r : Reader} (running : r.stage = .running) (clean : 10 ∉ r.buffer)
    (short : r.buffer.length < r.limit ∨ r.buffer = []) (ending : Option Ending) :
    (r.atEnding ending).2.limit = r.limit ∧
      Says r.limit ending r.buffer [] (r.atEnding ending).1 (r.atEnding ending).2.buffer
        (r.atEnding ending).2.stage := by
  match ending with
  | none => exact ⟨rfl, running ▸ .nothing clean short rfl⟩
  | some .reset => exact ⟨rfl, .reset clean short rfl⟩
  | some .closed =>
    simp only [Reader.atEnding, Reader.drain, cutAtEnd, cutNone r.limit clean]
    by_cases fits : r.buffer.length < r.limit
    · rw [if_neg (Nat.not_le_of_lt fits)]
      by_cases empty : r.buffer = []
      · have positive : 0 < r.limit := by simpa [empty] using fits
        simp only [empty, List.isEmpty_nil, if_true, Reader.answer]
        exact ⟨trivial, .ended positive rfl⟩
      · have filled : r.buffer.isEmpty = false := by simpa using empty
        simp only [filled, Bool.false_eq_true, if_false, Reader.answer]
        exact ⟨trivial, .unfinished clean fits empty rfl⟩
    · have speaks : Says r.limit _ (r.buffer ++ []) [] _ _ _ :=
        .tooLong r.buffer.length clean (Nat.le_of_not_lt fits) (.inr rfl)
      rw [List.append_nil] at speaks
      rw [if_pos (Nat.le_of_not_lt fits)]
      exact ⟨rfl, speaks⟩

theorem pollPolled {r : Reader} (running : r.stage = .running) (wire : Wire) :
    ∃ taken, Polled r wire taken (r.poll wire).1 (r.poll wire).2.1 (r.poll wire).2.2 := by
  unfold Reader.poll
  rw [running]
  dsimp only
  generalize first : r.fromBuffer = looked
  cases first ▸ fromBufferLooked r with
  | line clean short begins =>
    refine ⟨[], rfl, rfl, rfl, ?_⟩
    rw [List.append_nil, begins, running]
    exact .line clean short
  | tooLong length clean long begins filled =>
    refine ⟨[], rfl, rfl, rfl, ?_⟩
    rw [List.append_nil]
    simp only [begins]
    exact .tooLong length clean long (.inl (begins ▸ filled))
  | nothing clean short =>
    dsimp only
    generalize second : ({ r with buffer := r.buffer ++ wire.arrived } : Reader).fromBuffer = more
    cases second ▸ fromBufferLooked { r with buffer := r.buffer ++ wire.arrived } with
    | line clean short begins =>
      refine ⟨wire.arrived, (List.append_nil _).symm, rfl, rfl, ?_⟩
      rw [show r.buffer ++ wire.arrived = _ from begins, running]
      exact .line clean short
    | tooLong length clean long begins filled =>
      refine ⟨wire.arrived, (List.append_nil _).symm, rfl, rfl, ?_⟩
      simp only [show r.buffer ++ wire.arrived = _ from begins]
      exact .tooLong length clean long (.inl (begins ▸ filled))
    | nothing clean short =>
      obtain ⟨limit, speaks⟩ := atEndingSays (r := { r with buffer := r.buffer ++ wire.arrived })
        running clean short wire.ending
      exact ⟨wire.arrived, (List.append_nil _).symm, rfl, limit, speaks⟩

theorem readerEnding (r : Reader) (wire : Wire) : (r.poll wire).2.2.ending = wire.ending := by
  unfold Reader.poll
  cases r.stage with
  | failed => rfl
  | draining => rfl
  | running =>
    dsimp only
    split
    · split <;> rfl
    · rfl

end NmeaReceiver.Line
