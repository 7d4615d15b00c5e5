import NmeaReceiver.Line.Splitter

/-! Reading lines from a wire. A reader keeps the octets it has taken until they make a line,
so a read that finds none loses nothing; after an error it has ended. -/
namespace NmeaReceiver.Line

-- The reset stands for every fault that can end a wire. A refusal is none of them: it meets a connect,
-- not a wire that stands.
inductive Ending where
  | closed
  | reset
  deriving DecidableEq, Repr

structure Wire where
  arrived : Octets
  ending : Option Ending
  deriving DecidableEq, Repr

def Wire.quiet : Wire := ⟨[], none⟩

inductive Stage where
  | running
  | draining
  | failed
  deriving DecidableEq, Repr

structure Reader where
  limit : Nat
  buffer : Octets
  stage : Stage
  deriving DecidableEq, Repr

inductive Answer where
  | line (text : List Char)
  | tooLong (length : Nat)
  | unfinished
  | reset
  | ended
  | nothing
  deriving DecidableEq, Repr

namespace Reader

def fresh (limit : Nat) : Reader := ⟨limit, [], .running⟩

def answer (r : Reader) : Cut × Octets → Answer × Reader
  | (.line text, rest) => (.line text, { r with buffer := rest })
  | (.tooLong length, _) => (.tooLong length, { r with stage := .failed })
  | (.unfinished, _) => (.unfinished, { r with stage := .failed })
  | (.incomplete, _) => (.nothing, r)

def fromBuffer (r : Reader) : Answer × Reader :=
  if r.buffer.isEmpty then (.nothing, r) else r.answer (cut r.limit r.buffer)

def drain (r : Reader) : Answer × Reader :=
  match r.answer (cutAtEnd r.limit r.buffer) with
  | (.nothing, r) => (.ended, r)
  | other => other

def atEnding (r : Reader) : Option Ending → Answer × Reader
  | none => (.nothing, r)
  | some .closed => drain { r with stage := .draining }
  | some .reset => (.reset, { r with stage := .failed })

/-- What can be said now: a line out of the buffer; else what has arrived is taken, all of it;
else the end of the wire is looked at. -/
def poll (r : Reader) (wire : Wire) : Answer × Reader × Wire :=
  match r.stage with
  | .failed => (.ended, r, wire)
  | .draining => let (said, r) := r.drain; (said, r, wire)
  | .running => match r.fromBuffer with
    | (.nothing, r) =>
      let taken := { r with buffer := r.buffer ++ wire.arrived }
      let emptied := { wire with arrived := [] }
      match taken.fromBuffer with
      | (.nothing, r) => let (said, r) := r.atEnding wire.ending; (said, r, emptied)
      | (said, r) => (said, r, emptied)
    | (said, r) => (said, r, wire)

theorem pollFailed {r : Reader} (failed : r.stage = .failed) (wire : Wire) :
    r.poll wire = (.ended, r, wire) := by
  simp [poll, failed]

end Reader
end NmeaReceiver.Line
