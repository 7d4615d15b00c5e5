import NmeaReceiver.Link.Outcome

/-! A link that plays back a script. When the script has run out every connect succeeds and
every read waits its time out. -/
namespace NmeaReceiver.Link

structure Cue (α : Type) where
  value : α
  delay : Nat
  deriving DecidableEq, Repr

structure Script where
  reads : List (Cue Outcome)
  connects : List (Cue (Option Fault))
  deriving DecidableEq, Repr

namespace Script

def length (s : Script) : Nat := s.reads.length + s.connects.length

def connect (s : Script) : Timed (Except Fault Unit) Script :=
  match s.connects with
  | [] => ⟨.ok (), 0, s⟩
  | ⟨none, delay⟩ :: rest => ⟨.ok (), delay, { s with connects := rest }⟩
  | ⟨some fault, delay⟩ :: rest => ⟨.error fault, delay, { s with connects := rest }⟩

def read (timeout : Nat) (s : Script) : Timed Outcome Script :=
  match s.reads with
  | [] => ⟨.timeout, timeout, s⟩
  | ⟨outcome, delay⟩ :: rest => ⟨outcome, delay, { s with reads := rest }⟩

instance : Link Script := ⟨connect, id, read⟩

end Script

theorem scriptRead (timeout : Nat) {script : Script} {cue : Cue Outcome} {rest : List (Cue Outcome)}
    (reads : script.reads = cue :: rest) :
    Link.read timeout script = ⟨cue.value, cue.delay, { script with reads := rest }⟩ := by
  change Script.read timeout script = _
  simp only [Script.read, reads]

theorem scriptReadSpent (timeout : Nat) {script : Script} (reads : script.reads = []) :
    Link.read timeout script = ⟨.timeout, timeout, script⟩ := by
  change Script.read timeout script = _
  simp only [Script.read, reads]

theorem scriptConnectLink (script : Script) :
    (Link.connect script).link = { script with connects := script.connects.tail } := by
  change (Script.connect script).link = _
  obtain ⟨reads, connects⟩ := script
  rcases connects with _ | ⟨⟨_ | fault, delay⟩, rest⟩ <;> rfl

end NmeaReceiver.Link
