import NmeaReceiver.Line.Reader
import NmeaReceiver.Link.Outcome

/-! A link that reads lines from a connection to a far end. A connection over a network has a
wire of its own, a device has one for all. Without a connection, and after its reader has
ended, reads are refused until the next connect. -/
namespace NmeaReceiver.Link
open NmeaReceiver.Line

inductive Meeting where
  | refused (fault : Fault)
  | greeted (octets : Octets)
  | standing
  deriving DecidableEq, Repr

structure Stream where
  limit : Nat
  meeting : Meeting
  reader : Option Reader
  wire : Wire

namespace Stream

def fresh (limit : Nat) (meeting : Meeting) : Stream := ⟨limit, meeting, none, .quiet⟩

def connect (s : Stream) : Except Fault Unit × Stream :=
  match s.meeting with
  | .refused fault => (.error fault, { s with reader := none })
  | .greeted octets => (.ok (), { s with reader := some (.fresh s.limit), wire := ⟨octets, none⟩ })
  | .standing => (.ok (), { s with reader := some (.fresh s.limit) })

def disconnect (s : Stream) : Stream := { s with reader := none }

def receive (s : Stream) (octets : Octets) : Stream :=
  { s with wire := { s.wire with arrived := s.wire.arrived ++ octets } }

def finish (s : Stream) (ending : Ending) : Stream :=
  { s with wire := { s.wire with ending := some ending } }

def unplug (s : Stream) : Stream :=
  { s with wire := ⟨[], some .closed⟩, meeting := .refused (.device .notFound) }

def read (s : Stream) : Outcome × Stream :=
  match s.reader with
  | none => (.refused, s)
  | some reader =>
    let (said, reader, wire) := reader.poll s.wire
    let after := { s with reader := some reader, wire := wire }
    match said with
    | .line text => (.line text, after)
    | .tooLong length => (.overflow length, after)
    | .unfinished => (.failed (.other unfinishedMessage), after)
    | .reset => (.ofFault .connectionReset, after)
    | .ended => (.refused, { after with reader := none })
    | .nothing => (.timeout, after)

instance : Link Stream where
  connect s := let (result, s) := s.connect; ⟨result, 0, s⟩
  disconnect := disconnect
  read timeout s := let (outcome, s) := s.read; ⟨outcome, if outcome = .timeout then timeout else 0, s⟩

theorem readUnconnected {s : Stream} (absent : s.reader = none) : s.read = (.refused, s) := by
  simp [read, absent]

end Stream
end NmeaReceiver.Link
