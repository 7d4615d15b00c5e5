import NmeaReceiver.Host.Fault
import NmeaReceiver.Line.Splitter

/-! What reading a line from a link, or connecting it, comes to. -/
namespace NmeaReceiver.Link

inductive Fault where
  | network (fault : Host.Fault)
  | device (fault : Host.Fault)
  | other (text : String)
  deriving DecidableEq, Repr

def Fault.text : Fault → String
  | .network fault => fault.numbered
  | .device fault => fault.name
  | .other text => text

inductive Outcome where
  | line (text : List Char)
  | timeout
  | overflow (length : Nat)
  | refused
  | failed (fault : Fault)
  deriving DecidableEq, Repr

-- A read that the far end refuses is told like a read without a connection.
def Outcome.ofFault : Host.Fault → Outcome
  | .connectionRefused => .refused
  | fault => .failed (.network fault)

def Outcome.message : Outcome → String
  | .line text => String.ofList text
  | .timeout => "timed out waiting for a line"
  | .overflow length => Line.overflowMessage length
  | .refused => "connection refused or closed"
  | .failed fault => fault.text

/-- A call's value, how long it took in milliseconds, and the link after it. -/
structure Timed (α σ : Type) where
  value : α
  delay : Nat
  link : σ

end NmeaReceiver.Link

namespace NmeaReceiver

class Link (σ : Type) where
  connect : σ → Link.Timed (Except Link.Fault Unit) σ
  disconnect : σ → σ
  read : Nat → σ → Link.Timed Link.Outcome σ

end NmeaReceiver
