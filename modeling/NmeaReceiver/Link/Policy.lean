/-! How patient a supervisor is. Times are in milliseconds. -/
namespace NmeaReceiver.Link

structure Policy where
  readTimeout : Nat
  timeoutThreshold : UInt32
  timeoutCooldown : Nat
  refusedCooldown : Nat
  openTimeout : Option Nat
  deriving DecidableEq, Repr

def Policy.standard : Policy := ⟨3000, 5, 5000, 10000, none⟩

/-- The usual wait after a failed attempt to open: from 50 milliseconds it grows by half each
time, up to a minute. -/
def openWait (failures : Nat) : Nat := min (50 * Nat.pow 3 failures / Nat.pow 2 failures) 60000

def Policy.triesAgain (policy : Policy) (failures : Nat) : Bool :=
  match policy.openTimeout with
  | none => true
  | some limit => openWait failures ≤ limit

-- A bound of the host's timer and not of any policy: a wait that is set longer ends after 30 years of
-- 365 days.
def longestWait : Nat := 30 * 365 * 24 * 60 * 60 * 1000

def waited (milliseconds : Nat) : Nat := min milliseconds longestWait

end NmeaReceiver.Link
