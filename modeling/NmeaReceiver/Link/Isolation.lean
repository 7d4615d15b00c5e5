import NmeaReceiver.Host.Address
import NmeaReceiver.Link.Outcome

/-! Connecting from a host that no network joins to others: how each way to write the other
host's name fails. -/
namespace NmeaReceiver.Link
open NmeaReceiver.Host

/-- An address of eight groups is refused for its kind before a way to it is looked for; one
within the link needs to be told which. -/
def groupFault (groups : List Nat) (linkTold : Bool) : Host.Fault :=
  match groups with
  | 0 :: 0 :: 0 :: 0 :: 0 :: 0xFFFF :: _ => .networkUnreachable
  | first :: _ =>
    if 0xFF00 ≤ first then .networkUnreachable
    else if 0xFE80 ≤ first ∧ first ≤ 0xFEBF ∧ !linkTold then .invalidArgument
    else .addressUnavailable
  | [] => .addressUnavailable

def scopedFault? (host : String) : Option Host.Fault := do
  match host.splitOn "%" with
  | [address] => return groupFault (← groupAddress? address) false
  | [address, link] =>
    if link.isEmpty || !link.toList.all Char.isDigit then none
    return groupFault (← groupAddress? address) true
  | _ => none

def lookupMessage (reason : String) : String := "failed to lookup address information: " ++ reason

def isolatedFault (host : String) : Fault :=
  if host.contains '\x00' then .other "file name contained an unexpected NUL byte"
  else if isOctetAddress host || host.toLower == "localhost" then .network .networkUnreachable
  else match scopedFault? host with
    | some fault => .network fault
    | none =>
      .other (lookupMessage
        (if isHostName host then "Temporary failure in name resolution" else "Name or service not known"))

end NmeaReceiver.Link
