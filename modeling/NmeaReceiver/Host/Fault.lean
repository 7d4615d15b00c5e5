/-! What the host refuses, with its names and numbers for that. -/
namespace NmeaReceiver.Host

inductive Fault where
  | notFound
  | notDirectory
  | isDirectory
  | invalidArgument
  | notTerminal
  | nameTooLong
  | addressUnavailable
  | networkUnreachable
  | connectionReset
  | connectionRefused
  deriving DecidableEq, Repr

def Fault.name : Fault → String
  | .notFound => "No such file or directory"
  | .notDirectory => "Not a directory"
  | .isDirectory => "Is a directory"
  | .invalidArgument => "Invalid argument"
  | .notTerminal => "Not a typewriter"
  | .nameTooLong => "File name too long"
  | .addressUnavailable => "Cannot assign requested address"
  | .networkUnreachable => "Network is unreachable"
  | .connectionReset => "Connection reset by peer"
  | .connectionRefused => "Connection refused"

def Fault.number : Fault → Nat
  | .notFound => 2
  | .notDirectory => 20
  | .isDirectory => 21
  | .invalidArgument => 22
  | .notTerminal => 25
  | .nameTooLong => 36
  | .addressUnavailable => 99
  | .networkUnreachable => 101
  | .connectionReset => 104
  | .connectionRefused => 111

def Fault.numbered (fault : Fault) : String :=
  fault.name ++ " (os error " ++ toString fault.number ++ ")"

end NmeaReceiver.Host
