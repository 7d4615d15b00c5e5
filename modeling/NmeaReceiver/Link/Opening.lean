import NmeaReceiver.Link.Script
import NmeaReceiver.Link.Supervisor
import NmeaReceiver.Sentence.Basic

/-! Opening a link: it is connected, and of its first three lines one has to be a sentence. A
failed attempt drops the connection and may be followed by another. -/
namespace NmeaReceiver
open NmeaReceiver.Link

namespace Link

inductive OpenFailure where
  | connect (fault : Fault)
  | notNmea
  | read (outcome : Outcome)
  deriving DecidableEq, Repr

def OpenFailure.message (link : String) : OpenFailure → String
  | .connect fault => "unable to connect to " ++ link ++ ": " ++ fault.text
  | .notNmea => "no NMEA sentence from " ++ link
  | .read outcome => "unable to read from " ++ link ++ ": " ++ outcome.message

def handshakeLines : Nat := 3

end Link

namespace Supervisor

variable {σ : Type} [Link σ]

def handshake : Nat → Supervisor σ → Except OpenFailure Unit × Supervisor σ
  | 0, s => (.error .notNmea, s)
  | lines + 1, s =>
    let (outcome, delay, s) := s.beginRead
    let s := s.elapse delay
    match outcome with
    | .line text => if Sentence.isNmea text then (.ok (), s) else handshake lines s
    | other => (.error (.read other), s)

def attempt (s : Supervisor σ) : Except OpenFailure Unit × Supervisor σ :=
  let (result, delay, s) := s.beginConnect
  let s := s.elapse delay
  match result with
  | .error fault => (.error (.connect fault), s)
  | .ok () => match s.handshake handshakeLines with
    | (.ok (), s) => (.ok (), { s with timeouts := 0 }.publish .connected)
    | (.error failure, s) => (.error failure, s.dropConnection)

def openWithin (again : Nat → Bool) : Nat → Nat → Supervisor σ → Except OpenFailure Unit × Supervisor σ
  | 0, _, s => s.attempt
  | bound + 1, failures, s => match s.attempt with
    | (.ok (), s) => (.ok (), s)
    | (.error failure, s) =>
      if again failures then openWithin again bound (failures + 1) s else (.error failure, s)

/-- Opening with a script: after as many attempts as the script has entries every attempt
fares alike. -/
def openScripted (s : Supervisor Script) : Except OpenFailure Unit × Supervisor Script :=
  s.openWithin s.policy.triesAgain s.link.length 0

end Supervisor
end NmeaReceiver
