import NmeaReceiver.Command.Arguments
import NmeaReceiver.Command.Monitor
import Std.Time.DateTime.Timestamp

/-! The command. It reads the settings that its argument names, and then the receiver's octets:
from the device of a serial line, or, when the receiver is reached over a network, as somebody
else's connection hands them in on standard input. What is reported goes to standard output. -/
namespace NmeaReceiver.Command
open NmeaReceiver.Calendar NmeaReceiver.Link

def hostClock : IO Fix.Clock := do
  let stamp ← Std.Time.Timestamp.now
  let zone := (← IO.getEnv "TZ").bind fun rule => Zone.parse? rule.toList
  return .inZone ⟨stamp.toSecondsSinceUnixEpoch.val, 0⟩ (zone.getD .utc)

partial def greeting (source : IO.FS.Stream) (read : Line.Octets) : IO Line.Octets := do
  if handshakeLines ≤ read.countP Line.isNewline then return read
  let chunk ← source.read 256
  if chunk.isEmpty then return read
  greeting source (read ++ chunk.toList)

def flush (setup : Setup) (m : Monitor) : IO Monitor := do
  for text in m.logTexts setup.filter do IO.println text
  return { m with log := [] }

partial def follow (source : IO.FS.Stream) (setup : Setup) (due : Nat) (m : Monitor) : IO Unit := do
  let m ← flush setup m
  if m.ended.isSome then return
  let chunk ← source.read 256
  if chunk.isEmpty then
    let _ ← flush setup m.interrupt
    return
  let now ← IO.monoMsNow
  let m := { m with clock := ← hostClock }
  if due ≤ now then
    follow source setup (now + setup.settings.receiver.interval) (m.receive chunk.toList).tick
  else follow source setup due (m.receive chunk.toList)

def faultOf : IO.Error → Host.Fault
  | .inappropriateType _ code _ | .invalidArgument _ code _ | .noSuchThing _ code _ =>
    let told := [.notDirectory, .isDirectory, .invalidArgument, .nameTooLong].find? fun fault =>
      UInt32.ofNat fault.number == code || 0 - UInt32.ofNat fault.number == code
    told.getD .notFound
  | _ => .notFound

def source (setup : Setup) : IO (Except Fault IO.FS.Stream) := do
  match setup.transport with
  | .tcp _ => return .ok (← IO.getStdin)
  | .serial serial =>
    try return .ok (.ofHandle (← IO.FS.Handle.mk serial.device .read))
    catch error => return .error (.device (faultOf error))

def fail (failure : Failure) : IO UInt32 := do
  IO.eprint failure.text
  return 1

def run (file : String) : IO UInt32 := do
  let octets ← try pure (.ok (← IO.FS.readBinFile file).toList) catch error => pure (.error (faultOf error))
  match Setup.read file octets with
  | .error failure => fail failure
  | .ok setup =>
    let clock ← hostClock
    match ← source setup with
    | .error fault => fail (.opening setup.transport.name (.connect fault))
    | .ok stream => match setup.monitor (.greeted (← greeting stream [])) clock with
      | .error failure => fail failure
      | .ok m =>
        follow stream setup ((← IO.monoMsNow) + setup.settings.receiver.interval) (m.tick.receive [])
        return 0

def answer : Request → IO UInt32
  | .run file => run file
  | .help => do
    IO.print helpText
    return 0
  | .unexpected argument => do
    IO.eprint (unexpectedText argument)
    return 2

end NmeaReceiver.Command

def main (arguments : List String) : IO UInt32 :=
  NmeaReceiver.Command.answer (.read arguments)
