import NmeaReceiver.Command.Failure
import NmeaReceiver.Host.Files
import NmeaReceiver.Link.Isolation

/-! What a run needs, read from the file of settings. -/
namespace NmeaReceiver.Command
open NmeaReceiver.Settings

def standardFile : String := "gps_nmea.toml"

structure Setup where
  settings : Settings
  filter : LogFilter
  transport : Transport

def transportOf (file : String) (settings : Settings) : Except Failure Transport :=
  match settings.receiver.transport with
  | .error failure => .error (.load file failure)
  | .ok (.serial serial) => match serial.line with
    | .error fault => .error (.serial fault)
    | .ok _ => .ok (.serial serial)
  | .ok transport => .ok transport

def Setup.read (name : String) (file : Except Host.Fault (List UInt8)) : Except Failure Setup :=
  match load file with
  | .error failure => .error (.load name failure)
  | .ok settings => match settings.filter with
    | .error fault => .error (.logFilter (settings.logFilter.getD "") fault)
    | .ok filter => do return ⟨settings, filter, ← transportOf name settings⟩

def Setup.receiverName (setup : Setup) : String :=
  setup.settings.receiver.name.getD setup.transport.name

def Setup.isolatedFault (setup : Setup) (files : Host.Files) : Link.Fault :=
  match setup.transport with
  | .serial serial => .device (files.lineFault serial.device)
  | .tcp tcp => Link.isolatedFault tcp.hostName

end NmeaReceiver.Command
