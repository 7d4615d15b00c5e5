import NmeaReceiver.Host.Fault
import NmeaReceiver.Line.Splitter
import NmeaReceiver.Link.Policy
import NmeaReceiver.Settings.Document.Tree
import NmeaReceiver.Settings.Field
import NmeaReceiver.Settings.LogFilter
import NmeaReceiver.Settings.Serial
import NmeaReceiver.Text.Utf8

/-! The settings of a receiver, read from a file. What the file leaves out has a default. -/
namespace NmeaReceiver
open NmeaReceiver.Decimal NmeaReceiver.Link NmeaReceiver.Settings.Document

namespace Settings

structure Reconnect where
  readTimeout : Option Nat
  timeoutThreshold : Option Nat
  timeoutCooldown : Option Nat
  refusedCooldown : Option Nat
  openTimeout : Option Nat
  deriving DecidableEq, Repr

structure Serial where
  device : String
  baudRate : Option Nat
  framing : Option String
  flowControl : Option String
  deriving DecidableEq, Repr

structure Tcp where
  host : Option String
  tcpPort : Option Nat
  deriving DecidableEq, Repr

structure Receiver where
  name : Option String
  pollInterval : Option Nat
  maxLineLength : Option Nat
  reconnect : Option Reconnect
  serial : Option Serial
  tcp : Option Tcp
  deriving DecidableEq, Repr

def max16 : Nat := twoTo 16 - 1
def max32 : Nat := twoTo 32 - 1
def max64 : Nat := twoTo 64 - 1

def Reconnect.read? (value : Value) : Option Reconnect := do
  let names := ["read_timeout", "timeout_threshold", "timeout_cooldown", "refused_cooldown", "open_timeout"]
  match ← fields? names value with
  | [reading, threshold, timeout, refused, opening] =>
    return {
      readTimeout := ← optional (natural? max64) reading
      timeoutThreshold := ← optional (natural? max32) threshold
      timeoutCooldown := ← optional (natural? max64) timeout
      refusedCooldown := ← optional (natural? max64) refused
      openTimeout := ← optional (natural? max64) opening }
  | _ => none

def Serial.read? (value : Value) : Option Serial := do
  match ← fields? ["device", "baud_rate", "framing", "flow_control"] value with
  | [device, baudRate, framing, flowControl] =>
    return {
      device := ← text? (← device)
      baudRate := ← optional (natural? max32) baudRate
      framing := ← optional text? framing
      flowControl := ← optional text? flowControl }
  | _ => none

def Tcp.read? (value : Value) : Option Tcp := do
  match ← fields? ["host", "port"] value with
  | [host, tcpPort] =>
    return { host := ← optional text? host, tcpPort := ← optional (natural? max16) tcpPort }
  | _ => none

def Receiver.read? (value : Value) : Option Receiver := do
  let names := ["name", "poll_interval", "max_line_length", "reconnect", "serial", "tcp"]
  match ← fields? names value with
  | [name, pollInterval, maxLineLength, reconnect, serial, tcp] =>
    return {
      name := ← optional text? name
      pollInterval := ← optional (natural? max64) pollInterval
      maxLineLength := ← optional (natural? max64) maxLineLength
      reconnect := ← optional Reconnect.read? reconnect
      serial := ← optional Serial.read? serial
      tcp := ← optional Tcp.read? tcp }
  | _ => none

inductive Transport where
  | serial (settings : Serial)
  | tcp (settings : Tcp)
  deriving DecidableEq, Repr

inductive FileFault where
  | host (fault : Host.Fault)
  | notText
  deriving DecidableEq, Repr

def FileFault.text : FileFault → String
  | .host fault => fault.numbered
  | .notText => "stream did not contain valid UTF-8"

inductive LoadFailure where
  | unreadable (fault : FileFault)
  | malformed
  | missingTransport
  | duplicateTransport
  deriving DecidableEq, Repr

def LoadFailure.message : LoadFailure → String
  | .unreadable fault => "unable to read configuration file: " ++ fault.text
  | .malformed => "invalid configuration file"
  | .missingTransport => "[gps] needs a [gps.serial] or [gps.tcp] table"
  | .duplicateTransport => "[gps] may have only one of [gps.serial] or [gps.tcp]"

namespace Receiver

def standardPollInterval : Nat := 1000

def interval (r : Receiver) : Nat := r.pollInterval.getD standardPollInterval

def lineLimit (r : Receiver) : Nat := r.maxLineLength.getD Line.standardLimit

def policy (r : Receiver) : Policy :=
  match r.reconnect with
  | none => .standard
  | some s =>
    { readTimeout := s.readTimeout.getD Policy.standard.readTimeout
      timeoutThreshold := (s.timeoutThreshold.map UInt32.ofNat).getD Policy.standard.timeoutThreshold
      timeoutCooldown := s.timeoutCooldown.getD Policy.standard.timeoutCooldown
      refusedCooldown := s.refusedCooldown.getD Policy.standard.refusedCooldown
      openTimeout := s.openTimeout }

def transport (r : Receiver) : Except LoadFailure Transport :=
  match r.serial, r.tcp with
  | some serial, none => .ok (.serial serial)
  | none, some tcp => .ok (.tcp tcp)
  | none, none => .error .missingTransport
  | some _, some _ => .error .duplicateTransport

end Receiver

def Serial.line (s : Serial) : Except SerialFault SerialLine :=
  SerialLine.read s.baudRate s.framing s.flowControl

def Tcp.standardHost : String := "192.168.1.1"
def Tcp.standardPort : Nat := 50000
def Tcp.hostName (t : Tcp) : String := t.host.getD standardHost
def Tcp.number (t : Tcp) : Nat := t.tcpPort.getD standardPort

def Transport.name : Transport → String
  | .serial s => s.device
  | .tcp t => t.hostName ++ ":" ++ toString t.number

end Settings

structure Settings where
  logFilter : Option String
  receiver : Settings.Receiver
  deriving DecidableEq, Repr

namespace Settings

def ofEntries? (entries : Entries) : Option Settings := do
  match ← fields? ["log_filter", "gps"] (.table entries) with
  | [logFilter, receiver] =>
    return { logFilter := ← optional text? logFilter, receiver := ← Receiver.read? (← receiver) }
  | _ => none

def ofText (text : List Char) : Except LoadFailure Settings :=
  match (Document.ofText? text).bind ofEntries? with
  | none => .error .malformed
  | some settings => match settings.receiver.transport with
    | .ok _ => .ok settings
    | .error failure => .error failure

def load : Except Host.Fault (List UInt8) → Except LoadFailure Settings
  | .error fault => .error (.unreadable (.host fault))
  | .ok octets => match Text.Utf8.decode? octets with
    | none => .error (.unreadable .notText)
    | some text => ofText text

def filter (s : Settings) : Except FilterFault LogFilter :=
  match s.logFilter with
  | none => .ok .standard
  | some text => LogFilter.read text

theorem loadTransport {file : Except Host.Fault (List UInt8)} {settings : Settings}
    (loaded : load file = .ok settings) : ∃ transport, settings.receiver.transport = .ok transport := by
  unfold load at loaded
  split at loaded
  · simp at loaded
  · split at loaded
    · simp at loaded
    · unfold ofText at loaded
      split at loaded
      · simp at loaded
      · split at loaded
        · rename_i transport found
          cases loaded
          exact ⟨transport, found⟩
        · simp at loaded

end Settings
end NmeaReceiver
