import NmeaReceiver.Command.Poller
import NmeaReceiver.Command.Setup
import NmeaReceiver.Link.Stream
import NmeaReceiver.Session.Basic

/-! The monitor of a receiver: it reads the lines of an open stream, polls, and keeps a log of
what it reports. It ends on a line that is too long or when it is interrupted. -/
namespace NmeaReceiver.Command
open NmeaReceiver.Link NmeaReceiver.Session NmeaReceiver.Settings

structure Record where
  level : Level
  message : String
  deriving DecidableEq, Repr

def logTarget : String := "gps_nmea"

def Record.text (record : Record) : String := record.level.name.toUpper ++ " " ++ record.message

structure Monitor where
  name : String
  supervisor : Supervisor Stream
  clock : Fix.Clock
  poller : Poller
  log : List Record
  ended : Option Termination

namespace Monitor

def record (m : Monitor) (level : Level) (message : String) : Monitor :=
  { m with log := ⟨level, message⟩ :: m.log }

def start (name : String) (supervisor : Supervisor Stream) (clock : Fix.Clock) : Monitor :=
  record ⟨name, supervisor, clock, .new, [], none⟩ .info ("registered GPS " ++ name)

def finish (m : Monitor) (why : Termination) : Monitor :=
  record { m with ended := some why } .warn ("GPS " ++ m.name ++ " disconnected: " ++ why.name)

def tick (m : Monitor) : Monitor :=
  if m.ended.isSome then m
  else
    let logged := if m.poller.answered then m.record .info m.poller.fix.json else m
    { logged with poller := m.poller.tick }

def read (m : Monitor) : Monitor :=
  match m.supervisor.readLine with
  | (.line text, supervisor) =>
    { m with supervisor := supervisor, poller := m.poller.ingest m.clock text }
  | (.retry, supervisor) => { m with supervisor := supervisor }
  | (.overflow _, supervisor) => { m with supervisor := supervisor }.finish .overflow

def readAll : Nat → Monitor → Monitor
  | 0, m => m
  | bound + 1, m =>
    if m.ended.isSome || m.supervisor.link.read.1 == .timeout then m else readAll bound m.read

def receive (octets : Line.Octets) (m : Monitor) : Monitor :=
  let link := m.supervisor.link.receive octets
  let waiting := (link.reader.map fun reader => reader.buffer.length).getD 0
  readAll (waiting + link.wire.arrived.length + 1) { m with supervisor.link := link }

def interrupt (m : Monitor) : Monitor :=
  if m.ended.isSome then m
  else
    let told := m.record .info ("disconnecting from " ++ m.name)
    { told with supervisor := told.supervisor.disconnect }.finish .requested

def logTexts (filter : LogFilter) (m : Monitor) : List String :=
  (m.log.reverse.filter fun record => filter.passes logTarget record.level).map Record.text

end Monitor

def Setup.monitor (setup : Setup) (meeting : Meeting) (clock : Fix.Clock) :
    Except Failure Monitor :=
  let stream := Stream.fresh setup.settings.receiver.lineLimit meeting
  match (Supervisor.new stream setup.settings.receiver.policy).attempt with
  | (.ok (), supervisor) => .ok (.start setup.receiverName supervisor clock)
  | (.error failure, _) => .error (.opening setup.transport.name failure)

end NmeaReceiver.Command
