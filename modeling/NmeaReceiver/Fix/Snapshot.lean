import NmeaReceiver.Decimal.Written
import NmeaReceiver.Fix.State

/-! The snapshot of a fix as one line of JSON. What was never reported is null; so is a number
that is not finite. -/
namespace NmeaReceiver.Fix
open NmeaReceiver.Calendar NmeaReceiver.Decimal

inductive Value where
  | null
  | number (text : String)
  | string (text : String)
  | flag (value : Bool)
  deriving DecidableEq, Repr

/-- Texts of a snapshot hold neither quotes nor backslashes. -/
def Value.text : Value → String
  | .null => "null"
  | .number text => text
  | .string text => "\"" ++ text ++ "\""
  | .flag value => if value then "true" else "false"

def numberValue (number : Option Binary64) : Value :=
  match number.bind Binary64.shortText? with
  | some text => .number text
  | none => .null

def stringValue : Option String → Value
  | some text => .string text
  | none => .null

def State.members (s : State) : List (String × Value) :=
  [("latitude", numberValue s.latitude),
   ("longitude", numberValue s.longitude),
   ("elevation", numberValue s.elevation),
   ("utc_timestamp", stringValue (s.utc.map Instant.timestamp)),
   ("utc_offset_hours", numberValue s.offsetHours),
   ("fix_status", stringValue (s.status.map Status.name)),
   ("location_pending", .flag s.locationPending),
   ("time_pending", .flag s.timePending)]

def State.json (s : State) : String :=
  "\x7b" ++ String.intercalate "," (s.members.map fun (key, value) => "\"" ++ key ++ "\":" ++ value.text)
    ++ "\x7d"

end NmeaReceiver.Fix
