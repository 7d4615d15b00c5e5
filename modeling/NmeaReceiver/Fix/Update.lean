import NmeaReceiver.Calendar.Instant
import NmeaReceiver.Decimal.Binary64

/-! What one sentence contributes to the fix. -/
namespace NmeaReceiver.Fix
open NmeaReceiver.Calendar NmeaReceiver.Decimal

inductive Status where
  | noFix
  | fix2D
  | fix3D
  | unknown
  deriving DecidableEq, Repr

def Status.text : Status → String
  | .noFix => "NO FIX"
  | .fix2D => "2D FIX"
  | .fix3D => "3D FIX"
  | .unknown => "UNKNOWN"

def Status.name : Status → String
  | .noFix => "NoFix"
  | .fix2D => "Fix2D"
  | .fix3D => "Fix3D"
  | .unknown => "Unknown"

structure Position where
  latitude : Binary64
  longitude : Binary64
  elevation : Option Binary64
  deriving DecidableEq, Repr

structure TimeFix where
  utc : Instant
  offsetHours : Binary64
  deriving DecidableEq, Repr

structure Update where
  position : Option Position
  time : Option TimeFix
  status : Option Status
  deriving DecidableEq, Repr

/-- Degrees east from zero up to below 360. The zeros, and westerly values so small that they
round up to 360, become zero. -/
def normalizeLongitude (longitude : Binary64) : Binary64 :=
  let east := if longitude.lt .zero then longitude.add (.ofNat 360) else longitude
  if east.isZero || (Binary64.ofNat 360).le east then .zero else east

end NmeaReceiver.Fix
