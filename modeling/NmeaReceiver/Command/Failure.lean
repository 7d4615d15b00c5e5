import NmeaReceiver.Link.Opening
import NmeaReceiver.Settings.Basic
import NmeaReceiver.Text.Written

/-! Why a run ends before it reads a fix, and the words for it. -/
namespace NmeaReceiver.Command
open NmeaReceiver.Link NmeaReceiver.Settings

inductive Failure where
  | load (file : String) (failure : LoadFailure)
  | logFilter (text : String) (fault : FilterFault)
  | serial (fault : SerialFault)
  | opening (link : String) (failure : OpenFailure)
  deriving DecidableEq, Repr

def Failure.headline : Failure → String
  | .load file _ => "failed to load configuration file " ++ Text.quoted file
  | .logFilter text fault => LogFilter.refusal text fault
  | .serial fault => fault.message
  | .opening link _ => "failed to open GPS " ++ link

def Failure.causes : Failure → List String
  | .load _ failure => failure.message :: match failure with
    | .unreadable fault => [fault.text]
    | _ => []
  | .opening link failure => [failure.message link]
  | _ => []

def indented (lead indent text : String) : String :=
  lead ++ String.intercalate ("\n" ++ indent) (text.splitOn "\n")

def causesText : List String → String
  | [] => ""
  | [cause] => "\n\nCaused by:\n" ++ indented "    " "    " cause
  | causes => "\n\nCaused by:" ++ String.join (causes.zipIdx.map fun (cause, n) =>
      "\n" ++ indented (Text.alignRight 5 (toString n) ++ ": ") "       " cause)

def Failure.text (failure : Failure) : String :=
  "Error: " ++ failure.headline ++ causesText failure.causes ++ "\n"

end NmeaReceiver.Command
