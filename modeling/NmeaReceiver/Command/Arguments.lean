import NmeaReceiver.Command.Setup

/-! What the command's arguments ask for: a run with a file of settings, or help. -/
namespace NmeaReceiver.Command

inductive Request where
  | run (file : String)
  | help
  | unexpected (argument : String)
  deriving DecidableEq, Repr

namespace Request

def ofFiles : Option String → List String → Request
  | file, [] => .run (file.getD standardFile)
  | none, name :: rest => ofFiles (some name) rest
  | some _, name :: _ => .unexpected name

def isOption (argument : String) : Bool := argument.startsWith "-" && argument != "-"

def optionOf (argument : String) : String :=
  if argument.startsWith "--" then String.ofList (argument.toList.takeWhile (· != '='))
  else String.ofList (argument.toList.take 2)

def ofArguments : Option String → List String → Request
  | file, [] => .run (file.getD standardFile)
  | file, argument :: rest =>
    if argument == "--" then ofFiles file rest
    else if isOption argument then
      if optionOf argument ∈ ["-h", "--help"] then .help else .unexpected (optionOf argument)
    else match file with
      | none => ofArguments (some argument) rest
      | some _ => .unexpected argument

def read (arguments : List String) : Request := ofArguments none arguments

end Request

def usage : String := "USAGE:\n    gps_nmea [CONFIG]\n"

def helpText : String :=
  "gps_nmea \nRead fixes from an NMEA-0183 GPS\n\n" ++ usage
    ++ "\nARGS:\n    <CONFIG>    Configuration file [default: " ++ standardFile ++ "]\n"
    ++ "\nOPTIONS:\n    -h, --help    Print help information\n"

def unexpectedText (argument : String) : String :=
  let hint :=
    if Request.isOption argument then
      "\tIf you tried to supply \x60" ++ argument ++ "\x60 as a value rather than a flag, use \x60-- "
        ++ argument ++ "\x60\n\n"
    else ""
  "error: Found argument '" ++ argument ++ "' which wasn't expected, or isn't valid in this context\n\n"
    ++ hint ++ usage ++ "\nFor more information try --help\n"

end NmeaReceiver.Command
