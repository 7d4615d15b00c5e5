import NmeaReceiver.Host.Fault

/-! Files and directories, and where a path leads among them. -/
namespace NmeaReceiver.Host

inductive Node where
  | directory
  | file (octets : List UInt8)
  deriving DecidableEq, Repr

abbrev Place := List String

structure Files where
  nodes : List (Place × Node)
  here : Place
  deriving DecidableEq, Repr

def longestName : Nat := 255
def longestPath : Nat := 4096

namespace Files

def node? (files : Files) : Place → Option Node
  | [] => some .directory
  | place => files.nodes.lookup place

def step (files : Files) (place : Place) (name : String) : Except Fault Place :=
  match files.node? place with
  | none => .error .notFound
  | some (.file _) => .error .notDirectory
  | some .directory =>
    if name.isEmpty || name == "." then .ok place
    else if name == ".." then .ok place.dropLast
    else if longestName < name.utf8ByteSize then .error .nameTooLong
    else .ok (place ++ [name])

def place (files : Files) (path : String) : Except Fault Place :=
  if path.contains '\x00' then .error .invalidArgument
  else if path.isEmpty then .error .notFound
  else if longestPath ≤ path.utf8ByteSize then .error .nameTooLong
  else
    let start := if path.startsWith "/" then [] else files.here
    (path.splitOn "/").foldlM files.step start

def find (files : Files) (path : String) : Except Fault Node := do
  match files.node? (← files.place path) with
  | some node => return node
  | none => .error .notFound

def write (files : Files) (path : String) (octets : List UInt8) : Except Fault Files := do
  let place ← files.place path
  match files.node? place with
  | some .directory => .error .isDirectory
  | _ => return { files with nodes := (place, .file octets) :: files.nodes }

def read (files : Files) (path : String) : Except Fault (List UInt8) := do
  match ← files.find path with
  | .file octets => return octets
  | .directory => .error .isDirectory

def lineFault (files : Files) (path : String) : Fault :=
  match files.find path with
  | .error fault => fault
  | .ok .directory => .isDirectory
  | .ok (.file _) => .notTerminal

end Files
end NmeaReceiver.Host
