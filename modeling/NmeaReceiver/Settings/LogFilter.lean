import NmeaReceiver.Decimal.Numeral
import NmeaReceiver.Text.Classes

/-! The filter of log records: levels for all targets or for those whose names begin as given.
Of several the one with the longest beginning decides. -/
namespace NmeaReceiver.Settings
open NmeaReceiver.Decimal

inductive Level where
  | off
  | error
  | warn
  | info
  | debug
  | trace
  deriving DecidableEq, Repr

def Level.name : Level → String
  | .off => "off"
  | .error => "error"
  | .warn => "warn"
  | .info => "info"
  | .debug => "debug"
  | .trace => "trace"

def Level.all : List Level := [.off, .error, .warn, .info, .debug, .trace]

def Level.number (level : Level) : Nat := Level.all.idxOf level

def Level.ofDigits? (digits : List Char) : Option Level :=
  if !digits.isEmpty && digits.all Char.isDigit then Level.all[digitsValue digits]? else none

def Level.ofNumber? : List Char → Option Level
  | '+' :: digits => ofDigits? digits
  | digits => ofDigits? digits

def Level.read? (text : String) : Option Level :=
  if text.isEmpty then some .error
  else ofNumber? text.toList <|> Level.all.find? fun level => level.name == text.toLower

inductive FilterFault where
  | directive
  | level
  deriving DecidableEq, Repr

def FilterFault.reason : FilterFault → String
  | .directive => "invalid filter directive"
  | .level => "error parsing level filter: expected one of \"off\", \"error\", \"warn\", "
      ++ "\"info\", \"debug\", \"trace\", or a number 0-5"

structure Directive where
  target : Option String
  level : Level
  deriving DecidableEq, Repr

namespace Directive

def startsTarget (c : Char) : Bool :=
  c == '-' || c == ':' || c == '_' || Text.isAlphanumeric c

def ofName (text : String) : Directive :=
  match Level.read? text with
  | some level => ⟨none, level⟩
  | none => ⟨some text, .trace⟩

def ofPair (target level : List Char) : Except FilterFault Directive :=
  if level.isEmpty then .ok ⟨some (String.ofList target), .trace⟩
  else match Level.read? (String.ofList level) with
    | some level => .ok ⟨some (String.ofList target), level⟩
    | none => .error .level

def read (text : List Char) : Except FilterFault Directive :=
  match text.dropWhile Text.isBlank with
  | [] => .error .directive
  | start :: _ =>
    let target := text.takeWhile (· != '=')
    if !startsTarget start || target.contains '[' then .error .directive
    else match text.dropWhile (· != '=') with
      | [] => .ok (ofName (String.ofList text))
      | _ :: level => if text.head? = some start then ofPair target level else .error .level

def text (directive : Directive) : String :=
  match directive.target with
  | none => directive.level.name
  | some target => target ++ "=" ++ directive.level.name

def precedes (a b : Directive) : Bool :=
  match a.target, b.target with
  | none, _ => false
  | some _, none => true
  | some a, some b => b.utf8ByteSize < a.utf8ByteSize || a.utf8ByteSize == b.utf8ByteSize && b < a

def covers (directive : Directive) (target : String) : Bool :=
  match directive.target with
  | none => true
  | some wanted => target.startsWith wanted

end Directive

structure LogFilter where
  directives : List Directive
  deriving DecidableEq, Repr

namespace LogFilter

def only (level : Level) : LogFilter := ⟨[⟨none, level⟩]⟩

def standard : LogFilter := only .info

def insert (new : Directive) : List Directive → List Directive
  | [] => [new]
  | first :: rest =>
    if first.target = new.target then new :: rest
    else if new.precedes first then new :: first :: rest
    else first :: insert new rest

def read (text : String) : Except FilterFault LogFilter := do
  let pieces := (text.splitOn ",").filter (!·.isEmpty)
  let directives ← pieces.mapM fun piece => Directive.read piece.toList
  if directives.isEmpty then return only .error
  return ⟨directives.foldl (fun placed new => insert new placed) []⟩

def text (filter : LogFilter) : String := String.intercalate "," (filter.directives.map Directive.text)

def passes (filter : LogFilter) (target : String) (level : Level) : Bool :=
  match filter.directives.find? (·.covers target) with
  | none => false
  | some directive => level.number ≤ directive.level.number

def refusal (text : String) (fault : FilterFault) : String :=
  "log filter " ++ text ++ " is invalid: " ++ fault.reason

end LogFilter
end NmeaReceiver.Settings
