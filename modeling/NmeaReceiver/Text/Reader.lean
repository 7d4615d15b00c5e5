/-! Readers of characters: each takes what it wants from the front of the text left, or
fails. -/
namespace NmeaReceiver.Text

abbrev Reader := StateT (List Char) Option

namespace Reader

def peek : Reader (Option Char) := do return (← get).head?

def char (c : Char) : Reader Unit := do
  match ← get with
  | d :: rest => if d = c then set rest else failure
  | [] => failure

def optional (c : Char) : Reader Bool := do
  match ← get with
  | d :: rest => if d = c then set rest; return true else return false
  | [] => return false

def takeWhile (p : Char → Bool) : Reader (List Char) := do
  let text ← get
  set (text.dropWhile p)
  return text.takeWhile p

def natural : Reader Nat := do
  let digits ← takeWhile Char.isDigit
  if digits.isEmpty then failure
  return digits.foldl (fun n c => n * 10 + (c.toNat - 48)) 0

def atEnd : Reader Bool := do return (← get).isEmpty

def runAll {α : Type} (reader : Reader α) (text : List Char) : Option α :=
  match reader text with
  | some (value, []) => some value
  | _ => none

end Reader
end NmeaReceiver.Text
