/-! The written forms of hosts: addresses of four octets, addresses of eight groups, and
names. -/
namespace NmeaReceiver.Host

def digit? (c : Char) : Option Nat :=
  if '0' ≤ c ∧ c ≤ '9' then some (c.toNat - 48)
  else if 'a' ≤ c ∧ c ≤ 'f' then some (c.toNat - 87)
  else if 'A' ≤ c ∧ c ≤ 'F' then some (c.toNat - 55)
  else none

def digitsOf? (base : Nat) (text : List Char) : Option Nat :=
  if text.isEmpty then none
  else text.foldlM (fun n c => do
    let digit ← digit? c
    if digit < base then return n * base + digit else none) 0

def number? : List Char → Option Nat
  | '0' :: 'x' :: digits | '0' :: 'X' :: digits => digitsOf? 16 digits
  | '0' :: digit :: digits => digitsOf? 8 (digit :: digits)
  | digits => digitsOf? 10 digits

def fillsOctets (room : Nat) : List Nat → Bool
  | [] => false
  | [last] => 1 ≤ room && last < Nat.pow 256 room
  | first :: rest => first < 256 && fillsOctets (room - 1) rest

def isOctetAddress (text : String) : Bool :=
  match (text.splitOn ".").mapM fun part => number? part.toList with
  | none => false
  | some numbers => fillsOctets 4 numbers

def octet? (text : String) : Option Nat := do
  if text.length ≠ 1 ∧ text.startsWith "0" then none
  let n ← digitsOf? 10 text.toList
  if n < 256 then return n else none

def octetGroups? (text : String) : Option (List Nat) := do
  match ← (text.splitOn ".").mapM octet? with
  | [a, b, c, d] => return [a * 256 + b, c * 256 + d]
  | _ => none

def group? (text : String) : Option Nat :=
  if text.length ≤ 4 then digitsOf? 16 text.toList else none

def groups? : List String → Option (List Nat)
  | [] => some []
  | [last] => octetGroups? last <|> (group? last).map ([·])
  | first :: rest => do return (← group? first) :: (← groups? rest)

def filled? (before behind : List Nat) : Option (List Nat) :=
  let written := before.length + behind.length
  if written < 8 then some (before ++ List.replicate (8 - written) 0 ++ behind) else none

def groupAddress? (text : String) : Option (List Nat) :=
  match text.splitOn "::" with
  | [whole] => (groups? (whole.splitOn ":")).filter (·.length == 8)
  | [left, right] => do
    let before ← if left.isEmpty then pure [] else (left.splitOn ":").mapM group?
    let behind ← if right.isEmpty then pure [] else groups? (right.splitOn ":")
    filled? before behind
  | _ => none

def isLabelChar (c : Char) : Bool := c.isAlphanum || c == '-' || c == '_'

def isLabel (text : String) : Bool :=
  1 ≤ text.length && text.length ≤ 63 && text.toList.all isLabelChar

def isHostName (text : String) : Bool :=
  let name := if text.endsWith "." then (text.dropEnd 1).toString else text
  text == "."
    || (!text.startsWith "-" && name.length ≤ 253 && (name.splitOn ".").all isLabel)

end NmeaReceiver.Host
