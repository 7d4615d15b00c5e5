import NmeaReceiver.Settings.Document.Value

/-! The lines of a settings document: headers of tables, and keys with values. -/
namespace NmeaReceiver.Settings.Document

abbrev TokenReader := StateT (List Token) Option

namespace TokenReader

def next : TokenReader Token := do
  match ← get with
  | token :: rest => set rest; return token
  | [] => failure

def optional (token : Token) : TokenReader Bool := do
  match ← get with
  | t :: rest => if t = token then set rest; return true else return false
  | [] => return false

def expect (token : Token) : TokenReader Unit := do
  if ← optional token then return () else failure

def isBlank : Token → Bool
  | .blank _ => true
  | _ => false

def skipBlanks : TokenReader Unit := modify (·.dropWhile isBlank)

def skipSpread : TokenReader Unit :=
  modify (·.dropWhile fun t => isBlank t || t == .newline || t == .comment)

def bare : TokenReader (List Char) := do
  match ← next with
  | .bare text => return text
  | _ => failure

def key : TokenReader (List Char) := do
  match ← next with
  | .bare text => return text
  | .quoted text false => return text
  | _ => failure

def moreParts : Nat → TokenReader (List (List Char))
  | 0 => failure
  | fuel + 1 => do
    skipBlanks
    if ← optional .period then
      skipBlanks
      let part ← key
      return part :: (← moreParts fuel)
    else return []

def left : TokenReader Nat := do return (← get).length + 1

def dottedKey : TokenReader (List Char × List (List Char)) := do
  let first ← key
  return (first, ← moreParts (← left))

def lineEnd : TokenReader Unit := do
  skipBlanks
  let _ ← optional .comment
  match ← get with
  | [] => return ()
  | .newline :: rest => set rest
  | _ => failure

def restOfTime : TokenReader Unit := do
  let _ ← bare
  expect .colon
  let _ ← bare
  if ← optional .period then let _ ← bare
  if ← optional .plus then let _ ← bare
  if ← optional .colon then let _ ← bare

def datetime (colonTaken : Bool) : TokenReader Value := do
  match ← get with
  | .blank true :: .bare _ :: rest => set rest
  | _ => pure ()
  let timed ← if colonTaken then pure true else optional .colon
  if timed then restOfTime
  return .datetime

def exponent (text : List Char) : TokenReader (Option Digits) := do
  match text with
  | [] => return none
  | [_] =>
    let _ ← optional .plus
    let some digits := digits? 10 false true (← bare) | failure
    if digits.rest.isEmpty then return some digits else failure
  | _ :: rest =>
    let some digits := digits? 10 true true rest | failure
    if digits.rest.isEmpty then return some digits else failure

def startsExponent (text : List Char) : Bool :=
  match text with
  | [] => true
  | c :: _ => c == 'e' || c == 'E'

def float (text : List Char) (afterPoint : Option (List Char)) : TokenReader Value := do
  let some whole := digits? 10 true false text | failure
  let fraction ← match afterPoint with
    | none => pure none
    | some after =>
      if whole.rest.isEmpty then
        let some digits := digits? 10 false true after | failure
        pure (some digits)
      else failure
  let suffix := match fraction with
    | some digits => digits.rest
    | none => whole.rest
  if startsExponent suffix then
    let some value := float? whole fraction (← exponent suffix) | failure
    return value
  else failure

def nonNumbers : List (List Char) := ["inf".toList, "-inf".toList, "nan".toList, "-nan".toList]

def integer (radix : Nat) (text : List Char) : TokenReader Value := do
  let some value := integer? radix text | failure
  return value

def number (text : List Char) : TokenReader Value := do
  match text with
  | '0' :: 'x' :: rest => integer 16 rest
  | '0' :: 'o' :: rest => integer 8 rest
  | '0' :: 'b' :: rest => integer 2 rest
  | text =>
    if text.any fun c => c == 'e' || c == 'E' then float text none
    else if ← optional .period then float text (some (← bare))
    else if nonNumbers.contains text then return .float
    else integer 10 text

def hasBeforeHyphen (c : Char) : List Char → Bool
  | a :: b :: rest => (a == c && b == '-') || hasBeforeHyphen c (b :: rest)
  | _ => false

def beginsDate (text : List Char) : Bool :=
  text.any (fun c => c == 'T' || c == 't') ||
    ((text.drop 1).contains '-' && !hasBeforeHyphen 'e' text && !hasBeforeHyphen 'E' text)

def numberOrDate (text : List Char) : TokenReader Value := do
  if beginsDate text then datetime false
  else if ← optional .colon then datetime true
  else number text

def beginsNumber (text : List Char) : Bool :=
  match text with
  | c :: _ => c == '-' || c.isDigit
  | [] => false

def scalar (text : List Char) : TokenReader Value :=
  if text = "true".toList then return .boolean true
  else if text = "false".toList then return .boolean false
  else if text = "inf".toList ∨ text = "nan".toList ∨ beginsNumber text then numberOrDate text
  else failure

def arrayRest (value : TokenReader Value) : Nat → TokenReader (List Value)
  | 0 => failure
  | fuel + 1 => do
    skipSpread
    if ← optional .rightBracket then return []
    let first ← value
    skipSpread
    if ← optional .comma then return first :: (← arrayRest value fuel)
    expect .rightBracket
    return [first]

def inlineRest (value : TokenReader Value) : Nat → Entries → TokenReader Entries
  | 0, _ => failure
  | fuel + 1, entries => do
    let (first, parts) ← dottedKey
    expect .equals
    skipBlanks
    let some entries := insertDotted first parts (← value) entries | failure
    skipBlanks
    if ← optional .rightBrace then return entries
    expect .comma
    skipBlanks
    inlineRest value fuel entries

def value : Nat → TokenReader Value
  | 0 => failure
  | depth + 1 => do
    match ← next with
    | .quoted text _ => return .text text
    | .bare text => scalar text
    | .plus => number (← bare)
    | .leftBrace =>
      skipBlanks
      if ← optional .rightBrace then return .table []
      return .table (← inlineRest (value depth) (← left) [])
    | .leftBracket => return .array (← arrayRest (value depth) (← left))
    | _ => failure

end TokenReader

inductive Line where
  | header (key : List Char) (parts : List (List Char)) (array : Bool)
  | entry (key : List Char) (parts : List (List Char)) (value : Value)
  deriving Repr

namespace TokenReader

def header : TokenReader Line := do
  let array ← optional .leftBracket
  skipBlanks
  let (first, parts) ← dottedKey
  expect .rightBracket
  if array then expect .rightBracket
  lineEnd
  return .header first parts array

def entry : TokenReader Line := do
  let (first, parts) ← dottedKey
  expect .equals
  skipBlanks
  let value ← value (← left)
  lineEnd
  return .entry first parts value

def lines : Nat → TokenReader (List Line)
  | 0 => failure
  | fuel + 1 => do
    skipSpread
    if (← get).isEmpty then return []
    let line ← if ← optional .leftBracket then header else entry
    return line :: (← lines fuel)

end TokenReader

def lines? (tokens : List Token) : Option (List Line) :=
  (TokenReader.lines (tokens.length + 1)).run' tokens

end NmeaReceiver.Settings.Document
