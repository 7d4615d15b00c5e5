/-! The tokens of a settings document in TOML. -/
namespace NmeaReceiver.Settings.Document

inductive Token where
  | newline
  | blank (single : Bool)
  | comment
  | equals
  | period
  | comma
  | colon
  | plus
  | leftBrace
  | rightBrace
  | leftBracket
  | rightBracket
  | bare (text : List Char)
  | quoted (text : List Char) (multiline : Bool)
  deriving DecidableEq, Repr

def foldLineEnds : List Char → List Char
  | '\r' :: '\n' :: rest => '\n' :: foldLineEnds rest
  | c :: rest => c :: foldLineEnds rest
  | [] => []

def isBare (c : Char) : Bool := c.isAlphanum || c == '-' || c == '_'

def isSpace (c : Char) : Bool := c == ' ' || c == '\t'

def inComment (c : Char) : Bool := c == '\t' || ' ' ≤ c

def inQuotes (c : Char) : Bool := c == '\t' || (' ' ≤ c && c != '\x7f')

def hexDigit? (c : Char) : Option Nat :=
  if '0' ≤ c ∧ c ≤ '9' then some (c.toNat - 48)
  else if 'a' ≤ c ∧ c ≤ 'f' then some (c.toNat - 87)
  else if 'A' ≤ c ∧ c ≤ 'F' then some (c.toNat - 55)
  else none

def escapedCode (digits : Nat) (text : List Char) : Option (Char × List Char) := do
  let taken := text.take digits
  if taken.length ≠ digits then none
  let code ← taken.foldlM (fun n c => do return n * 16 + (← hexDigit? c)) 0
  if code < 0xD800 ∨ (0xDFFF < code ∧ code < 0x110000) then
    return (Char.ofNat code, text.drop digits)
  else none

def skipLineEnd (text : List Char) : Option (List Char) :=
  match text.dropWhile isSpace with
  | '\n' :: rest => some (rest.dropWhile fun c => isSpace c || c == '\n')
  | [] => some []
  | _ => none

def escape (multiline : Bool) (text : List Char) : Option (List Char × List Char) :=
  match text with
  | '"' :: rest => some (['"'], rest)
  | '\\' :: rest => some (['\\'], rest)
  | 'b' :: rest => some (['\x08'], rest)
  | 'f' :: rest => some (['\x0c'], rest)
  | 'n' :: rest => some (['\n'], rest)
  | 'r' :: rest => some (['\r'], rest)
  | 't' :: rest => some (['\t'], rest)
  | 'u' :: rest => (escapedCode 4 rest).map fun (c, rest) => ([c], rest)
  | 'U' :: rest => (escapedCode 8 rest).map fun (c, rest) => ([c], rest)
  | text => if multiline then (skipLineEnd text).map fun rest => ([], rest) else none

structure Quoting where
  mark : Char
  escapes : Bool
  multiline : Bool

/-- A quoted text from after its opening to its end, given what has been read of it,
backwards. Up to two marks more may stand before three that close. -/
def quotedBody (q : Quoting) : Nat → List Char → List Char → Option (List Char × List Char)
  | 0, _, _ => none
  | fuel + 1, read, text => match text with
    | [] => none
    | c :: rest =>
      if c = q.mark then
        if !q.multiline then some (read.reverse, rest)
        else if rest.take 2 = [c, c] then
          let more := min 2 ((rest.drop 2).takeWhile (· == c)).length
          some ((List.replicate more c ++ read).reverse, rest.drop (2 + more))
        else quotedBody q fuel (c :: read) rest
      else if c = '\n' then
        if q.multiline then quotedBody q fuel (c :: read) rest else none
      else if q.escapes ∧ c = '\\' then
        match escape q.multiline rest with
        | some (meant, rest) => quotedBody q fuel (meant.reverse ++ read) rest
        | none => none
      else if inQuotes c then quotedBody q fuel (c :: read) rest
      else none

def quoted (mark : Char) (escapes : Bool) (text : List Char) : Option (Token × List Char) :=
  match text with
  | a :: b :: rest =>
    if a = mark ∧ b = mark then body true (match rest with | '\n' :: rest => rest | rest => rest)
    else if a = mark then some (.quoted [] false, b :: rest)
    else body false text
  | [a] => if a = mark then some (.quoted [] false, []) else body false text
  | [] => none
where
  body (multiline : Bool) (text : List Char) : Option (Token × List Char) :=
    (quotedBody ⟨mark, escapes, multiline⟩ (text.length + 1) [] text).map
      fun (read, rest) => (.quoted read multiline, rest)

def next (c : Char) (rest : List Char) : Option (Token × List Char) :=
  match c with
  | '\n' => some (.newline, rest)
  | '=' => some (.equals, rest)
  | '.' => some (.period, rest)
  | ',' => some (.comma, rest)
  | ':' => some (.colon, rest)
  | '+' => some (.plus, rest)
  | '\x7b' => some (.leftBrace, rest)
  | '\x7d' => some (.rightBrace, rest)
  | '[' => some (.leftBracket, rest)
  | ']' => some (.rightBracket, rest)
  | '#' => some (.comment, rest.dropWhile inComment)
  | '\'' => quoted '\'' false rest
  | '"' => quoted '"' true rest
  | c =>
    if isSpace c then
      some (.blank (c == ' ' && (rest.takeWhile isSpace).isEmpty), rest.dropWhile isSpace)
    else if isBare c then some (.bare (c :: rest.takeWhile isBare), rest.dropWhile isBare)
    else none

def tokensWithin : Nat → List Char → Option (List Token)
  | _, [] => some []
  | 0, _ => none
  | fuel + 1, c :: rest => do
    let (token, rest) ← next c rest
    let tokens ← tokensWithin fuel rest
    return token :: tokens

def tokens? (text : List Char) : Option (List Token) :=
  let folded := foldLineEnds (match text with | '\uFEFF' :: rest => rest | text => text)
  tokensWithin (folded.length + 1) folded

end NmeaReceiver.Settings.Document
