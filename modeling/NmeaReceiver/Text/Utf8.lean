/-! UTF-8. One machine reads octets and yields a character for each well-formed sequence and
a gap for each maximal ill-formed part; strict reading refuses gaps, lenient reading shows
them as U+FFFD. An octet below 0x80 is always read as itself. -/
namespace NmeaReceiver.Text.Utf8

/-- What the octets after a lead must be: how many follow the next one, the bounds of the
next one, and the bits read so far. -/
structure Owed where
  more : Nat
  low : Nat
  high : Nat
  bits : Nat
  continues : 0x80 ≤ low := by decide
  deriving DecidableEq

def owed? (octet : Nat) : Option Owed :=
  if 0xC2 ≤ octet ∧ octet ≤ 0xDF then some { more := 0, low := 0x80, high := 0xBF, bits := octet - 0xC0 }
  else if octet = 0xE0 then some { more := 1, low := 0xA0, high := 0xBF, bits := 0 }
  else if octet = 0xED then some { more := 1, low := 0x80, high := 0x9F, bits := 13 }
  else if 0xE1 ≤ octet ∧ octet ≤ 0xEF then some { more := 1, low := 0x80, high := 0xBF, bits := octet - 0xE0 }
  else if octet = 0xF0 then some { more := 2, low := 0x90, high := 0xBF, bits := 0 }
  else if 0xF1 ≤ octet ∧ octet ≤ 0xF3 then some { more := 2, low := 0x80, high := 0xBF, bits := octet - 0xF0 }
  else if octet = 0xF4 then some { more := 2, low := 0x80, high := 0x8F, bits := 4 }
  else none

def start (octet : Nat) : List (Option Char) × Option Owed :=
  if octet < 0x80 then ([some (Char.ofNat octet)], none)
  else match owed? octet with
    | some owed => ([], some owed)
    | none => ([none], none)

def step (state : Option Owed) (octet : Nat) : List (Option Char) × Option Owed :=
  match state with
  | none => start octet
  | some owed =>
    if owed.low ≤ octet ∧ octet ≤ owed.high then
      let bits := owed.bits * 64 + (octet - 0x80)
      match owed.more with
      | 0 => ([some (Char.ofNat bits)], none)
      | more + 1 => ([], some { more := more, low := 0x80, high := 0xBF, bits := bits })
    else (none :: (start octet).1, (start octet).2)

def scan : Option Owed → List UInt8 → List (Option Char)
  | none, [] => []
  | some _, [] => [none]
  | state, octet :: rest => (step state octet.toNat).1 ++ scan (step state octet.toNat).2 rest

def decode (octets : List UInt8) : List Char :=
  (scan none octets).map fun c => c.getD '\uFFFD'

def decode? (octets : List UInt8) : Option (List Char) :=
  (scan none octets).mapM id

theorem startAscii {octet : Nat} (ascii : octet < 0x80) :
    start octet = ([some (Char.ofNat octet)], none) := by
  simp [start, ascii]

theorem stepBetween (octet : Nat) : step none octet = start octet := rfl

theorem stepAscii (owed : Owed) {octet : Nat} (ascii : octet < 0x80) :
    step (some owed) octet = ([none, some (Char.ofNat octet)], none) := by
  have outside : ¬ (owed.low ≤ octet ∧ octet ≤ owed.high) := by
    have := owed.continues; omega
  simp [step, outside, startAscii ascii]

end NmeaReceiver.Text.Utf8
