import NmeaReceiver.Text.Utf8

/-! Lines in a stream of octets. A line ends at a newline; fewer octets than the limit may
stand before it, and no more may wait for it. -/
namespace NmeaReceiver.Line
open NmeaReceiver.Text

abbrev Octets := List UInt8

def standardLimit : Nat := 82

def isNewline (octet : UInt8) : Bool := octet == 10

/-- The text of a line's octets: ill-formed parts show as U+FFFD, carriage returns at the end
are dropped. -/
def textOf (segment : Octets) : List Char :=
  ((Utf8.decode segment).reverse.dropWhile (· == '\r')).reverse

inductive Cut where
  | line (text : List Char)
  | tooLong (length : Nat)
  | incomplete
  | unfinished
  deriving DecidableEq, Repr

def cut (limit : Nat) (buffer : Octets) : Cut × Octets :=
  match buffer.dropWhile (!isNewline ·) with
  | [] =>
    if limit ≤ buffer.length then (.tooLong buffer.length, buffer) else (.incomplete, buffer)
  | _ :: rest =>
    let segment := buffer.takeWhile (!isNewline ·)
    if segment.length < limit then (.line (textOf segment), rest)
    else (.tooLong (segment.length + 1), buffer)

def cutAtEnd (limit : Nat) (buffer : Octets) : Cut × Octets :=
  match cut limit buffer with
  | (.incomplete, rest) => if rest.isEmpty then (.incomplete, rest) else (.unfinished, rest)
  | other => other

def overflowMessage (length : Nat) : String :=
  "line exceeded " ++ toString length ++ " bytes without a line ending"

def unfinishedMessage : String := "bytes remaining on stream"

theorem cutLine {limit : Nat} {buffer rest : Octets} {text : List Char}
    (found : cut limit buffer = (.line text, rest)) :
    ∃ segment, buffer = segment ++ 10 :: rest ∧ segment.length < limit ∧
      segment.all (!isNewline ·) = true ∧ text = textOf segment := by
  unfold cut at found
  split at found
  · split at found <;> simp at found
  · rename_i octet after ends
    dsimp only at found
    split at found
    · rename_i short
      simp only [Prod.mk.injEq, Cut.line.injEq] at found
      obtain ⟨rfl, rfl⟩ := found
      have stop := List.head?_dropWhile_not (!isNewline ·) buffer
      rw [ends] at stop
      have ten : octet = 10 := by simpa [isNewline] using stop
      refine ⟨buffer.takeWhile (!isNewline ·), ?_, short, ?_, rfl⟩
      · rw [← ten, ← ends, List.takeWhile_append_dropWhile]
      · exact List.all_takeWhile
    · simp at found

end NmeaReceiver.Line
