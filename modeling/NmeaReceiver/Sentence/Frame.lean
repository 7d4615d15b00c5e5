import NmeaReceiver.Text.Written

/-! The frame of a sentence: what stands between the first `$` and the `*` of the checksum.
What comes before the `$` is line noise; a line may do without the checksum. -/
namespace NmeaReceiver.Sentence

structure Frame where
  body : List Char
  checksum : Option Nat
  deriving DecidableEq, Repr

def isLineEnd (c : Char) : Bool := c == '\r' || c == '\n'

def trimLineEnd (line : List Char) : List Char :=
  (line.reverse.dropWhile isLineEnd).reverse

def hexValue? (c : Char) : Option Nat :=
  if '0' ≤ c ∧ c ≤ '9' then some (c.toNat - 48)
  else if 'A' ≤ c ∧ c ≤ 'F' then some (c.toNat - 55)
  else if 'a' ≤ c ∧ c ≤ 'f' then some (c.toNat - 87)
  else none

def hexByte? : List Char → Option Nat
  | [high, low] => do return (← hexValue? high) * 16 + (← hexValue? low)
  | _ => none

def Frame.of? (line : List Char) : Option Frame :=
  match line.dropWhile (· != '$') with
  | [] => none
  | _ :: text =>
    let body := text.takeWhile (· != '*')
    match text.dropWhile (· != '*') with
    | [] => some ⟨body, none⟩
    | _ :: digits => (hexByte? digits).map fun given => ⟨body, some given⟩

def isPrintable (c : Char) : Bool := ' ' ≤ c && c ≤ '~'

def checksum (body : List Char) : Nat :=
  body.foldl (fun sum c => sum ^^^ c.toNat) 0

theorem checksumAppend (a b : List Char) : checksum (a ++ b) = checksum a ^^^ checksum b := by
  have shift : ∀ (b : List Char) (n : Nat),
      b.foldl (fun sum c => sum ^^^ c.toNat) n = n ^^^ b.foldl (fun sum c => sum ^^^ c.toNat) 0 := by
    intro b
    induction b with
    | nil => intro n; simp
    | cons c rest ih =>
      intro n
      simp only [List.foldl_cons]
      rw [ih (n ^^^ c.toNat), ih (0 ^^^ c.toNat), Nat.zero_xor, Nat.xor_assoc]
  unfold checksum
  rw [List.foldl_append, shift b]

theorem frameNeedsDollar {line : List Char} (absent : '$' ∉ line) : Frame.of? line = none := by
  have gone : line.dropWhile (· != '$') = [] := by
    induction line with
    | nil => rfl
    | cons c rest ih =>
      have other : c ≠ '$' := fun same => absent (same ▸ List.mem_cons_self)
      simp [other, ih (fun member => absent (List.mem_cons_of_mem c member))]
  simp [Frame.of?, gone]

end NmeaReceiver.Sentence
