import Mathlib.Data.List.Basic
import Mathlib.Data.List.TakeWhile
import NmeaReceiver.Sentence.Frame

/-! Frames told by the parts of a text: noise, the first `$`, a body without `*`, and after a `*` the
two digits of a checksum. -/
namespace NmeaReceiver.Sentence

def LineEnds (ends : List Char) : Prop := ∀ c ∈ ends, c = '\r' ∨ c = '\n'

def Bare (text : List Char) : Prop := ∀ c ∈ text.getLast?, c ≠ '\r' ∧ c ≠ '\n'

structure Stripped (line text : List Char) : Prop where
  parts : ∃ ends, line = text ++ ends ∧ LineEnds ends
  bare : Bare text

def HexDigit (c : Char) (value : Nat) : Prop := value < 16 ∧ c.toLower = Nat.digitChar value

inductive HexByte : Nat → List Char → Prop where
  | pair {first second : Char} {high low : Nat} (upper : HexDigit first high)
      (lower : HexDigit second low) : HexByte (high * 16 + low) [first, second]

inductive Framed : List Char → List Char → Option Nat → Prop where
  | plain {noise body : List Char} (ahead : '$' ∉ noise) (whole : '*' ∉ body) :
      Framed (noise ++ '$' :: body) body none
  | summed {noise body digits : List Char} {given : Nat} (ahead : '$' ∉ noise) (whole : '*' ∉ body)
      (spelled : HexByte given digits) :
      Framed (noise ++ '$' :: (body ++ '*' :: digits)) body (some given)

inductive Unframed : List Char → Prop where
  | unmarked {text : List Char} (absent : '$' ∉ text) : Unframed text
  | unspelled {noise body rest : List Char} (ahead : '$' ∉ noise) (whole : '*' ∉ body)
      (other : ∀ given, ¬ HexByte given rest) : Unframed (noise ++ '$' :: (body ++ '*' :: rest))

def bytes (body : List Char) : List UInt8 := body.flatMap String.utf8EncodeChar

def xorOf (bytes : List UInt8) : UInt8 := bytes.foldl (· ^^^ ·) 0

section Ends

variable {line text ends : List Char}

theorem isLineEndIff {c : Char} : isLineEnd c = true ↔ c = '\r' ∨ c = '\n' := by
  simp [isLineEnd]

theorem strippedTrims (stripped : Stripped line text) : trimLineEnd line = text := by
  obtain ⟨⟨ends, rfl, only⟩, bare⟩ := stripped
  have gone : ∀ c ∈ ends.reverse, isLineEnd c = true := fun c member =>
    isLineEndIff.mpr (only c (List.mem_reverse.mp member))
  have kept : text.reverse.dropWhile isLineEnd = text.reverse := by
    cases reversed : text.reverse with
    | nil => rfl
    | cons c rest =>
      have last : text.getLast? = some c := by rw [← List.head?_reverse, reversed]; rfl
      have stays : isLineEnd c = false := by simp [isLineEnd, bare c last]
      simp [stays]
  rw [trimLineEnd, List.reverse_append, List.dropWhile_append_of_pos gone, kept, List.reverse_reverse]

theorem trimStrips (line : List Char) : Stripped line (trimLineEnd line) := by
  constructor
  case parts =>
    refine ⟨(line.reverse.takeWhile isLineEnd).reverse, ?_, ?_⟩
    · rw [trimLineEnd, ← List.reverse_append, List.takeWhile_append_dropWhile, List.reverse_reverse]
    · intro c member
      exact isLineEndIff.mp (List.mem_takeWhile_imp (List.mem_reverse.mp member))
  case bare =>
    intro c last
    rw [trimLineEnd, List.getLast?_reverse] at last
    have stays := List.head?_dropWhile_not isLineEnd line.reverse
    rw [Option.mem_def.mp last] at stays
    simpa [isLineEnd] using stays

theorem strippedEnds (stripped : Stripped line text) (only : LineEnds ends) :
    Stripped (line ++ ends) text := by
  obtain ⟨⟨before, rfl, first⟩, bare⟩ := stripped
  refine ⟨⟨before ++ ends, List.append_assoc _ _ _, ?_⟩, bare⟩
  intro c member
  exact (List.mem_append.mp member).elim (first c) (only c)

theorem bareAfter {front rest : List Char} {c : Char} (bare : Bare (c :: rest)) :
    Bare (front ++ c :: rest) := by
  intro last member
  rw [List.getLast?_append, Option.or_of_isSome (by simp)] at member
  exact bare last member

theorem strippedNoise {noise rest : List Char} {c : Char} (stripped : Stripped line (c :: rest)) :
    Stripped (noise ++ line) (noise ++ c :: rest) := by
  obtain ⟨⟨ends, rfl, only⟩, bare⟩ := stripped
  exact ⟨⟨ends, (List.append_assoc _ _ _).symm, only⟩, bareAfter bare⟩

end Ends

section Hex

theorem digitCharAscii {value : Nat} (small : value < 16) : (Nat.digitChar value).toNat < 128 := by
  revert value
  decide

theorem toLowerAscii {c : Char} (ascii : c.toLower.toNat < 128) : c.toNat < 128 := by
  unfold Char.toLower at ascii
  split at ascii
  · rename_i upper
    have bound : c.val ≤ 'Z'.val := upper.2
    have number : c.toNat ≤ 90 := bound
    omega
  · exact ascii

theorem hexValueAscii {n : Nat} (small : n < 128) {value : Nat} (digit : value < 16) :
    hexValue? (Char.ofNat n) = some value ↔ (Char.ofNat n).toLower = Nat.digitChar value := by
  revert n value
  decide +kernel

theorem hexValueBounds {c : Char} {value : Nat} (found : hexValue? c = some value) :
    c.toNat < 128 ∧ value < 16 := by
  have bound {a b : Char} (below : a ≤ b) : a.toNat ≤ b.toNat := below
  unfold hexValue? at found
  split at found
  · rename_i range
    have := bound range.2
    have nine : '9'.toNat = 57 := rfl
    cases found
    omega
  · split at found
    · rename_i range
      have := bound range.2
      have nine : 'F'.toNat = 70 := rfl
      cases found
      omega
    · split at found
      · rename_i range
        have := bound range.2
        have nine : 'f'.toNat = 102 := rfl
        cases found
        omega
      · cases found

theorem hexValueIff {c : Char} {value : Nat} : hexValue? c = some value ↔ HexDigit c value := by
  constructor
  · intro found
    obtain ⟨ascii, small⟩ := hexValueBounds found
    refine ⟨small, ?_⟩
    have same := hexValueAscii ascii small
    rw [Char.ofNat_toNat] at same
    exact same.mp found
  · rintro ⟨small, spelled⟩
    have ascii : c.toNat < 128 := toLowerAscii (spelled ▸ digitCharAscii small)
    have same := hexValueAscii ascii small
    rw [Char.ofNat_toNat] at same
    exact same.mpr spelled

theorem hexByteIff {digits : List Char} {given : Nat} :
    hexByte? digits = some given ↔ HexByte given digits := by
  constructor
  · intro found
    match digits with
    | [] => cases found
    | [_] => cases found
    | _ :: _ :: _ :: _ => cases found
    | [first, second] =>
      obtain ⟨high, upper, rest⟩ := Option.bind_eq_some_iff.mp found
      obtain ⟨low, lower, same⟩ := Option.bind_eq_some_iff.mp rest
      cases same
      exact .pair (hexValueIff.mp upper) (hexValueIff.mp lower)
  · rintro ⟨upper, lower⟩
    exact Option.bind_eq_some_iff.mpr ⟨_, hexValueIff.mpr upper,
      Option.bind_eq_some_iff.mpr ⟨_, hexValueIff.mpr lower, rfl⟩⟩

theorem hexByteCase {digits others : List Char} {given : Nat} (spelled : HexByte given digits)
    (same : others.map Char.toLower = digits.map Char.toLower) : HexByte given others := by
  obtain ⟨upper, lower⟩ := spelled
  obtain ⟨first, second, rfl⟩ : ∃ first second, others = [first, second] :=
    List.length_eq_two.mp (by simpa using congrArg List.length same)
  simp only [List.map_cons, List.map_nil, List.cons.injEq, and_true] at same
  obtain ⟨one, two⟩ := same
  exact .pair ⟨upper.1, one.trans upper.2⟩ ⟨lower.1, two.trans lower.2⟩

theorem hexByteBare {front digits : List Char} {given : Nat} (spelled : HexByte given digits) :
    Bare (front ++ digits) := by
  obtain ⟨upper, lower⟩ := spelled
  refine bareAfter ?_
  rintro c ⟨⟩
  constructor
  · rintro rfl
    have none := hexValueIff.mpr lower
    cases none
  · rintro rfl
    have none := hexValueIff.mpr lower
    cases none

end Hex

section Frames

variable {noise body rest text : List Char} {given : Option Nat}

theorem skipNoise (ahead : '$' ∉ noise) :
    (noise ++ text).dropWhile (· != '$') = text.dropWhile (· != '$') := by
  refine List.dropWhile_append_of_pos fun c member => ?_
  have other : c ≠ '$' := fun same => ahead (same ▸ member)
  simpa using other

theorem frameNoise (ahead : '$' ∉ noise) : Frame.of? (noise ++ text) = Frame.of? text := by
  rw [Frame.of?, skipNoise ahead, Frame.of?]

theorem frameMarked : Frame.of? ('$' :: text) =
    match text.dropWhile (· != '*') with
    | [] => some ⟨text.takeWhile (· != '*'), none⟩
    | _ :: digits => (hexByte? digits).map fun given => ⟨text.takeWhile (· != '*'), some given⟩ := rfl

theorem starFree (whole : '*' ∉ body) : ∀ c ∈ body, (c != '*') = true := by
  intro c member
  have other : c ≠ '*' := fun same => whole (same ▸ member)
  simpa using other

theorem framePlain (ahead : '$' ∉ noise) (whole : '*' ∉ body) :
    Frame.of? (noise ++ '$' :: body) = some ⟨body, none⟩ := by
  have taken : body.takeWhile (· != '*') = body := List.takeWhile_eq_self_iff.mpr (starFree whole)
  have dropped : body.dropWhile (· != '*') = [] := List.dropWhile_eq_nil_iff.mpr (starFree whole)
  rw [frameNoise ahead, frameMarked, dropped, taken]

theorem frameSummed (ahead : '$' ∉ noise) (whole : '*' ∉ body) :
    Frame.of? (noise ++ '$' :: (body ++ '*' :: rest)) =
      (hexByte? rest).map fun given => ⟨body, some given⟩ := by
  have taken : (body ++ '*' :: rest).takeWhile (· != '*') = body := by
    rw [List.takeWhile_append_of_pos (starFree whole)]
    simp
  have dropped : (body ++ '*' :: rest).dropWhile (· != '*') = '*' :: rest := by
    rw [List.dropWhile_append_of_pos (starFree whole)]
    simp
  rw [frameNoise ahead, frameMarked, dropped, taken]

theorem framedFrame (framed : Framed text body given) : Frame.of? text = some ⟨body, given⟩ := by
  cases framed with
  | plain ahead whole => exact framePlain ahead whole
  | summed ahead whole spelled =>
    rw [frameSummed ahead whole, hexByteIff.mpr spelled]
    rfl

theorem unframedFrame (unframed : Unframed text) : Frame.of? text = none := by
  cases unframed with
  | unmarked absent => exact frameNeedsDollar absent
  | @unspelled noise body rest ahead whole other =>
    rw [frameSummed ahead whole]
    cases found : hexByte? rest with
    | none => rfl
    | some given => exact absurd (hexByteIff.mp found) (other given)

theorem framedOrNot (text : List Char) : Unframed text ∨ ∃ body given, Framed text body given := by
  by_cases marked : '$' ∈ text
  · obtain ⟨noise, inner, rfl, ahead⟩ := List.eq_append_cons_of_mem marked
    by_cases starred : '*' ∈ inner
    · obtain ⟨body, rest, rfl, whole⟩ := List.eq_append_cons_of_mem starred
      cases found : hexByte? rest with
      | some given => exact .inr ⟨body, some given, .summed ahead whole (hexByteIff.mp found)⟩
      | none =>
        refine .inl (.unspelled ahead whole fun given spelled => ?_)
        rw [hexByteIff.mpr spelled] at found
        cases found
    · exact .inr ⟨inner, none, .plain ahead starred⟩
  · exact .inl (.unmarked marked)

theorem framedIff : Frame.of? text = some ⟨body, given⟩ ↔ Framed text body given := by
  constructor
  · intro found
    rcases framedOrNot text with unframed | ⟨other, sum, framed⟩
    · rw [unframedFrame unframed] at found
      cases found
    · rw [framedFrame framed] at found
      cases found
      exact framed
  · exact framedFrame

end Frames

section Sums

def Printable (body : List Char) : Prop := ∀ c ∈ body, 0x20 ≤ c.toNat ∧ c.toNat ≤ 0x7E

theorem printableIff {body : List Char} : body.all isPrintable = true ↔ Printable body := by
  have char (c : Char) : isPrintable c = true ↔ 0x20 ≤ c.toNat ∧ c.toNat ≤ 0x7E := by
    rw [isPrintable, Bool.and_eq_true, decide_eq_true_iff, decide_eq_true_iff]
    exact Iff.rfl
  simp only [List.all_eq_true, char, Printable]

theorem foldXor (body : List Char) (small : ∀ c ∈ body, c.toNat < 128) (sum : UInt8) :
    ((bytes body).foldl (· ^^^ ·) sum).toNat = body.foldl (fun sum c => sum ^^^ c.toNat) sum.toNat := by
  induction body generalizing sum with
  | nil => rfl
  | cons c rest ih =>
    have ascii := small c List.mem_cons_self
    have encoded : String.utf8EncodeChar c = [c.toNat.toUInt8] := by
      simp [String.utf8EncodeChar, show c.toNat ≤ 127 by omega]
    have number : c.toNat.toUInt8.toNat = c.toNat := by simp; omega
    have later := ih (fun other member => small other (List.mem_cons_of_mem c member))
      (sum ^^^ c.toNat.toUInt8)
    rw [UInt8.toNat_xor, number] at later
    rw [bytes, List.flatMap_cons, encoded]
    exact later

theorem checksumBytes {body : List Char} (printable : Printable body) :
    checksum body = (xorOf (bytes body)).toNat := by
  have small : ∀ c ∈ body, c.toNat < 128 := by
    intro c member
    have range := printable c member
    omega
  exact (foldXor body small 0).symm

end Sums

end NmeaReceiver.Sentence
