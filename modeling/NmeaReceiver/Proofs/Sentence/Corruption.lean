import Mathlib.Data.Nat.Bitwise
import NmeaReceiver.Fix.State
import NmeaReceiver.Proofs.Sentence.Classification

/-! A line with a checksum in which one character was replaced. The sum tells any other printable
character, since of two sums only what differs is left; a new `*`, and a digit that is none, leave
no frame. -/
namespace NmeaReceiver.Sentence
open NmeaReceiver.Fix (Clock State extract)

def assembled (noise body digits ends : List Char) : List Char :=
  noise ++ '$' :: (body ++ '*' :: digits) ++ ends

structure Summed (line noise body digits ends : List Char) : Prop where
  parts : line = assembled noise body digits ends
  ahead : '$' ∉ noise
  whole : '*' ∉ body
  spelled : ∃ given, HexByte given digits
  only : LineEnds ends

inductive Replaced (old new : Char) : List Char → List Char → Prop where
  | one (before after : List Char) : Replaced old new (before ++ old :: after) (before ++ new :: after)

def Shown (c : Char) : Prop := 0x20 ≤ c.toNat ∧ c.toNat ≤ 0x7E

inductive SpoilsBody (new : Char) (body digits line : List Char) : Refusal → Prop where
  | unframes (star : new = '*') : SpoilsBody new body digits line (.framing (trimLineEnd line))
  | strange (outside : ¬ Shown new) : SpoilsBody new body digits line (.nonPrintable body)
  | differs {given : Nat} (other : new ≠ '*') (shown : Shown new) (spelled : HexByte given digits) :
      SpoilsBody new body digits line (.checksum body given (xorOf (bytes body)).toNat)

inductive SpoilsDigits (new : Char) (body digits line : List Char) : Refusal → Prop where
  | unframes (none : ∀ value, ¬ HexDigit new value) :
      SpoilsDigits new body digits line (.framing (trimLineEnd line))
  | differs {value given : Nat} (digit : HexDigit new value) (spelled : HexByte given digits) :
      SpoilsDigits new body digits line (.checksum body given (xorOf (bytes body)).toNat)

structure Refused (line : List Char) (refusal : Refusal) : Prop where
  told : ofLine line = .invalid refusal
  kept : ∀ (clock : Clock) (s : State), s.ingest clock line = s

variable {old new : Char} {noise body digits ends other line : List Char} {given : Nat}

theorem refusedLine {refusal : Refusal} (told : ofLine line = .invalid refusal) : Refused line refusal :=
  ⟨told, fun clock s => by simp [State.ingest, told, extract]⟩

theorem framedSummed (framed : Frame.of? (trimLineEnd line) = some ⟨body, some given⟩) :
    ∃ noise digits ends, Summed line noise body digits ends := by
  have found := framedIff.mp framed
  obtain ⟨ends, parts, only⟩ := (trimStrips line).parts
  generalize trimLineEnd line = text at found parts
  cases found with
  | summed ahead whole spelled => exact ⟨_, _, ends, parts, ahead, whole, ⟨_, spelled⟩, only⟩

section Sums

theorem checksumInjective {before after : List Char}
    (same : checksum (before ++ old :: after) = checksum (before ++ new :: after)) : old = new := by
  have single (c : Char) : checksum (before ++ c :: after) =
      checksum before ^^^ (c.toNat ^^^ checksum after) := by
    have cut : before ++ c :: after = before ++ ([c] ++ after) := rfl
    have alone : checksum [c] = c.toNat := Nat.zero_xor _
    rw [cut, checksumAppend, checksumAppend, alone]
  rw [single, single] at same
  exact Char.toNat_inj.mp (Nat.xor_left_inj.mp (Nat.xor_right_inj.mp same))

theorem replacedSum (printable : Printable body) (shown : Printable other)
    (changed : Replaced old new body other) (differs : new ≠ old) :
    (xorOf (bytes body)).toNat ≠ (xorOf (bytes other)).toNat := by
  intro same
  rw [← checksumBytes printable, ← checksumBytes shown] at same
  cases changed with
  | one before after => exact differs (checksumInjective same).symm

theorem replacedMember (changed : Replaced old new body other) : new ∈ other := by
  cases changed with
  | one before after => simp

theorem replacedLength (changed : Replaced old new body other) : other.length = body.length := by
  cases changed with
  | one before after => simp

theorem replacedKeeps {P : Char → Prop} (changed : Replaced old new body other)
    (all : ∀ c ∈ body, P c) (holds : P new) : ∀ c ∈ other, P c := by
  cases changed with
  | one before after =>
    intro c member
    rcases List.mem_append.mp member with front | back
    · exact all c (List.mem_append_left _ front)
    · rcases List.mem_cons.mp back with same | behind
      · exact same ▸ holds
      · exact all c (List.mem_append_right _ (List.mem_cons_of_mem _ behind))

end Sums

section Digits

theorem hexByteLength (spelled : HexByte given digits) : digits.length = 2 := by
  cases spelled with
  | pair upper lower => rfl

theorem hexByteMember {c : Char} (spelled : HexByte given digits) (member : c ∈ digits) :
    ∃ value, HexDigit c value := by
  cases spelled with
  | pair upper lower =>
    rcases List.mem_cons.mp member with same | last
    · exact ⟨_, same ▸ upper⟩
    · exact ⟨_, List.mem_singleton.mp last ▸ lower⟩

theorem hexByteReplaced {value : Nat} (spelled : HexByte given digits)
    (changed : Replaced old new digits other) (digit : HexDigit new value)
    (differs : new.toLower ≠ old.toLower) : ∃ sum, HexByte sum other ∧ sum ≠ given := by
  have unlike {former : Nat} (was : HexDigit old former) : value ≠ former := by
    intro same
    exact differs (digit.2.trans (same ▸ was.2.symm))
  cases spelled with
  | @pair first second high low upper lower =>
    generalize parts : [first, second] = text at changed
    cases changed with
    | one before after =>
      match before, parts with
      | [], parts =>
        cases parts
        have far := unlike upper
        exact ⟨_, .pair digit lower, by omega⟩
      | [_], parts =>
        cases parts
        have far := unlike lower
        exact ⟨_, .pair upper digit, by omega⟩
      | _ :: _ :: _, parts => simp at parts

end Digits

section Frames

theorem trimAfterStar (front rest : List Char) :
    trimLineEnd (front ++ '*' :: rest) = front ++ '*' :: trimLineEnd rest := by
  obtain ⟨ends, parts, only⟩ := (trimStrips rest).parts
  have bare : Bare ('*' :: trimLineEnd rest) := by
    cases kept : trimLineEnd rest with
    | nil => simp [Bare]
    | cons c more =>
      have stays := (trimStrips rest).bare
      rw [kept] at stays
      exact @bareAfter ['*'] more c stays
  have whole : front ++ '*' :: rest = (front ++ '*' :: trimLineEnd rest) ++ ends := by
    rw [List.append_assoc, List.cons_append, ← parts]
  exact strippedTrims ⟨⟨ends, whole, only⟩, bareAfter bare⟩

theorem trimAssembled : trimLineEnd (assembled noise body digits ends) =
    noise ++ '$' :: (body ++ '*' :: trimLineEnd (digits ++ ends)) := by
  have parts : assembled noise body digits ends = (noise ++ '$' :: body) ++ '*' :: (digits ++ ends) := by
    simp [assembled]
  rw [parts, trimAfterStar, List.append_assoc, List.cons_append]

theorem refusedUnspelled (ahead : '$' ∉ noise) (whole : '*' ∉ body)
    (other : ∀ given, ¬ HexByte given (trimLineEnd (digits ++ ends))) :
    ofLine (assembled noise body digits ends) =
      .invalid (.framing (trimLineEnd (assembled noise body digits ends))) := by
  refine ofLineUnframed (trimStrips _) ?_
  rw [trimAssembled]
  exact .unspelled ahead whole other

theorem starUnframes {before after : List Char} (ahead : '$' ∉ noise) (free : '*' ∉ before) :
    ofLine (assembled noise (before ++ '*' :: after) digits ends) =
      .invalid (.framing (trimLineEnd (assembled noise (before ++ '*' :: after) digits ends))) := by
  have parts : assembled noise (before ++ '*' :: after) digits ends =
      assembled noise before (after ++ '*' :: digits) ends := by
    simp [assembled]
  rw [parts]
  refine refusedUnspelled ahead free fun sum spelled => ?_
  rw [List.append_assoc, List.cons_append, trimAfterStar] at spelled
  obtain ⟨value, digit⟩ := hexByteMember spelled (List.mem_append_right after List.mem_cons_self)
  have none := hexValueIff.mpr digit
  cases none

theorem digitUnframes (ahead : '$' ∉ noise) (whole : '*' ∉ body) (pair : digits.length = 2)
    (member : new ∈ digits) (none : ∀ value, ¬ HexDigit new value) :
    ofLine (assembled noise body digits ends) =
      .invalid (.framing (trimLineEnd (assembled noise body digits ends))) := by
  refine refusedUnspelled ahead whole fun sum spelled => ?_
  obtain ⟨left, parts, _⟩ := (trimStrips (digits ++ ends)).parts
  have lengths := pair.trans (hexByteLength spelled).symm
  obtain ⟨same, _⟩ := List.append_inj parts lengths
  rw [← same] at spelled
  obtain ⟨value, digit⟩ := hexByteMember spelled member
  exact none value digit

theorem validSummed (summed : Summed line noise body digits ends)
    (valid : ∀ refusal, ofLine line ≠ .invalid refusal) :
    Printable body ∧ HexByte (xorOf (bytes body)).toNat digits := by
  obtain ⟨given, spelled⟩ := summed.spelled
  have told : ofLine line = ofFrame ⟨body, some given⟩ := by
    rw [summed.parts]
    exact ofSummed summed.ahead summed.whole spelled summed.only
  have printable : Printable body := by
    by_contra strange
    exact valid _ (told.trans (ofFrameStrange strange))
  have agrees : given = (xorOf (bytes body)).toNat := by
    by_contra differs
    exact valid _ (told.trans (ofFrameDiffers printable differs))
  exact ⟨printable, agrees ▸ spelled⟩

theorem bodyRefused (summed : Summed line noise body digits ends)
    (valid : ∀ refusal, ofLine line ≠ .invalid refusal) (changed : Replaced old new body other)
    (differs : new ≠ old) : ∃ refusal,
      SpoilsBody new other digits (assembled noise other digits ends) refusal ∧
      Refused (assembled noise other digits ends) refusal := by
  obtain ⟨printable, spelled⟩ := validSummed summed valid
  by_cases star : new = '*'
  · subst star
    refine ⟨_, .unframes rfl, refusedLine ?_⟩
    have whole := summed.whole
    cases changed with
    | one before after =>
      exact starUnframes summed.ahead fun member => whole (List.mem_append_left _ member)
  · have whole : '*' ∉ other := by
      intro member
      have plain := replacedKeeps changed (fun c inside => ne_of_mem_of_not_mem inside summed.whole) star
      exact plain '*' member rfl
    have framed := ofSummed summed.ahead whole spelled summed.only
    by_cases shown : Shown new
    · have visible : Printable other := replacedKeeps changed printable shown
      have unlike := replacedSum printable visible changed differs
      exact ⟨_, .differs star shown spelled, refusedLine (framed.trans (ofFrameDiffers visible unlike))⟩
    · have strange : ¬ Printable other := fun visible => shown (visible new (replacedMember changed))
      exact ⟨_, .strange shown, refusedLine (framed.trans (ofFrameStrange strange))⟩

theorem digitsRefused (summed : Summed line noise body digits ends)
    (valid : ∀ refusal, ofLine line ≠ .invalid refusal) (changed : Replaced old new digits other)
    (differs : new.toLower ≠ old.toLower) : ∃ refusal,
      SpoilsDigits new body other (assembled noise body other ends) refusal ∧
      Refused (assembled noise body other ends) refusal := by
  obtain ⟨printable, spelled⟩ := validSummed summed valid
  by_cases digit : ∃ value, HexDigit new value
  · obtain ⟨value, digit⟩ := digit
    obtain ⟨sum, again, unlike⟩ := hexByteReplaced spelled changed digit differs
    have framed := ofSummed summed.ahead summed.whole again summed.only
    exact ⟨_, .differs digit again, refusedLine (framed.trans (ofFrameDiffers printable unlike))⟩
  · have none : ∀ value, ¬ HexDigit new value := fun value found => digit ⟨value, found⟩
    have pair := (replacedLength changed).trans (hexByteLength spelled)
    exact ⟨_, .unframes none,
      refusedLine (digitUnframes summed.ahead summed.whole pair (replacedMember changed) none)⟩

end Frames

theorem corruptionCaught (line : List Char) (valid : ∀ refusal, ofLine line ≠ .invalid refusal) :
    (∀ body given, Frame.of? (trimLineEnd line) = some ⟨body, some given⟩ →
      ∃ noise digits ends, Summed line noise body digits ends) ∧
    ∀ noise body digits ends, Summed line noise body digits ends →
      (∀ old new other, Replaced old new body other → new ≠ old → ∃ refusal,
        SpoilsBody new other digits (assembled noise other digits ends) refusal ∧
        Refused (assembled noise other digits ends) refusal) ∧
      ∀ old new other, Replaced old new digits other → new.toLower ≠ old.toLower → ∃ refusal,
        SpoilsDigits new body other (assembled noise body other ends) refusal ∧
        Refused (assembled noise body other ends) refusal := by
  constructor
  · intro body given framed
    exact framedSummed framed
  · intro noise body digits ends summed
    constructor
    · intro old new other changed differs
      exact bodyRefused summed valid changed differs
    · intro old new other changed differs
      exact digitsRefused summed valid changed differs

theorem corruptionOfOneLetter :
    let line := assembled [] "GPXYZ,1".toList ['5', '1'] ['\r']
    let spoiled := assembled [] "GPXYY,1".toList ['5', '1'] ['\r']
    (∀ refusal, ofLine line ≠ .invalid refusal) ∧
      ∃ refusal, SpoilsBody 'Y' "GPXYY,1".toList ['5', '1'] spoiled refusal ∧ Refused spoiled refusal := by
  intro line spoiled
  have told : ofLine line = .unrecognized "GPXYZ,1".toList := by decide
  have valid : ∀ refusal, ofLine line ≠ .invalid refusal := by simp [told]
  have spelled : HexByte (5 * 16 + 1) ['5', '1'] := .pair ⟨by decide, by decide⟩ ⟨by decide, by decide⟩
  have summed : Summed line [] "GPXYZ,1".toList ['5', '1'] ['\r'] :=
    ⟨rfl, by decide, by decide, ⟨_, spelled⟩, by simp [LineEnds]⟩
  have changed : Replaced 'Z' 'Y' "GPXYZ,1".toList "GPXYY,1".toList := .one "GPXY".toList ",1".toList
  exact ⟨valid, ((corruptionCaught line valid).2 _ _ _ _ summed).1 _ _ _ changed (by decide)⟩

end NmeaReceiver.Sentence
