import NmeaReceiver.Proofs.Line.Chunks
import NmeaReceiver.Proofs.Sentence.Classification
import NmeaReceiver.Proofs.Text.Lenient

/-! Line noise in octets. Whatever stands before a sentence on the wire and holds neither a `$` nor a
newline, well-formed or not, is read as characters that are no `$`. So the sentence that follows is
framed by its own mark, and its line is the sentence. -/
namespace NmeaReceiver.Line.Noise
open NmeaReceiver.Text
open NmeaReceiver.Sentence (LineEnds bytes)

structure Sent (text : List Char) : Prop where
  ascii : ∀ c ∈ text, c.toNat < 0x80
  oneLine : '\n' ∉ text
  framed : ∀ shown, Sentence.ofLine text ≠ .invalid (.framing shown)

variable {limit : Nat} {noise ending : Octets} {text : List Char}

theorem asciiBytes (ascii : ∀ c ∈ text, c.toNat < 0x80) :
    bytes text = text.map fun c => c.toNat.toUInt8 := by
  unfold bytes
  induction text with
  | nil => rfl
  | cons c rest ih =>
    have small := ascii c List.mem_cons_self
    have encoded : String.utf8EncodeChar c = [c.toNat.toUInt8] := by
      simp [String.utf8EncodeChar, show c.toNat ≤ 127 by omega]
    rw [List.flatMap_cons, encoded, ih fun other member => ascii other (List.mem_cons_of_mem c member)]
    rfl

theorem decodeNoise (noise : Octets) (ascii : ∀ c ∈ text, c.toNat < 0x80) :
    Utf8.decode (noise ++ bytes text) = Utf8.decode noise ++ text := by
  rw [asciiBytes ascii]
  cases text with
  | nil => simp
  | cons c rest =>
    have small := ascii c List.mem_cons_self
    have single : c.toNat.toUInt8.toNat < 0x80 := by
      rw [Utf8.asciiNumber small]
      exact small
    have whole := Utf8.decodeAscii ascii
    rw [List.map_cons] at whole ⊢
    rw [Utf8.decodeSplit noise single, whole]

theorem noiseMarkless (free : 36 ∉ noise) : '$' ∉ Utf8.decode noise := by
  intro read
  obtain ⟨octet, member, same⟩ := Utf8.decodeRead read (by decide)
  have mark : octet = 36 := UInt8.toNat_inj.mp same
  exact free (mark ▸ member)

theorem textOfEnds (segment : Octets) :
    ∃ ends, Utf8.decode segment = textOf segment ++ ends ∧ LineEnds ends := by
  refine ⟨((Utf8.decode segment).reverse.takeWhile (· == '\r')).reverse, ?_, ?_⟩
  · rw [textOf, ← List.reverse_append, List.takeWhile_append_dropWhile, List.reverse_reverse]
  · intro c member
    have returned := List.mem_takeWhile_imp (List.mem_reverse.mp member)
    exact .inl (beq_iff_eq.mp returned)

theorem ofLineEnds (line : List Char) {ends : List Char} (only : LineEnds ends) :
    Sentence.ofLine (line ++ ends) = Sentence.ofLine line := by
  rw [Sentence.ofLineFrame,
    Sentence.strippedTrims (Sentence.strippedEnds (Sentence.trimStrips line) only),
    ← Sentence.ofLineFrame]

theorem ofLineTextOf (segment : Octets) :
    Sentence.ofLine (textOf segment) = Sentence.ofLine (Utf8.decode segment) := by
  obtain ⟨ends, same, only⟩ := textOfEnds segment
  rw [same, ofLineEnds _ only]

theorem newlineFreeBytes (ascii : ∀ c ∈ text, c.toNat < 0x80) (oneLine : '\n' ∉ text) :
    10 ∉ bytes text := by
  intro member
  rw [asciiBytes ascii] at member
  obtain ⟨c, among, same⟩ := List.mem_map.mp member
  have number := Utf8.asciiNumber (ascii c among)
  rw [same] at number
  have newline : c = '\n' := Char.toNat_inj.mp number.symm
  exact oneLine (newline ▸ among)

-- The segment of a sentence is sent with what of the line end stands before the newline.
theorem returnedAscii (sent : Sent text) {ends : List Char} (returns : ∀ c ∈ ends, c = '\r') :
    (∀ c ∈ text ++ ends, c.toNat < 0x80) ∧ '\n' ∉ text ++ ends := by
  constructor
  · intro c member
    rcases List.mem_append.mp member with inside | behind
    · exact sent.ascii c inside
    · rw [returns c behind]
      decide
  · intro member
    rcases List.mem_append.mp member with inside | behind
    · exact sent.oneLine inside
    · exact absurd (returns _ behind) (by decide)

theorem noisySentence (sent : Sent text) (unmarked : 36 ∉ noise) {ends : List Char}
    (returns : ∀ c ∈ ends, c = '\r') :
    Sentence.ofLine (textOf (noise ++ bytes (text ++ ends))) = Sentence.ofLine text := by
  obtain ⟨ascii, _⟩ := returnedAscii sent returns
  have same := ofLineEnds text fun c member => .inl (returns c member)
  have framed := sent.framed
  rw [← same] at framed
  rw [ofLineTextOf, decodeNoise noise ascii, Sentence.noiseSame (noiseMarkless unmarked) framed, same]

inductive Ending : List Char → Prop where
  | newline : Ending ['\n']
  | returned : Ending ['\r', '\n']

theorem endingParts {ending : List Char} (ends : Ending ending) :
    ∃ returns, ending = returns ++ ['\n'] ∧ ∀ c ∈ returns, c = '\r' := by
  cases ends with
  | newline => exact ⟨[], rfl, nofun⟩
  | returned => exact ⟨['\r'], rfl, fun c member => List.mem_singleton.mp member⟩

/-- Noise on the wire before a sentence changes nothing: one line comes of both, however the octets
are cut into chunks, nothing is left, and the line is the sentence. -/
theorem noiseHarmless (sent : Sent text) (unmarked : 36 ∉ noise) (unbroken : 10 ∉ noise)
    {ending : List Char} (ends : Ending ending)
    (fits : (noise ++ bytes (text ++ ending)).length ≤ limit) :
    ∃ line, cut limit (noise ++ bytes (text ++ ending)) = (.line line, []) ∧
      (∀ chunks : List Octets, (∀ chunk ∈ chunks, chunk ≠ []) →
        chunks.flatten = noise ++ bytes (text ++ ending) →
        Chunks.lines (Chunks.decodeChunks limit chunks) = [line]) ∧
      Sentence.ofLine line = Sentence.ofLine text := by
  obtain ⟨returns, rfl, only⟩ := endingParts ends
  obtain ⟨ascii, oneLine⟩ := returnedAscii sent only
  have stream : noise ++ bytes (text ++ (returns ++ ['\n'])) =
      (noise ++ bytes (text ++ returns)) ++ 10 :: [] := by
    rw [← List.append_assoc text, bytes, List.flatMap_append, List.append_assoc]
    rfl
  have clean : 10 ∉ noise ++ bytes (text ++ returns) := by
    rw [List.mem_append]
    exact not_or.mpr ⟨unbroken, newlineFreeBytes ascii oneLine⟩
  rw [stream] at fits ⊢
  have short : (noise ++ bytes (text ++ returns)).length < limit := by
    rw [List.length_append, List.length_singleton] at fits
    exact fits
  refine ⟨textOf (noise ++ bytes (text ++ returns)), ?_, ?_, noisySentence sent unmarked only⟩
  · rw [cutCons limit clean, if_pos short]
  · intro chunks filled parts
    have result := Chunks.chunksResult limit chunks filled
    rw [result.delivered, parts, endedCons clean, endedNone List.not_mem_nil,
      List.takeWhile_cons_of_pos (by simpa using short)]
    rfl

theorem noiseOfHalfACharacter :
    let text := "$GPXYZ,1*51".toList
    let noise : Octets := [0xFF, 0xC3, 0xA9, 0x0D, 0xF0, 0x9F]
    Sent text ∧ 36 ∉ noise ∧ 10 ∉ noise ∧ (noise ++ bytes (text ++ ['\r', '\n'])).length ≤ 82 ∧
      ∃ line, cut 82 (noise ++ bytes (text ++ ['\r', '\n'])) = (.line line, []) ∧
        (∀ chunks : List Octets, (∀ chunk ∈ chunks, chunk ≠ []) →
          chunks.flatten = noise ++ bytes (text ++ ['\r', '\n']) →
          Chunks.lines (Chunks.decodeChunks 82 chunks) = [line]) ∧
        Sentence.ofLine line = Sentence.ofLine text := by
  intro text noise
  have read : Sentence.ofLine text = .unrecognized (text.tail.take 7) := by decide
  have ascii : text.all (fun c => c.toNat < 0x80) = true := rfl
  have sent : Sent text := by
    refine ⟨fun c member => ?_, by decide, fun shown => ?_⟩
    · exact of_decide_eq_true (List.all_eq_true.mp ascii c member)
    · rw [read]
      exact nofun
  have unmarked : 36 ∉ noise := by decide
  have unbroken : 10 ∉ noise := by decide
  have fits : (noise ++ bytes (text ++ ['\r', '\n'])).length ≤ 82 := by decide
  exact ⟨sent, unmarked, unbroken, fits, noiseHarmless sent unmarked unbroken .returned fits⟩

end NmeaReceiver.Line.Noise
