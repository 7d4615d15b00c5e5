import NmeaReceiver.Proofs.Sentence.Framing
import NmeaReceiver.Sentence.Basic

/-! The class of a line. Every text without a line end at its end is of exactly one class, and the
first fault decides: the frame, the characters of the body, the checksum, the address, and last the
fields of the kind that the address names. What is not part of the body does not tell. -/
namespace NmeaReceiver.Sentence

def Addressed (body : List Char) : Prop :=
  5 ≤ body.length ∧ ∀ c ∈ body.take 5, ('A' ≤ c ∧ c ≤ 'Z') ∨ ('0' ≤ c ∧ c ≤ '9')

def Agrees (body : List Char) (given : Option Nat) : Prop :=
  ∀ sum ∈ given, sum = (xorOf (bytes body)).toNat

structure Whole (text body : List Char) : Prop where
  framed : ∃ given, Framed text body given ∧ Agrees body given
  printable : Printable body

def recordOf (talker : Talker) (text : List Char) : Kind → Except Fault Sentence
  | .rmc => (Rmc.read talker text).map .rmc
  | .gga => (Gga.read talker text).map .gga
  | .gsa => (Gsa.read talker text).map .gsa
  | .zda => (Zda.read talker text).map .zda

inductive OfKind (talker : Talker) (text : List Char) (kind : Kind) : Sentence → Prop where
  | record {sentence : Sentence} (read : recordOf talker text kind = .ok sentence) :
      OfKind talker text kind sentence
  | fields {fault : Fault} (stops : recordOf talker text kind = .error fault) :
      OfKind talker text kind (.invalid (.fields kind (fault.report kind text)))

inductive Classed (text : List Char) : Sentence → Prop where
  | framing (unframed : Unframed text) : Classed text (.invalid (.framing text))
  | nonPrintable {body : List Char} {given : Option Nat} (framed : Framed text body given)
      (strange : ¬ Printable body) : Classed text (.invalid (.nonPrintable body))
  | checksum {body : List Char} {given : Nat} (framed : Framed text body (some given))
      (printable : Printable body) (differs : given ≠ (xorOf (bytes body)).toNat) :
      Classed text (.invalid (.checksum body given (xorOf (bytes body)).toNat))
  | address {body : List Char} (whole : Whole text body) (unaddressed : ¬ Addressed body) :
      Classed text (.invalid (.address body))
  | unrecognized {body : List Char} (whole : Whole text body) (addressed : Addressed body)
      (other : ∀ kind : Kind, (body.drop 2).take 3 ≠ kind.name.toList) :
      Classed text (.unrecognized body)
  | known {body : List Char} {kind : Kind} {sentence : Sentence} (whole : Whole text body)
      (addressed : Addressed body) (named : (body.drop 2).take 3 = kind.name.toList)
      (told : OfKind (.ofCode (body.take 2)) (body.drop 5) kind sentence) : Classed text sentence

variable {line text body : List Char} {given : Option Nat}

theorem addressCharIff {c : Char} :
    isAddressChar c = true ↔ ('A' ≤ c ∧ c ≤ 'Z') ∨ ('0' ≤ c ∧ c ≤ '9') := by
  have upper : c.isUpper = true ↔ 'A' ≤ c ∧ c ≤ 'Z' := decide_eq_true_iff
  have digit : c.isDigit = true ↔ '0' ≤ c ∧ c ≤ '9' := by
    simp only [Char.isDigit, Bool.and_eq_true, decide_eq_true_iff]
    exact Iff.rfl
  rw [isAddressChar, Bool.or_eq_true, upper, digit]

theorem kindOfCode {code : List Char} {kind : Kind} :
    Kind.ofCode? code = some kind ↔ code = kind.name.toList := by
  constructor
  · intro found
    unfold Kind.ofCode? at found
    split at found
    · cases found; assumption
    · split at found
      · cases found; assumption
      · split at found
        · cases found; assumption
        · split at found
          · cases found; assumption
          · cases found
  · rintro rfl
    exact Kind.ofCodeName kind

theorem splitAddressed (addressed : Addressed body) :
    Address.split? body =
      some (⟨.ofCode (body.take 2), Kind.ofCode? ((body.drop 2).take 3)⟩, body.drop 5) := by
  have fits : (body.take 5).length = 5 := by
    rw [List.length_take]
    exact Nat.min_eq_left addressed.1
  have chars : (body.take 5).all isAddressChar = true := by
    rw [List.all_eq_true]
    exact fun c member => addressCharIff.mpr (addressed.2 c member)
  simp only [Address.split?]
  rw [if_pos ⟨fits, chars⟩, List.take_take, List.drop_take]
  rfl

theorem splitUnaddressed (unaddressed : ¬ Addressed body) : Address.split? body = none := by
  simp only [Address.split?]
  refine if_neg fun holds => unaddressed ⟨?_, ?_⟩
  · have fits := holds.1
    rw [List.length_take] at fits
    omega
  · exact fun c member => addressCharIff.mp (List.all_eq_true.mp holds.2 c member)

def ofFrame (frame : Frame) : Sentence :=
  if frame.body.all isPrintable then
    match frame.checksum with
    | none => ofBody frame.body
    | some given =>
      if given = checksum frame.body then ofBody frame.body
      else .invalid (.checksum frame.body given (checksum frame.body))
  else .invalid (.nonPrintable frame.body)

theorem ofLineFrame (line : List Char) :
    ofLine line = match Frame.of? (trimLineEnd line) with
      | none => .invalid (.framing (trimLineEnd line))
      | some frame => ofFrame frame := by
  unfold ofLine body? ofFrame
  cases Frame.of? (trimLineEnd line) with
  | none => rfl
  | some frame =>
    obtain ⟨body, checksum⟩ := frame
    dsimp only
    cases body.all isPrintable with
    | false => rfl
    | true =>
      cases checksum with
      | none => rfl
      | some given =>
        by_cases same : given = checksum body <;> simp [same]

theorem ofLineFramed (stripped : Stripped line text) (framed : Framed text body given) :
    ofLine line = ofFrame ⟨body, given⟩ := by
  rw [ofLineFrame, strippedTrims stripped, framedFrame framed]

theorem ofLineUnframed (stripped : Stripped line text) (unframed : Unframed text) :
    ofLine line = .invalid (.framing text) := by
  rw [ofLineFrame, strippedTrims stripped, unframedFrame unframed]

theorem ofFrameStrange (strange : ¬ Printable body) :
    ofFrame ⟨body, given⟩ = .invalid (.nonPrintable body) :=
  if_neg fun printable => strange (printableIff.mp printable)

theorem ofFrameDiffers {sum : Nat} (printable : Printable body)
    (differs : sum ≠ (xorOf (bytes body)).toNat) :
    ofFrame ⟨body, some sum⟩ =
      .invalid (.checksum body sum (xorOf (bytes body)).toNat) := by
  rw [← checksumBytes printable] at differs ⊢
  unfold ofFrame
  rw [if_pos (printableIff.mpr printable)]
  exact if_neg differs

theorem ofFrameAgrees (printable : Printable body) (agrees : Agrees body given) :
    ofFrame ⟨body, given⟩ = ofBody body := by
  unfold ofFrame
  rw [if_pos (printableIff.mpr printable)]
  cases given with
  | none => rfl
  | some sum => exact if_pos ((agrees sum rfl).trans (checksumBytes printable).symm)

theorem ofWhole (stripped : Stripped line text) (whole : Whole text body) :
    ofLine line = ofBody body := by
  obtain ⟨⟨given, framed, agrees⟩, printable⟩ := whole
  rw [ofLineFramed stripped framed, ofFrameAgrees printable agrees]

theorem ofBodyUnaddressed (unaddressed : ¬ Addressed body) :
    ofBody body = .invalid (.address body) := by
  rw [ofBody, splitUnaddressed unaddressed]

theorem ofBodyUnrecognized (addressed : Addressed body)
    (other : ∀ kind : Kind, (body.drop 2).take 3 ≠ kind.name.toList) :
    ofBody body = .unrecognized body := by
  have none : Kind.ofCode? ((body.drop 2).take 3) = none := by
    rw [Option.eq_none_iff_forall_not_mem]
    exact fun kind found => other kind (kindOfCode.mp found)
  rw [ofBody, splitAddressed addressed]
  simp only [none]

theorem ofBodyKnown {kind : Kind} (addressed : Addressed body)
    (named : (body.drop 2).take 3 = kind.name.toList) :
    ofBody body = ofFields (.ofCode (body.take 2)) kind (body.drop 5) := by
  rw [ofBody, splitAddressed addressed]
  simp only [kindOfCode.mpr named]

theorem ofFieldsRecord (talker : Talker) (kind : Kind) (text : List Char) :
    ofFields talker kind text = match recordOf talker text kind with
      | .ok sentence => sentence
      | .error fault => .invalid (.fields kind (fault.report kind text)) := by
  cases kind with
  | rmc => unfold ofFields recordOf ofRecord; cases Rmc.read talker text <;> rfl
  | gga => unfold ofFields recordOf ofRecord; cases Gga.read talker text <;> rfl
  | gsa => unfold ofFields recordOf ofRecord; cases Gsa.read talker text <;> rfl
  | zda => unfold ofFields recordOf ofRecord; cases Zda.read talker text <;> rfl

theorem ofKindIff {talker : Talker} {kind : Kind} {sentence : Sentence} :
    OfKind talker text kind sentence ↔ ofFields talker kind text = sentence := by
  rw [ofFieldsRecord]
  constructor
  · intro told
    cases told with
    | record read => rw [read]
    | fields stops => rw [stops]
  · rintro rfl
    cases read : recordOf talker text kind with
    | ok sentence => exact .record read
    | error fault => exact .fields read

theorem classedLine {sentence : Sentence} (stripped : Stripped line text)
    (classed : Classed text sentence) : ofLine line = sentence := by
  cases classed with
  | framing unframed => exact ofLineUnframed stripped unframed
  | nonPrintable framed strange => rw [ofLineFramed stripped framed, ofFrameStrange strange]
  | checksum framed printable differs =>
    rw [ofLineFramed stripped framed, ofFrameDiffers printable differs]
  | address whole unaddressed => rw [ofWhole stripped whole, ofBodyUnaddressed unaddressed]
  | unrecognized whole addressed other =>
    rw [ofWhole stripped whole, ofBodyUnrecognized addressed other]
  | known whole addressed named told =>
    rw [ofWhole stripped whole, ofBodyKnown addressed named, ofKindIff.mp told]

theorem wholeClassed (whole : Whole text body) : ∃ sentence, Classed text sentence := by
  by_cases addressed : Addressed body
  · by_cases known : ∃ kind : Kind, (body.drop 2).take 3 = kind.name.toList
    · obtain ⟨kind, named⟩ := known
      exact ⟨_, .known whole addressed named (ofKindIff.mpr rfl)⟩
    · exact ⟨_, .unrecognized whole addressed fun kind named => known ⟨kind, named⟩⟩
  · exact ⟨_, .address whole addressed⟩

theorem someClass (text : List Char) : ∃ sentence, Classed text sentence := by
  rcases framedOrNot text with unframed | ⟨body, given, framed⟩
  · exact ⟨_, .framing unframed⟩
  · by_cases printable : Printable body
    · by_cases agrees : Agrees body given
      · exact wholeClassed ⟨⟨given, framed, agrees⟩, printable⟩
      · unfold Agrees at agrees
        push Not at agrees
        obtain ⟨sum, rfl, differs⟩ := agrees
        exact ⟨_, .checksum framed printable differs⟩
    · exact ⟨_, .nonPrintable framed printable⟩

theorem ofLineClassed (stripped : Stripped line text) : Classed text (ofLine line) := by
  obtain ⟨sentence, classed⟩ := someClass text
  rw [classedLine stripped classed]
  exact classed

inductive Variant : List Char → List Char → Prop where
  | noise (line : List Char) {noise : List Char} (free : '$' ∉ noise) : Variant line (noise ++ line)
  | ends (line : List Char) {ends : List Char} (only : LineEnds ends) : Variant line (line ++ ends)
  | letterCase {noise body digits others ends : List Char} {given : Nat} (ahead : '$' ∉ noise)
      (whole : '*' ∉ body) (spelled : HexByte given digits)
      (same : others.map Char.toLower = digits.map Char.toLower) (only : LineEnds ends) :
      Variant (noise ++ '$' :: (body ++ '*' :: digits) ++ ends)
        (noise ++ '$' :: (body ++ '*' :: others) ++ ends)
  | unsummed {noise body digits ends : List Char} (ahead : '$' ∉ noise) (whole : '*' ∉ body)
      (right : HexByte (xorOf (bytes body)).toNat digits) (bare : Bare body) (only : LineEnds ends) :
      Variant (noise ++ '$' :: (body ++ '*' :: digits) ++ ends) (noise ++ '$' :: body ++ ends)

theorem strippedSummed {noise digits ends : List Char} {sum : Nat} (spelled : HexByte sum digits)
    (only : LineEnds ends) :
    Stripped (noise ++ '$' :: (body ++ '*' :: digits) ++ ends)
      (noise ++ '$' :: (body ++ '*' :: digits)) := by
  refine strippedEnds ⟨⟨[], (List.append_nil _).symm, nofun⟩, ?_⟩ only
  have parts : noise ++ '$' :: (body ++ '*' :: digits) = (noise ++ '$' :: (body ++ ['*'])) ++ digits := by
    simp
  rw [parts]
  exact hexByteBare spelled

theorem strippedPlain {noise ends : List Char} (bare : Bare body) (only : LineEnds ends) :
    Stripped (noise ++ '$' :: body ++ ends) (noise ++ '$' :: body) := by
  refine strippedEnds ⟨⟨[], (List.append_nil _).symm, nofun⟩, bareAfter ?_⟩ only
  cases body with
  | nil => rintro c ⟨⟩; decide
  | cons c rest => exact @bareAfter ['$'] rest c bare

theorem ofSummed {noise digits ends : List Char} {sum : Nat} (ahead : '$' ∉ noise)
    (whole : '*' ∉ body) (spelled : HexByte sum digits) (only : LineEnds ends) :
    ofLine (noise ++ '$' :: (body ++ '*' :: digits) ++ ends) = ofFrame ⟨body, some sum⟩ :=
  ofLineFramed (strippedSummed spelled only) (.summed ahead whole spelled)

theorem ofFrameSummed : ofFrame ⟨body, some (xorOf (bytes body)).toNat⟩ = ofFrame ⟨body, none⟩ := by
  by_cases printable : Printable body
  · rw [ofFrameAgrees printable (by rintro sum ⟨⟩; rfl), ofFrameAgrees printable (by rintro sum ⟨⟩)]
  · rw [ofFrameStrange printable, ofFrameStrange printable]

theorem noiseSame {noise : List Char} (free : '$' ∉ noise)
    (framed : ∀ text, ofLine line ≠ .invalid (.framing text)) :
    ofLine (noise ++ line) = ofLine line := by
  have stripped := trimStrips line
  rcases framedOrNot (trimLineEnd line) with unframed | ⟨body, given, found⟩
  · exact absurd (ofLineUnframed stripped unframed) (framed _)
  · have frame := framedFrame found
    cases text : trimLineEnd line with
    | nil => rw [text] at frame; cases frame
    | cons c rest =>
      rw [text] at stripped frame
      rw [ofLineFrame, strippedTrims (strippedNoise stripped), frameNoise free, frame, ofLineFrame,
        strippedTrims stripped, frame]

theorem variantSame {other : List Char} (variant : Variant line other)
    (framed : ∀ text, ofLine line ≠ .invalid (.framing text)) : ofLine other = ofLine line := by
  cases variant with
  | noise _ free => exact noiseSame free framed
  | ends _ only => rw [ofLineFrame, strippedTrims (strippedEnds (trimStrips line) only), ← ofLineFrame]
  | letterCase ahead whole spelled same only =>
    rw [ofSummed ahead whole spelled only, ofSummed ahead whole (hexByteCase spelled same) only]
  | unsummed ahead whole right bare only =>
    rw [ofSummed ahead whole right only, ofFrameSummed]
    exact ofLineFramed (strippedPlain bare only) (.plain ahead whole)

theorem linesClassed :
    (∀ line sentence, ofLine line = sentence ↔ ∃ text, Stripped line text ∧ Classed text sentence) ∧
    ∀ line other, Variant line other → (∀ text, ofLine line ≠ .invalid (.framing text)) →
      ofLine other = ofLine line := by
  refine ⟨fun line sentence => ⟨?_, ?_⟩, fun line other => variantSame⟩
  · rintro rfl
    exact ⟨trimLineEnd line, trimStrips line, ofLineClassed (trimStrips line)⟩
  · rintro ⟨text, stripped, classed⟩
    exact classedLine stripped classed

theorem checksumHoldsLineEnd :
    ¬ ∀ noise body digits, '$' ∉ noise → '*' ∉ body → HexByte (xorOf (bytes body)).toNat digits →
      (∀ text, ofLine (noise ++ '$' :: (body ++ '*' :: digits)) ≠ .invalid (.framing text)) →
      ofLine (noise ++ '$' :: body) = ofLine (noise ++ '$' :: (body ++ '*' :: digits)) := by
  intro claim
  let body : List Char := ['G', 'P', 'X', 'Y', 'Z', '\r']
  have sum : (xorOf (bytes body)).toNat = 4 * 16 + 1 := by decide
  have spelled : HexByte (xorOf (bytes body)).toNat ['4', '1'] := by
    rw [sum]
    exact .pair ⟨by decide, by decide⟩ ⟨by decide, by decide⟩
  have summed : ofLine ([] ++ '$' :: (body ++ '*' :: ['4', '1'])) = .invalid (.nonPrintable body) := by
    decide
  have wrong := claim [] body ['4', '1'] (by decide) (by decide) spelled (by rw [summed]; exact nofun)
  revert wrong
  decide

end NmeaReceiver.Sentence
