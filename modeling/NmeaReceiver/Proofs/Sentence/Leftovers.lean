import NmeaReceiver.Proofs.Sentence.Records

/-! What is left over in a field. A field is read to the comma behind it, but the last slot of three
layouts takes the longest token at the front of its piece, and what follows that is dropped. -/
namespace NmeaReceiver.Sentence
open NmeaReceiver.Decimal NmeaReceiver.Calendar

def Slot.Fronts (slot : Slot) : Option slot.Value → List Char → Prop
  | some value, piece => ∃ token left, piece = token ++ left ∧ slot.Spells value token ∧
      ∀ other longer rest, piece = longer ++ rest → slot.Spells other longer →
        longer.length ≤ token.length
  | none, piece => ∀ value token rest, piece = token ++ rest → ¬ slot.Spells value token

def Slot.Breaks (slot : Slot) (text : List Char) : Prop := slot = .number ∧ BreaksOff text

structure Slot.Takes (slot : Slot) (value : Option slot.Value) (piece : List Char) : Prop where
  fronts : slot.Fronts value piece
  unbroken : ¬ slot.Breaks piece

structure Greedy (slot : Slot) : Prop where
  optional : slot.required = false
  spelled : ∀ {text rest value}, slot.read text = .found value rest →
    ∃ token, text = token ++ rest ∧ slot.Spells value token
  some : ∀ {value token}, slot.Spells value token → ∀ after, slot.read (token ++ after) ≠ .absent
  longest : ∀ {value token other rest}, slot.Spells value token → ∀ after,
    slot.read (token ++ after) = .found other rest → rest.length ≤ after.length
  broken : ∀ {text}, (∃ rest, slot.read text = .broken rest) ↔ slot.Breaks text

theorem greedyDate : Greedy .date where
  optional := rfl
  spelled found := readDateFound.mp found
  some spelled after absent := by
    have found : readDate _ = .found _ after := readDateFound.mpr ⟨_, rfl, spelled⟩
    cases absent.symm.trans found
  longest spelled after found := by
    have alone : readDate _ = .found _ after := readDateFound.mpr ⟨_, rfl, spelled⟩
    cases alone.symm.trans found
    exact Nat.le_refl _
  broken := ⟨fun broken => absurd broken (dateUnbroken _), fun breaks => absurd breaks.1 (by decide)⟩

theorem greedyNumber : Greedy .number where
  optional := rfl
  spelled := readNumberSpelled
  some spelled after absent := by
    obtain ⟨numeral, spelled, _⟩ := spelled
    exact (numeralLongest spelled after).1 (readNumberAbsent.mp absent)
  longest spelled after found := by
    obtain ⟨numeral, spelled, _⟩ := spelled
    obtain ⟨_, came, _⟩ := readNumberNumeral found
    exact (numeralLongest spelled after).2 _ _ came
  broken := by simp [numberBroken, Slot.Breaks]

section Pieces

variable {slot : Slot} {value other : Option slot.Value} {piece more rest : List Char}

theorem breaksFront (free : ',' ∉ piece) (clean : Clean more) :
    slot.Breaks (piece ++ more) ↔ slot.Breaks piece := by
  refine and_congr_right fun _ => ⟨?_, ?_⟩
  · intro breaks
    obtain ⟨negative, sign, whole, fraction, body, mark, after, signs, digits, marks, split, none⟩ := breaks
    have comma : mark ≠ ',' := by
      rcases marks with rfl | rfl <;> decide
    have ahead : ',' ∉ sign ++ (body ++ [mark]) := by
      simp [signCommaFree signs, mantissaCommaFree digits, comma.symm]
    have front : piece ++ more = (sign ++ (body ++ [mark])) ++ after := by simp [split]
    obtain ⟨left, rfl, rfl⟩ := commaFreeFront front ahead clean
    refine ⟨negative, sign, whole, fraction, body, mark, left, signs, digits, marks, by simp, ?_⟩
    intro exponent scale rest spelled same
    exact none exponent scale (rest ++ more) spelled
      (by rw [← List.cons_append, same, List.append_assoc])
  · intro breaks
    obtain ⟨negative, sign, whole, fraction, body, mark, after, signs, digits, marks, rfl, none⟩ := breaks
    refine ⟨negative, sign, whole, fraction, body, mark, after ++ more, signs, digits, marks, by simp, ?_⟩
    intro exponent scale rest spelled same
    have front : (mark :: after) ++ more = scale ++ rest := same
    obtain ⟨left, same, _⟩ := commaFreeFront front (exponentCommaFree spelled) clean
    exact none exponent scale left spelled same

theorem readFronts (greedy : Greedy slot) (free : ',' ∉ piece) (clean : Clean more)
    (read : readSlot slot (piece ++ more) = .ok (value, rest)) : slot.Fronts value piece := by
  unfold readSlot at read
  cases came : slot.read (piece ++ more) with
  | broken left => rw [came] at read; cases read
  | found found left =>
    rw [came] at read
    cases read
    obtain ⟨token, split, spelled⟩ := greedy.spelled came
    obtain ⟨spare, rfl, rfl⟩ := commaFreeFront split ((slotReads slot).commaFree spelled) clean
    refine ⟨token, spare, rfl, spelled, fun _ longer behind same spells => ?_⟩
    -- Behind any other token of the piece the reader would have stopped no earlier.
    rw [same, List.append_assoc] at came
    have short := greedy.longest spells _ came
    have lengths := congrArg List.length same
    simp only [List.length_append] at short lengths
    omega
  | absent =>
    rw [came] at read
    simp only [greedy.optional, Bool.false_eq_true, if_false] at read
    cases read
    intro found token left same spells
    rw [same, List.append_assoc] at came
    exact greedy.some spells _ came

theorem frontsUnique (fronts : slot.Fronts value piece) (again : slot.Fronts other piece) :
    value = other := by
  cases value with
  | none =>
    cases other with
    | none => rfl
    | some found =>
      obtain ⟨token, left, same, spelled, _⟩ := again
      exact absurd spelled (fronts found token left same)
  | some value =>
    obtain ⟨token, left, same, spelled, longest⟩ := fronts
    cases other with
    | none => exact absurd spelled (again value token left same)
    | some found =>
      obtain ⟨longer, rest, split, spells, most⟩ := again
      have lengths := Nat.le_antisymm (most _ _ _ same spelled) (longest _ _ _ split spells)
      obtain ⟨rfl, _⟩ := List.append_inj (same.symm.trans split) lengths
      rw [spelledUnique spelled spells]

theorem frontsHold (optional : slot.required = false) (fronts : slot.Fronts value piece)
    (whole : piece = [] ∨ ∃ found, slot.Spells found piece) : slot.Holds value piece := by
  cases value with
  | none =>
    rcases whole with rfl | ⟨found, spelled⟩
    · exact ⟨rfl, optional⟩
    · exact absurd spelled (fronts found piece [] (List.append_nil piece).symm)
  | some value =>
    obtain ⟨token, left, rfl, spelled, longest⟩ := fronts
    rcases whole with none | ⟨found, spells⟩
    · exact absurd (List.append_eq_nil_iff.mp none).1 (spellsSome spelled)
    · have most := longest found _ [] (List.append_nil _).symm spells
      rw [List.length_append] at most
      have none : left = [] := List.length_eq_zero_iff.mp (by omega)
      rw [none, List.append_nil]
      exact spelled

end Pieces

section Layouts

variable {slots : List Slot} {last : Slot} {text : List Char} {contents : Contents slots}
  {value : Option last.Value}

def Open (Last : (slot : Slot) → Option slot.Value → List Char → Prop) (slots : List Slot)
    (last : Slot) (text : List Char) (contents : Contents slots) (value : Option last.Value) : Prop :=
  ∃ piece others, Laid slots text contents (piece :: others) ∧ Last last value piece

theorem laidPiece {piece : List Char} {others : List (List Char)}
    (laid : Laid slots text contents (piece :: others)) :
    (text.splitOn ',')[slots.length + 1]? = some piece := by
  obtain ⟨fields, split, filled⟩ := laid
  rw [split, ← filledPieces filled]
  simp

theorem openRead (greedy : Greedy last) :
    (∃ rest, readSlots (slots ++ [last]) text =
        .ok (Contents.append slots contents (value, ()), rest)) ↔
      Open Slot.Takes slots last text contents value := by
  constructor
  · intro read
    obtain ⟨rest, read⟩ := read
    obtain ⟨after, front, back⟩ := lastRead.mp read
    obtain ⟨tail, some, rfl, laid⟩ := openLayout.mp front
    obtain ⟨piece, others, rfl⟩ := List.exists_cons_of_ne_nil some
    have free := pieceCommaFree (List.mem_of_getElem? (laidPiece laid))
    have clean := commaedStart others
    rw [intercalateCommaed] at back
    refine ⟨piece, others, laid, readFronts greedy free clean back, fun breaks => ?_⟩
    have broken := greedy.broken.mpr ((breaksFront free clean).mpr breaks)
    exact (readSlotOpen greedy.optional).mp ⟨_, _, back⟩ broken
  · intro filled
    obtain ⟨piece, others, laid, takes⟩ := filled
    have free := pieceCommaFree (List.mem_of_getElem? (laidPiece laid))
    have clean := commaedStart others
    have unbroken : ¬ ∃ rest, last.read (piece ++ commaed others) = .broken rest := fun broken =>
      takes.unbroken ((breaksFront free clean).mp (greedy.broken.mp broken))
    obtain ⟨found, rest, back⟩ := (readSlotOpen greedy.optional).mpr unbroken
    obtain rfl := frontsUnique takes.fronts (readFronts greedy free clean back)
    have front := openLayout.mpr ⟨_, List.cons_ne_nil piece others, intercalateCommaed piece others, laid⟩
    exact ⟨rest, lastRead.mpr ⟨_, front, back⟩⟩

end Layouts

inductive Filling (Last : (slot : Slot) → Option slot.Value → List Char → Prop) (talker : Talker)
    (text : List Char) : Kind → Sentence → Prop where
  | rmc {contents : Contents Rmc.named} {date : Option Date}
      (laid : Open Last Rmc.named .date text contents date) :
      Filling Last talker text .rmc (.rmc (Rmc.told talker date contents))
  | gga {contents : Contents Gga.named} {separation : Option Binary64}
      (laid : Open Last Gga.named .number text contents separation) :
      Filling Last talker text .gga (.gga (Gga.told talker separation contents))
  | gsa {contents : Contents Gsa.named} {vdop : Option Binary64}
      (laid : Open Last Gsa.named .number text contents vdop) :
      Filling Last talker text .gsa (.gsa (Gsa.told talker vdop contents))
  | zda {contents : Contents Zda.layout} (laid : Laid Zda.layout text contents []) :
      Filling Last talker text .zda (.zda (Zda.told talker contents))

section Kinds

variable {talker : Talker} {text : List Char} {kind : Kind} {sentence : Sentence}

theorem recordFilling :
    recordOf talker text kind = .ok sentence ↔ Filling Slot.Takes talker text kind sentence := by
  constructor
  · intro read
    cases kind with
    | rmc =>
      obtain ⟨record, came, rfl⟩ := mapOk.mp read
      obtain ⟨contents, date, rest, filled, rfl⟩ := rmcRead.mp came
      exact .rmc ((openRead greedyDate).mp ⟨rest, filled⟩)
    | gga =>
      obtain ⟨record, came, rfl⟩ := mapOk.mp read
      obtain ⟨contents, separation, rest, filled, rfl⟩ := ggaRead.mp came
      exact .gga ((openRead greedyNumber).mp ⟨rest, filled⟩)
    | gsa =>
      obtain ⟨record, came, rfl⟩ := mapOk.mp read
      obtain ⟨contents, vdop, rest, filled, rfl⟩ := gsaRead.mp came
      exact .gsa ((openRead greedyNumber).mp ⟨rest, filled⟩)
    | zda =>
      obtain ⟨record, came, rfl⟩ := mapOk.mp read
      obtain ⟨contents, filled, rfl⟩ := zdaRead.mp came
      exact .zda (closedLayout.mp filled)
  · intro filling
    cases filling with
    | rmc laid =>
      obtain ⟨rest, filled⟩ := (openRead greedyDate).mpr laid
      exact mapOk.mpr ⟨_, rmcRead.mpr ⟨_, _, rest, filled, rfl⟩, rfl⟩
    | gga laid =>
      obtain ⟨rest, filled⟩ := (openRead greedyNumber).mpr laid
      exact mapOk.mpr ⟨_, ggaRead.mpr ⟨_, _, rest, filled, rfl⟩, rfl⟩
    | gsa laid =>
      obtain ⟨rest, filled⟩ := (openRead greedyNumber).mpr laid
      exact mapOk.mpr ⟨_, gsaRead.mpr ⟨_, _, rest, filled, rfl⟩, rfl⟩
    | zda laid => exact mapOk.mpr ⟨_, zdaRead.mpr ⟨_, closedLayout.mpr laid, rfl⟩, rfl⟩

def openEnd : Kind → Option (List Slot × Slot)
  | .rmc => some (Rmc.named, .date)
  | .gga => some (Gga.named, .number)
  | .gsa => some (Gsa.named, .number)
  | .zda => none

structure LeavesOver (kind : Kind) (text : List Char) (slots : List Slot) (last : Slot)
    (piece : List Char) : Prop where
  ends : openEnd kind = some (slots, last)
  stands : (text.splitOn ',')[slots.length + 1]? = some piece
  filled : piece ≠ []
  other : ∀ value, ¬ last.Spells value piece

theorem openWhole {slots : List Slot} {last : Slot} {contents : Contents slots}
    {value : Option last.Value} (laid : Open Slot.Takes slots last text contents value)
    (ends : openEnd kind = some (slots, last)) (optional : last.required = false)
    (whole : ¬ ∃ slots last piece, LeavesOver kind text slots last piece) :
    Open Slot.Holds slots last text contents value := by
  obtain ⟨piece, others, laid, takes⟩ := laid
  refine ⟨piece, others, laid, frontsHold optional takes.fronts ?_⟩
  by_contra spare
  obtain ⟨filled, other⟩ := not_or.mp spare
  exact whole ⟨slots, last, piece, ends, laidPiece laid, filled, fun found spelled => other ⟨found, spelled⟩⟩

theorem fillingWhole (filling : Filling Slot.Takes talker text kind sentence)
    (whole : ¬ ∃ slots last piece, LeavesOver kind text slots last piece) :
    Filling Slot.Holds talker text kind sentence := by
  cases filling with
  | rmc laid => exact .rmc (openWhole laid rfl rfl whole)
  | gga laid => exact .gga (openWhole laid rfl rfl whole)
  | gsa laid => exact .gsa (openWhole laid rfl rfl whole)
  | zda laid => exact .zda laid

theorem openLeaves {slots others : List Slot} {last other : Slot} {contents : Contents slots}
    {value : Option last.Value} {piece : List Char}
    (laid : Open Slot.Holds slots last text contents value) (ends : openEnd kind = some (slots, last)) :
    ¬ LeavesOver kind text others other piece := by
  intro spare
  obtain ⟨held, _, laid, holds⟩ := laid
  have same := ends.symm.trans spare.ends
  cases same
  cases (laidPiece laid).symm.trans spare.stands
  cases value with
  | none => exact spare.filled holds.1
  | some value => exact spare.other value holds

theorem wholeFilling {slots : List Slot} {last : Slot} {piece : List Char}
    (filling : Filling Slot.Holds talker text kind sentence) :
    ¬ LeavesOver kind text slots last piece := by
  cases filling with
  | rmc laid => exact openLeaves laid rfl
  | gga laid => exact openLeaves laid rfl
  | gsa laid => exact openLeaves laid rfl
  | zda laid => exact fun spare => nomatch spare.ends

inductive Announces (line : List Char) : Talker → Kind → List Char → Prop where
  | body {body : List Char} {kind : Kind} (whole : Whole (trimLineEnd line) body)
      (addressed : Addressed body) (named : (body.drop 2).take 3 = kind.name.toList) :
      Announces line (.ofCode (body.take 2)) kind (body.drop 5)

theorem announcedFields {line : List Char} (announced : Announces line talker kind text) :
    ofLine line = ofFields talker kind text := by
  cases announced with
  | body whole addressed named => rw [ofWhole (trimStrips line) whole, ofBodyKnown addressed named]

/-- A sentence is what its fields tell by their longest tokens, and it is invalid if they tell none.
Only the last field of RMC, GGA and GSA can be read in part, which it is if there is something left
over in it. -/
theorem halfReadOnlyAtEnd (line : List Char) :
    ((∀ refusal, ofLine line ≠ .invalid refusal) → (∀ body, ofLine line ≠ .unrecognized body) →
      ∃ talker kind text, Announces line talker kind text) ∧
    ∀ talker kind text, Announces line talker kind text →
      (∀ sentence, Filling Slot.Takes talker text kind sentence → ofLine line = sentence ∧
        (Filling Slot.Holds talker text kind sentence ↔
          ¬ ∃ slots last piece, LeavesOver kind text slots last piece)) ∧
      ((∀ sentence, ¬ Filling Slot.Takes talker text kind sentence) →
        ∃ detail, ofLine line = .invalid (.fields kind detail)) := by
  constructor
  · intro valid known
    obtain ⟨body, kind, recorded⟩ := recordedLine rfl valid known
    exact ⟨_, _, _, .body recorded.whole recorded.addressed recorded.named⟩
  · intro talker kind text announced
    rw [announcedFields announced, ofFieldsRecord]
    constructor
    · intro sentence filling
      rw [recordFilling.mpr filling]
      refine ⟨rfl, fun whole spare => ?_, fillingWhole filling⟩
      obtain ⟨slots, last, piece, spare⟩ := spare
      exact wholeFilling whole spare
    · intro none
      cases read : recordOf talker text kind with
      | ok sentence => exact absurd (recordFilling.mp read) (none sentence)
      | error fault => exact ⟨_, rfl⟩

theorem dateLength {date : Date} (spelled : DateText date text) : text.length = 6 := by
  cases spelled with
  | parts day month year => simp [day.length, month.length, year.length]

theorem dateHalfRead :
    let line := "$GPRMC,120000,A,0000.00,N,00000.00,E,,,150124XYZ".toList
    ∃ talker text record, Announces line talker .rmc text ∧ ofLine line = .rmc record ∧
      record.date = some ⟨2024, 1, 15⟩ ∧ ∀ sentence, ¬ Filling Slot.Holds talker text .rmc sentence := by
  intro line
  have announced : Announces line (.ofCode (line.tail.take 2)) .rmc (line.tail.drop 5) :=
    .body ⟨⟨none, @Framed.plain [] line.tail (by decide) (by decide), nofun⟩,
      printableIff.mp (by decide)⟩
      ⟨by decide, fun c member => addressCharIff.mp (List.all_eq_true.mp rfl c member)⟩ (by decide)
  have spare : LeavesOver .rmc (line.tail.drop 5) Rmc.named .date "150124XYZ".toList :=
    ⟨rfl, by decide +kernel, by decide, fun value spelled => absurd (dateLength spelled) (by decide)⟩
  have told : ofLine line = .rmc ⟨.gps, some ⟨12, 0, 0, 0⟩, true, some ⟨.zero, .zero⟩, none, none,
      some ⟨2024, 1, 15⟩⟩ := by
    decide +kernel
  exact ⟨_, _, _, announced, told, rfl, fun sentence whole => wholeFilling whole spare⟩

end Kinds

end NmeaReceiver.Sentence
