import Mathlib.Algebra.Ring.Nat
import NmeaReceiver.Proofs.Sentence.Classification
import NmeaReceiver.Proofs.Sentence.Fields
import NmeaReceiver.Proofs.Sentence.Tokens

/-! Where a report points. The slots of a layout are read up to the first field that does not suit
them, and no reader passes the comma behind its field: so a report points into that field, or to the
end of a text that lacks it. -/
namespace NmeaReceiver.Sentence
open NmeaReceiver.Fix (bindError)

def Kind.slots : Kind → List Slot
  | .rmc => Rmc.layout
  | .gga => Gga.layout
  | .gsa => Gsa.lead ++ (List.replicate Gsa.satelliteSlots .count ++ Gsa.tail)
  | .zda => Zda.layout

inductive Suits (slots : List Slot) : Nat → List Char → Prop where
  | ahead : Suits slots 0 []
  | slot {k : Nat} {slot : Slot} {value : Option slot.Value} {field : List Char}
      (stands : slots[k]? = some slot) (holds : slot.Holds value field) : Suits slots (k + 1) field

def offset (fields : List (List Char)) (k : Nat) : Nat :=
  ((fields.take k).map fun field => field.length + 1).sum

/-- Where a report may point for the field of index `k`. -/
inductive Points (kind : Kind) (text : List Char) (k : Nat) : Nat → Prop where
  | inside {field : List Char} {position : Nat} (named : k ≤ kind.slots.length)
      (stands : (text.splitOn ',')[k]? = some field) (violates : ¬ Suits kind.slots k field)
      (least : offset (text.splitOn ',') k ≤ position)
      (most : position ≤ offset (text.splitOn ',') k + field.length) : Points kind text k position
  | missing (named : k ≤ kind.slots.length) (absent : (text.splitOn ',')[k]? = none) :
      Points kind text k text.length
  | surplus {position : Nat} (closed : kind = .zda) (beyond : k = kind.slots.length + 1)
      (stands : k < (text.splitOn ',').length) (comma : text[position]? = some ',')
      (behind : position + 1 = offset (text.splitOn ',') k) : Points kind text k position

inductive Reported (talker : Talker) (kind : Kind) (text : List Char) : Refusal → Entry → Prop where
  | first {fault : Fault} {entry : Entry} {outer : List Entry}
      (stops : recordOf talker text kind = .error fault)
      (entries : fault.entries kind text.length = entry :: outer) :
      Reported talker kind text (.fields kind (fault.report kind text)) entry

def Caret (text : List Char) (entry : Entry) : Prop :=
  ∃ heading, entry.text text 0 = heading ++ "\n" ++ String.ofList (trimBlanks text) ++ "\n" ++
    String.ofList (List.replicate entry.position ' ') ++ "^\n\n"

section Slots

variable {slot : Slot} {slots : List Slot} {text rest piece more spare : List Char}
  {value : Option slot.Value} {pieces : List (List Char)} {fault : Fault} {k : Nat}

theorem readSlotSkips (read : readSlot slot text = .ok (value, rest)) : Skips text rest := by
  have stays := slotStays slot text
  unfold readSlot at read
  generalize slot.read text = reading at stays read
  cases stays with
  | found value skips =>
    cases read
    exact skips
  | broken skips => cases read
  | absent =>
    dsimp only at read
    split at read
    · cases read
    · cases read
      exact skipsNothing text

theorem readSlotStops (stops : readSlot slot text = .error fault) :
    ∃ rest, Skips text rest ∧ fault.left = rest.length := by
  have stays := slotStays slot text
  unfold readSlot at stops
  generalize slot.read text = reading at stays stops
  cases stays with
  | found value skips => cases stops
  | broken skips =>
    cases stops
    exact ⟨_, skips, rfl⟩
  | absent =>
    dsimp only at stops
    split at stops
    · cases stops
      exact ⟨text, skipsNothing text, rfl⟩
    · cases stops

structure Culprit (slot : Slot) (piece spare : List Char) : Prop where
  left : spare <:+ piece
  violates : ∀ value, ¬ slot.Holds value piece

inductive SlotLeaves (slot : Slot) (piece more : List Char) :
    Except Fault (Option slot.Value × List Char) → Prop where
  | whole {value : Option slot.Value} (holds : slot.Holds value piece) :
      SlotLeaves slot piece more (.ok (value, more))
  | partly (value : Option slot.Value) {spare : List Char} (culprit : Culprit slot piece spare)
      (some : spare ≠ []) : SlotLeaves slot piece more (.ok (value, spare ++ more))
  | stops {spare : List Char} {fault : Fault} (culprit : Culprit slot piece spare)
      (left : fault.left = (spare ++ more).length) : SlotLeaves slot piece more (.error fault)

theorem slotLeaves (free : ',' ∉ piece) (clean : Clean more) :
    SlotLeaves slot piece more (readSlot slot (piece ++ more)) := by
  have whole {value : Option slot.Value} (holds : slot.Holds value piece) :
      readSlot slot (piece ++ more) = .ok (value, more) :=
    (readSlotOk clean).mpr ⟨piece, rfl, holds⟩
  cases read : readSlot slot (piece ++ more) with
  | error fault =>
    obtain ⟨rest, ⟨token, split, clear⟩, left⟩ := readSlotStops read
    obtain ⟨spare, rfl, rfl⟩ := commaFreeFront split clear clean
    refine .stops ⟨List.suffix_append _ _, fun value holds => ?_⟩ left
    cases read.symm.trans (whole holds)
  | ok taken =>
    obtain ⟨value, rest⟩ := taken
    obtain ⟨token, split, clear⟩ := readSlotSkips read
    obtain ⟨spare, same, rfl⟩ := commaFreeFront split clear clean
    by_cases none : spare = []
    · subst none
      rw [List.nil_append] at read ⊢
      obtain ⟨other, again, holds⟩ := (readSlotOk clean).mp read
      exact .whole (List.append_cancel_right again ▸ holds)
    · refine .partly value ⟨⟨token, same.symm⟩, fun found holds => none ?_⟩ none
      have ends := congrArg Prod.snd (Except.ok.inj (read.symm.trans (whole holds)))
      exact List.append_left_eq_self.mp ends

def Before (slots : List Slot) (pieces : List (List Char)) (k : Nat) : Prop :=
  ∀ j < k, ∃ piece, pieces[j]? = some piece ∧ Suits slots (j + 1) piece

def leftOf : Except Fault (List Char) → Nat
  | .ok rest => rest.length
  | .error fault => fault.left

inductive Halts (slots : List Slot) (pieces : List (List Char)) (k : Nat) :
    Except Fault (List Char) → Prop where
  | missing {fault : Fault} (named : k < slots.length) (absent : pieces[k]? = none)
      (ends : fault.left = 0) : Halts slots pieces k (.error fault)
  | inside {piece spare : List Char} {result : Except Fault (List Char)} (named : k < slots.length)
      (stands : pieces[k]? = some piece) (violates : ¬ Suits slots (k + 1) piece)
      (behind : spare <:+ piece)
      (left : leftOf result = (spare ++ commaed (pieces.drop (k + 1))).length) :
      Halts slots pieces k result
  | beyond (all : k = slots.length) : Halts slots pieces k (.ok (commaed (pieces.drop k)))

theorem suitsNext {field : List Char} : Suits (slot :: slots) (k + 2) field ↔ Suits slots (k + 1) field := by
  constructor
  · intro suits
    cases suits with
    | slot stands holds => exact .slot stands holds
  · intro suits
    cases suits with
    | slot stands holds => exact .slot stands holds

theorem suitsFirst {field : List Char} : Suits (slot :: slots) 1 field ↔ ∃ value, slot.Holds value field := by
  constructor
  · intro suits
    cases suits with
    | slot stands holds =>
      cases stands
      exact ⟨_, holds⟩
  · intro holds
    obtain ⟨value, holds⟩ := holds
    exact .slot rfl holds

theorem beforeNext (holds : slot.Holds value piece) (before : Before slots pieces k) :
    Before (slot :: slots) (piece :: pieces) (k + 1) := by
  intro j below
  cases j with
  | zero => exact ⟨piece, rfl, suitsFirst.mpr ⟨value, holds⟩⟩
  | succ j =>
    obtain ⟨other, stands, suits⟩ := before j (Nat.lt_of_succ_lt_succ below)
    exact ⟨other, stands, suitsNext.mpr suits⟩

theorem haltsNext {result : Except Fault (List Char)} (halts : Halts slots pieces k result) :
    Halts (slot :: slots) (piece :: pieces) (k + 1) result := by
  cases halts with
  | missing named absent ends => exact .missing (Nat.succ_lt_succ named) absent ends
  | inside named stands violates behind left =>
    exact .inside (Nat.succ_lt_succ named) stands (fun suits => violates (suitsNext.mp suits)) behind left
  | beyond all => exact .beyond (congrArg Nat.succ all)

theorem readSlotsStep (slot : Slot) (slots : List Slot) (text : List Char) :
    (readSlots (slot :: slots) (',' :: text)).map Prod.snd = match readSlot slot text with
      | .error fault => .error fault
      | .ok (_, rest) => (readSlots slots rest).map Prod.snd := by
  change Except.map _ (readSlot slot text >>= _) = _
  cases read : readSlot slot text with
  | error fault => rfl
  | ok taken =>
    simp only [bind, Except.bind]
    cases readSlots slots taken.2 <;> rfl

theorem readSlotsUnled (other : text.head? ≠ some ',') :
    readSlots (slot :: slots) text = .error ⟨.comma, text.length, none⟩ := by
  have stops : readComma text = .error ⟨.comma, text.length, none⟩ := by
    unfold readComma
    split
    · exact absurd rfl other
    · rfl
  rw [readSlots, stops]
  rfl

-- The next slot lacks its comma; behind the last one the rest stays.
theorem unledStays (culprit : Culprit slot piece spare) (free : ',' ∉ piece) (some : spare ≠ [])
    (slots : List Slot) :
    leftOf ((readSlots slots (spare ++ more)).map Prod.snd) = (spare ++ more).length := by
  cases slots with
  | nil => rfl
  | cons next later =>
    obtain ⟨c, others, rfl⟩ := List.exists_cons_of_ne_nil some
    have other : c ≠ ',' := fun same => free (culprit.left.subset (same ▸ List.mem_cons_self))
    have unled : ((c :: others) ++ more).head? ≠ Option.some ',' := by simpa using other
    rw [readSlotsUnled unled]
    rfl

theorem slotsHalt (free : ∀ piece ∈ pieces, ',' ∉ piece) :
    ∃ k, Before slots pieces k ∧
      Halts slots pieces k ((readSlots slots (commaed pieces)).map Prod.snd) := by
  induction slots generalizing pieces with
  | nil => exact ⟨0, nofun, .beyond rfl⟩
  | cons slot slots ih =>
    cases pieces with
    | nil => exact ⟨0, nofun, .missing (Nat.succ_pos _) rfl rfl⟩
    | cons piece pieces =>
      have leaves := @slotLeaves slot piece _ (free piece List.mem_cons_self) (commaedStart pieces)
      rw [commaedCons, readSlotsStep]
      generalize readSlot slot (piece ++ commaed pieces) = read at leaves
      have inside {spare : List Char} {result : Except Fault (List Char)}
          (culprit : Culprit slot piece spare) (left : leftOf result = (spare ++ commaed pieces).length) :
          Halts (slot :: slots) (piece :: pieces) 0 result :=
        .inside (Nat.succ_pos _) rfl
          (fun suits => (suitsFirst.mp suits).elim culprit.violates) culprit.left left
      cases leaves with
      | whole holds =>
        obtain ⟨k, before, halts⟩ := ih fun other member => free other (List.mem_cons_of_mem _ member)
        exact ⟨k + 1, beforeNext holds before, haltsNext halts⟩
      | stops culprit left => exact ⟨0, nofun, inside culprit left⟩
      | partly value culprit some =>
        exact ⟨0, nofun, inside culprit (unledStays culprit (free piece List.mem_cons_self) some slots)⟩

end Slots

section Texts

variable {kind : Kind} {talker : Talker} {text : List Char} {pieces : List (List Char)} {fault : Fault}

theorem offsetNext (pieces : List (List Char)) (k : Nat) :
    offset ([] :: pieces) (k + 1) = (commaed (pieces.take k)).length + 1 := by
  simp [offset, commaed, List.length_flatMap]
  omega

theorem commaedDrop {k : Nat} {piece : List Char} (stands : pieces[k]? = some piece) :
    commaed (pieces.drop k) = ',' :: (piece ++ commaed (pieces.drop (k + 1))) := by
  obtain ⟨within, same⟩ := List.getElem?_eq_some_iff.mp stands
  rw [List.drop_eq_getElem_cons within, same, commaedCons]

theorem commaedParts (pieces : List (List Char)) (k : Nat) :
    commaed pieces = commaed (pieces.take k) ++ commaed (pieces.drop k) := by
  rw [← commaedAppend, List.take_append_drop]

theorem surplusPoint {k : Nat} (split : text.splitOn ',' = [] :: pieces) (closed : kind = .zda)
    (all : k = kind.slots.length) (some : commaed (pieces.drop k) ≠ []) :
    Points kind text (k + 1) (commaed (pieces.take k)).length := by
  have begins := offsetNext pieces k
  have whole : text = commaed (pieces.take k) ++ commaed (pieces.drop k) :=
    (textOfPieces split).trans (commaedParts pieces k)
  have stands : k < pieces.length := by
    apply Nat.lt_of_not_le
    intro none
    rw [List.drop_eq_nil_of_le none] at some
    exact some rfl
  have within : k + 1 < (text.splitOn ',').length := by
    rw [split]
    exact Nat.succ_lt_succ stands
  rw [← split] at begins
  refine .surplus closed (congrArg Nat.succ all) within ?_ begins.symm
  rw [whole, List.getElem?_append_right (Nat.le_refl _), Nat.sub_self,
    commaedDrop (List.getElem?_eq_getElem stands)]
  rfl

theorem haltsPoint {k : Nat} {result : Except Fault (List Char)} (split : text.splitOn ',' = [] :: pieces)
    (halts : Halts kind.slots pieces k result)
    (refused : ∀ rest, result = .ok rest → kind = .zda ∧ rest ≠ []) :
    Points kind text (k + 1) (text.length - leftOf result) := by
  have begins := offsetNext pieces k
  have whole : text = commaed (pieces.take k) ++ commaed (pieces.drop k) :=
    (textOfPieces split).trans (commaedParts pieces k)
  have lengths := congrArg List.length whole
  rw [← split] at begins
  cases halts with
  | missing named absent ends =>
    have point : Points kind text (k + 1) text.length := .missing named (by rw [split]; exact absent)
    simpa only [leftOf, ends, Nat.sub_zero] using point
  | inside named stands violates behind left =>
    have short := behind.length_le
    rw [commaedDrop stands] at lengths
    simp only [List.length_append, List.length_cons] at lengths left
    refine .inside named (by rw [split]; exact stands) violates ?_ ?_
    · omega
    · omega
  | beyond all =>
    obtain ⟨closed, some⟩ := refused _ rfl
    have position : text.length - leftOf (.ok (commaed (pieces.drop k))) =
        (commaed (pieces.take k)).length := by
      rw [lengths, List.length_append]
      exact Nat.add_sub_cancel _ _
    rw [position]
    exact surplusPoint split closed all some

theorem readGroupStops {slots : List Slot} (stops : readGroup slots text = .error fault) :
    ∃ other, readSlots slots text = .error other ∧ other.left = fault.left := by
  unfold readGroup at stops
  cases read : readSlots slots text with
  | ok filled =>
    rw [read] at stops
    cases stops
  | error other =>
    rw [read] at stops
    cases stops
    exact ⟨other, rfl, rfl⟩

theorem frontStops {a : List Slot} (stops : readSlots a text = .error fault) (b : List Slot) :
    readSlots (a ++ b) text = .error fault := by
  have joined := readSlotsAppend a b text
  rw [stops] at joined
  exact mapError.mp joined

theorem backStops {a b : List Slot} {contents : Contents a} {rest : List Char}
    (read : readSlots a text = .ok (contents, rest)) (stops : readSlots b rest = .error fault) :
    readSlots (a ++ b) text = .error fault := by
  have joined := readSlotsAppend a b text
  rw [read] at joined
  exact mapError.mp (joined.trans (mapError.mpr stops))

theorem gsaStops (stops : Gsa.read talker text = .error fault) :
    ∃ other, readSlots (Kind.slots .gsa) text = .error other ∧ other.left = fault.left := by
  rcases bindError.mp stops with lead | ⟨_, lead, stops⟩
  · exact ⟨fault, frontStops lead _, rfl⟩
  · rcases bindError.mp stops with group | ⟨_, group, stops⟩
    · obtain ⟨other, read, left⟩ := readGroupStops group
      exact ⟨other, backStops lead (frontStops read _), left⟩
    · rcases bindError.mp stops with tail | ⟨_, _, stops⟩
      · exact ⟨fault, backStops lead (backStops (readGroupOk.mp group) tail), rfl⟩
      · cases stops

theorem recordStops (stops : recordOf talker text kind = .error fault) :
    (∃ other, readSlots kind.slots text = .error other ∧ other.left = fault.left) ∨
      kind = .zda ∧ ∃ contents rest, readSlots kind.slots text = .ok (contents, rest) ∧ rest ≠ [] ∧
        fault.left = rest.length := by
  cases kind with
  | rmc =>
    rcases bindError.mp (mapError.mp stops) with read | ⟨_, _, failed⟩
    · exact .inl ⟨fault, read, rfl⟩
    · cases failed
  | gga =>
    rcases bindError.mp (mapError.mp stops) with read | ⟨_, _, failed⟩
    · exact .inl ⟨fault, read, rfl⟩
    · cases failed
  | gsa => exact .inl (gsaStops (mapError.mp stops))
  | zda =>
    rcases bindError.mp (mapError.mp stops) with read | ⟨⟨contents, rest⟩, read, failed⟩
    · exact .inl ⟨fault, read, rfl⟩
    · rcases bindError.mp failed with finish | ⟨_, _, failed⟩
      · cases rest with
        | nil => cases finish
        | cons c rest =>
          cases finish
          exact .inr ⟨rfl, contents, c :: rest, read, List.cons_ne_nil _ _, rfl⟩
      · cases failed

theorem slotsUnled (kind : Kind) (other : text.head? ≠ some ',') :
    readSlots kind.slots text = .error ⟨.comma, text.length, none⟩ := by
  cases kind <;> exact readSlotsUnled other

theorem unledPoints {first : List Char} (split : text.splitOn ',' = first :: pieces) (filled : first ≠ [])
    (stops : recordOf talker text kind = .error fault) : Points kind text 0 (text.length - fault.left) := by
  have free : ',' ∉ first := pieceCommaFree (split ▸ List.mem_cons_self)
  have other : text.head? ≠ some ',' := by
    obtain ⟨c, more, rfl⟩ := List.exists_cons_of_ne_nil filled
    rw [textOfPieces split]
    intro same
    cases same
    exact free List.mem_cons_self
  have unled := slotsUnled kind other
  have left : fault.left = text.length := by
    rcases recordStops stops with ⟨_, read, left⟩ | ⟨_, _, _, read, _⟩
    · cases unled.symm.trans read
      exact left.symm
    · cases unled.symm.trans read
  rw [left, Nat.sub_self]
  refine .inside (Nat.zero_le _) (by rw [split]; rfl) (fun suits => ?_) (Nat.le_refl 0) (Nat.zero_le _)
  cases suits
  exact filled rfl

theorem recordPoints (stops : recordOf talker text kind = .error fault) :
    ∃ k, (∀ j < k, ∃ field, (text.splitOn ',')[j]? = some field ∧ Suits kind.slots j field) ∧
      Points kind text k (text.length - fault.left) := by
  obtain ⟨first, pieces, split⟩ := List.exists_cons_of_ne_nil (List.splitOn_ne_nil ',' text)
  by_cases filled : first = []
  · subst filled
    have free : ∀ piece ∈ pieces, ',' ∉ piece := fun piece member =>
      pieceCommaFree (split ▸ List.mem_cons_of_mem _ member)
    obtain ⟨k, before, halts⟩ := @slotsHalt kind.slots pieces free
    have whole : commaed pieces = text := (textOfPieces split).symm
    rw [whole] at halts
    refine ⟨k + 1, ?_, ?_⟩
    · intro j below
      rw [split]
      cases j with
      | zero => exact ⟨[], rfl, .ahead⟩
      | succ j => exact before j (Nat.lt_of_succ_lt_succ below)
    · rcases recordStops stops with ⟨other, read, left⟩ | ⟨closed, _, rest, read, some, left⟩
      · rw [read] at halts
        exact left ▸ haltsPoint split halts nofun
      · rw [read] at halts
        have points := haltsPoint split halts (by
          intro _ same
          cases same
          exact ⟨closed, some⟩)
        exact left ▸ points
  · exact ⟨0, nofun, unledPoints split filled stops⟩

theorem recordValid {sentence : Sentence} (read : recordOf talker text kind = .ok sentence)
    (refusal : Refusal) : sentence ≠ .invalid refusal := by
  cases kind with
  | rmc | gga | gsa | zda =>
    obtain ⟨record, _, rfl⟩ := mapOk.mp read
    exact nofun

theorem reportsCulprit {refusal : Refusal} (told : ofFields talker kind text = .invalid refusal) :
    ∃ entry below, refusal = .fields kind (entry.text text 0 ++ below) ∧
      Reported talker kind text refusal entry ∧ (text ≠ [] → Caret text entry) ∧
      ∃ k, (∀ j < k, ∃ field, (text.splitOn ',')[j]? = some field ∧ Suits kind.slots j field) ∧
        Points kind text k entry.position := by
  rw [ofFieldsRecord] at told
  cases read : recordOf talker text kind with
  | ok sentence =>
    rw [read] at told
    exact absurd told (recordValid read refusal)
  | error fault =>
    rw [read] at told
    cases told
    have begins := @reportBegins kind text fault _ _ rfl
    exact ⟨_, _, congrArg (Refusal.fields kind) begins, .first read rfl, fun some => entryCaret some 0 _,
      recordPoints read⟩

theorem reportsSurplusField :
    let text := ",120000,15,01,2024,00,00,".toList
    ∃ refusal, ofFields .gps .zda text = .invalid refusal ∧
      ∃ entry below, refusal = .fields .zda (entry.text text 0 ++ below) ∧
        Reported .gps .zda text refusal entry ∧ (text ≠ [] → Caret text entry) ∧
        ∃ k, (∀ j < k, ∃ field, (text.splitOn ',')[j]? = some field ∧ Suits (Kind.slots .zda) j field) ∧
          Points .zda text k entry.position := by
  intro text
  have told : ofFields .gps .zda text =
      .invalid (.fields .zda (Fault.report .zda text ⟨.finish, 1, none⟩)) := by
    decide +kernel
  exact ⟨_, told, reportsCulprit told⟩

end Texts

end NmeaReceiver.Sentence
