import NmeaReceiver.Proofs.Fix.Extraction
import NmeaReceiver.Proofs.Sentence.Slots

/-! Slots read one after the other are the pieces of the text between its commas. The pieces named
by a layout are followed by nothing, or by one more slot whose text may go on behind it. -/
namespace NmeaReceiver.Sentence
open NmeaReceiver.Fix (bindOk pureOk)

def commaed (pieces : List (List Char)) : List Char := pieces.flatMap (',' :: ·)

theorem commaedCons (piece : List Char) (pieces : List (List Char)) :
    commaed (piece :: pieces) = ',' :: (piece ++ commaed pieces) := rfl

theorem commaedAppend (a b : List (List Char)) : commaed (a ++ b) = commaed a ++ commaed b :=
  List.flatMap_append

theorem commaedClean (pieces : List (List Char)) {rest : List Char} (clean : Clean rest) :
    Clean (commaed pieces ++ rest) := by
  cases pieces with
  | nil => exact clean
  | cons piece pieces => rintro c ⟨⟩; rfl

theorem commaedStart (pieces : List (List Char)) : Clean (commaed pieces) := by
  have clean := commaedClean pieces (show Clean [] by simp [Clean])
  rwa [List.append_nil] at clean

theorem intercalateCommaed (piece : List Char) (pieces : List (List Char)) :
    [','].intercalate (piece :: pieces) = piece ++ commaed pieces := by
  induction pieces generalizing piece with
  | nil => simp [commaed]
  | cons next pieces ih => rw [List.intercalate_cons_cons, ih, commaedCons, List.append_assoc]; rfl

theorem splitCommaed {fields : List (List Char)} (free : ∀ field ∈ fields, ',' ∉ field)
    {piece : List Char} (clean : ',' ∉ piece) (after : List Char) :
    (piece ++ (commaed fields ++ ',' :: after)).splitOn ',' =
      piece :: (fields ++ after.splitOn ',') := by
  induction fields generalizing piece with
  | nil => exact List.splitOn_append_cons_self_of_not_mem clean after
  | cons field fields ih =>
    have others : ∀ other ∈ fields, ',' ∉ other :=
      fun other member => free other (List.mem_cons_of_mem _ member)
    rw [commaedCons, List.cons_append, List.append_assoc,
      List.splitOn_append_cons_self_of_not_mem clean, ih others (free field List.mem_cons_self)]
    rfl

theorem splitCommaedEnd {fields : List (List Char)} (free : ∀ field ∈ fields, ',' ∉ field)
    {piece : List Char} (clean : ',' ∉ piece) :
    (piece ++ commaed fields).splitOn ',' = piece :: fields := by
  induction fields generalizing piece with
  | nil => rw [commaed, List.flatMap_nil, List.append_nil]; exact List.splitOn_eq_singleton clean
  | cons field fields ih =>
    have others : ∀ other ∈ fields, ',' ∉ other :=
      fun other member => free other (List.mem_cons_of_mem _ member)
    rw [commaedCons, List.splitOn_append_cons_self_of_not_mem clean,
      ih others (free field List.mem_cons_self)]

theorem textOfPieces {text piece : List Char} {pieces : List (List Char)}
    (split : text.splitOn ',' = piece :: pieces) : text = piece ++ commaed pieces := by
  rw [← intercalateCommaed, ← split, List.intercalate_splitOn]

theorem pieceCommaFree {text piece : List Char} (member : piece ∈ text.splitOn ',') : ',' ∉ piece := by
  induction text generalizing piece with
  | nil =>
    rw [List.mem_singleton.mp member]
    exact List.not_mem_nil
  | cons c text ih =>
    rw [List.splitOn_cons_eq_if_modifyHead] at member
    split at member
    · rcases List.mem_cons.mp member with rfl | later
      · exact List.not_mem_nil
      · exact ih later
    · rename_i other
      cases pieces : text.splitOn ',' with
      | nil => exact absurd pieces (List.splitOn_ne_nil _ _)
      | cons first more =>
        rw [pieces] at member ih
        rcases List.mem_cons.mp member with rfl | later
        · have free := ih List.mem_cons_self
          have unlike : ',' ≠ c := fun same => other (beq_iff_eq.mpr same.symm)
          simp [unlike, free]
        · exact ih (List.mem_cons_of_mem _ later)

theorem commaFreeFront {token rest piece more : List Char} (same : piece ++ more = token ++ rest)
    (free : ',' ∉ token) (clean : Clean more) : ∃ left, piece = token ++ left ∧ rest = left ++ more := by
  rcases List.append_eq_append_iff.mp same with ⟨spare, rfl, rfl⟩ | ⟨left, rfl, rfl⟩
  · cases spare with
    | nil => exact ⟨[], by simp, rfl⟩
    | cons c spare =>
      have comma : c = ',' := clean c rfl
      exact absurd (by simp [comma]) free
  · exact ⟨left, rfl, rfl⟩

theorem readCommaOk {text rest : List Char} : readComma text = .ok rest ↔ text = ',' :: rest := by
  constructor
  · intro read
    unfold readComma at read
    split at read
    · cases read
      rfl
    · cases read
  · rintro rfl
    rfl

theorem readSlotOk {slot : Slot} {text rest : List Char} {value : Option slot.Value}
    (clean : Clean rest) :
    readSlot slot text = .ok (value, rest) ↔
      ∃ piece, text = piece ++ rest ∧ slot.Holds value piece := by
  have reads := slotReads slot
  unfold readSlot
  constructor
  · intro read
    cases came : slot.read text with
    | found found left =>
      rw [came] at read
      cases read
      exact (reads.found clean).mp came
    | broken left => rw [came] at read; cases read
    | absent =>
      rw [came] at read
      dsimp only at read
      split at read
      · cases read
      · rename_i optional
        cases read
        exact ⟨[], rfl, rfl, Bool.eq_false_iff.mpr optional⟩
  · rintro ⟨piece, rfl, holds⟩
    cases value with
    | some value => rw [(reads.found clean).mpr ⟨piece, rfl, holds⟩]
    | none =>
      obtain ⟨rfl, optional⟩ := holds
      rw [List.nil_append, reads.absent clean]
      simp only [optional, Bool.false_eq_true, if_false]

theorem readSlotSome {slot : Slot} {text rest : List Char} {value : slot.Value}
    (read : readSlot slot text = .ok (some value, rest)) : slot.read text = .found value rest := by
  unfold readSlot at read
  split at read
  · rename_i found
    cases read
    exact found
  · cases read
  · split at read <;> cases read

theorem holdsCommaFree {slot : Slot} {value : Option slot.Value} {piece : List Char}
    (holds : slot.Holds value piece) : ',' ∉ piece := by
  cases value with
  | none => rw [holds.1]; exact List.not_mem_nil
  | some value => exact (slotReads slot).commaFree holds

theorem holdsUnique {slot : Slot} {value other : Option slot.Value} {piece : List Char}
    (holds : slot.Holds value piece) (again : slot.Holds other piece) : value = other := by
  have clean : Clean [] := by simp [Clean]
  have first := (readSlotOk clean).mpr ⟨piece, (List.append_nil piece).symm, holds⟩
  have second := (readSlotOk clean).mpr ⟨piece, (List.append_nil piece).symm, again⟩
  rw [first] at second
  cases second
  rfl

theorem spelledUnique {slot : Slot} {value other : slot.Value} {piece : List Char}
    (spelled : slot.Spells value piece) (again : slot.Spells other piece) : value = other :=
  Option.some.inj (@holdsUnique slot (some value) (some other) piece spelled again)

theorem spellsSome {slot : Slot} {value : slot.Value} {piece : List Char}
    (spelled : slot.Spells value piece) : piece ≠ [] := by
  rintro rfl
  have clean : Clean [] := by simp [Clean]
  have found : slot.read [] = .found value [] := ((slotReads slot).found clean).mpr ⟨[], rfl, spelled⟩
  rw [(slotReads slot).absent clean] at found
  cases found

theorem blankHolds {slot : Slot} {value : Option slot.Value} (holds : slot.Holds value []) :
    value = none := by
  cases value with
  | none => rfl
  | some value => exact absurd rfl (spellsSome holds)

theorem filledCommaFree {slots : List Slot} {contents : Contents slots} {pieces : List (List Char)}
    (filled : Filled slots contents pieces) : ∀ piece ∈ pieces, ',' ∉ piece := by
  induction slots generalizing pieces with
  | nil => rw [show pieces = [] from filled]; exact nofun
  | cons slot slots ih =>
    cases pieces with
    | nil => cases filled
    | cons piece pieces =>
      intro other member
      rcases List.mem_cons.mp member with rfl | later
      · exact holdsCommaFree filled.1
      · exact ih filled.2 other later

theorem filledUnique {slots : List Slot} {contents others : Contents slots}
    {pieces : List (List Char)} (filled : Filled slots contents pieces)
    (again : Filled slots others pieces) : contents = others := by
  induction slots generalizing pieces with
  | nil => rfl
  | cons slot slots ih =>
    cases pieces with
    | nil => cases filled
    | cons piece pieces => exact Prod.ext (holdsUnique filled.1 again.1) (ih filled.2 again.2)

theorem filledPieces {slots : List Slot} {contents : Contents slots} {pieces : List (List Char)}
    (filled : Filled slots contents pieces) : pieces.length = slots.length := by
  induction slots generalizing pieces with
  | nil => simp [show pieces = [] from filled]
  | cons slot slots ih =>
    cases pieces with
    | nil => cases filled
    | cons piece pieces => simp [ih filled.2]

theorem readSlotsOk {slots : List Slot} {text rest : List Char} {contents : Contents slots}
    (clean : Clean rest) :
    readSlots slots text = .ok (contents, rest) ↔
      ∃ pieces, text = commaed pieces ++ rest ∧ Filled slots contents pieces := by
  induction slots generalizing text with
  | nil =>
    constructor
    · intro read
      cases read
      exact ⟨[], rfl, rfl⟩
    · rintro ⟨pieces, rfl, filled⟩
      rw [show pieces = [] from filled]
      rfl
  | cons slot slots ih =>
    simp only [readSlots, bindOk, pureOk, readCommaOk]
    constructor
    · rintro ⟨after, rfl, ⟨value, next⟩, first, ⟨values, left⟩, others, same⟩
      cases same
      obtain ⟨pieces, rfl, filled⟩ := ih.mp others
      obtain ⟨piece, rfl, holds⟩ := (readSlotOk (commaedClean pieces clean)).mp first
      exact ⟨piece :: pieces, by simp [commaedCons], holds, filled⟩
    · rintro ⟨pieces, rfl, filled⟩
      cases pieces with
      | nil => cases filled
      | cons piece pieces =>
        obtain ⟨holds, filled⟩ := filled
        have first := (readSlotOk (commaedClean pieces clean)).mpr ⟨piece, rfl, holds⟩
        refine ⟨piece ++ (commaed pieces ++ rest), by simp [commaedCons], _, first, _,
          ih.mpr ⟨pieces, rfl, filled⟩, rfl⟩

def Contents.append : (a : List Slot) → {b : List Slot} → Contents a → Contents b → Contents (a ++ b)
  | [], _, _, more => more
  | _ :: a, _, contents, more => (contents.1, append a contents.2 more)

theorem readSlotsJoin {a b : List Slot} {text rest : List Char} {contents : Contents (a ++ b)} :
    readSlots (a ++ b) text = .ok (contents, rest) ↔
      ∃ first middle second, readSlots a text = .ok (first, middle) ∧
        readSlots b middle = .ok (second, rest) ∧ contents = Contents.append a first second := by
  induction a generalizing text with
  | nil =>
    constructor
    · intro read
      exact ⟨(), text, contents, rfl, read, rfl⟩
    · rintro ⟨first, middle, second, read, others, rfl⟩
      cases read
      exact others
  | cons slot a ih =>
    simp only [List.cons_append, readSlots, bindOk, pureOk]
    constructor
    · rintro ⟨after, comma, ⟨value, next⟩, first, ⟨values, left⟩, others, same⟩
      cases same
      obtain ⟨front, middle, second, read, more, rfl⟩ := ih.mp others
      exact ⟨(value, front), middle, second,
        ⟨after, comma, _, first, (front, middle), read, rfl⟩, more, rfl⟩
    · rintro ⟨front, middle, second, ⟨after, comma, ⟨value, next⟩, first, ⟨values, left⟩, read, same⟩,
        more, rfl⟩
      cases same
      exact ⟨after, comma, _, first, (Contents.append a values second, rest),
        ih.mpr ⟨values, left, second, read, more, rfl⟩, rfl⟩

theorem appendInj {a b : List Slot} {first other : Contents a} {second more : Contents b}
    (same : Contents.append a first second = Contents.append a other more) :
    first = other ∧ second = more := by
  induction a with
  | nil => exact ⟨rfl, same⟩
  | cons slot a ih =>
    obtain ⟨value, rest⟩ := Prod.mk.inj same
    obtain ⟨front, back⟩ := ih rest
    exact ⟨Prod.ext value front, back⟩

def Laid (slots : List Slot) (text : List Char) (contents : Contents slots)
    (tail : List (List Char)) : Prop :=
  ∃ fields, text.splitOn ',' = [] :: (fields ++ tail) ∧ Filled slots contents fields

theorem closedLayout {slots : List Slot} {text : List Char} {contents : Contents slots} :
    readSlots slots text = .ok (contents, []) ↔ Laid slots text contents [] := by
  rw [readSlotsOk (fun c member => by cases member)]
  constructor
  · rintro ⟨pieces, rfl, filled⟩
    refine ⟨pieces, ?_, filled⟩
    rw [List.append_nil, List.append_nil]
    exact splitCommaedEnd (filledCommaFree filled) List.not_mem_nil
  · rintro ⟨pieces, split, filled⟩
    rw [List.append_nil] at split
    exact ⟨pieces, by rw [List.append_nil, textOfPieces split, List.nil_append], filled⟩

theorem openLayout {slots : List Slot} {text after : List Char} {contents : Contents slots} :
    readSlots slots text = .ok (contents, ',' :: after) ↔
      ∃ tail, tail ≠ [] ∧ [','].intercalate tail = after ∧ Laid slots text contents tail := by
  rw [readSlotsOk (by rintro c ⟨⟩; rfl)]
  constructor
  · rintro ⟨pieces, rfl, filled⟩
    refine ⟨after.splitOn ',', List.splitOn_ne_nil _ _, List.intercalate_splitOn _, pieces, ?_, filled⟩
    exact splitCommaed (filledCommaFree filled) List.not_mem_nil after
  · rintro ⟨tail, some, rfl, pieces, split, filled⟩
    obtain ⟨first, others, rfl⟩ := List.exists_cons_of_ne_nil some
    refine ⟨pieces, ?_, filled⟩
    rw [textOfPieces split, commaedAppend, commaedCons, intercalateCommaed]
    rfl

theorem readSlotOpen {slot : Slot} (optional : slot.required = false) {text : List Char} :
    (∃ value rest, readSlot slot text = .ok (value, rest)) ↔
      ¬ ∃ rest, slot.read text = .broken rest := by
  unfold readSlot
  cases came : slot.read text with
  | found value rest => simp
  | broken rest => simp
  | absent => simp [optional]

theorem lastRead {slots : List Slot} {last : Slot} {text rest : List Char}
    {contents : Contents slots} {value : Option last.Value} :
    readSlots (slots ++ [last]) text = .ok (Contents.append slots contents (value, ()), rest) ↔
      ∃ after, readSlots slots text = .ok (contents, ',' :: after) ∧
        readSlot last after = .ok (value, rest) := by
  simp only [readSlotsJoin]
  constructor
  · intro joined
    obtain ⟨first, middle, second, front, back, same⟩ := joined
    obtain ⟨rfl, rfl⟩ := appendInj same
    simp only [readSlots, bindOk, pureOk, readCommaOk] at back
    obtain ⟨after, rfl, _, read, _, none, same⟩ := back
    cases none
    cases same
    exact ⟨after, front, read⟩
  · intro cut
    obtain ⟨after, front, back⟩ := cut
    refine ⟨contents, _, (value, ()), front, ?_, rfl⟩
    simp only [readSlots, bindOk, pureOk, readCommaOk]
    exact ⟨after, rfl, _, back, _, rfl, rfl⟩

theorem lastLayout {slots : List Slot} {last : Slot} (optional : last.required = false)
    {text : List Char} {contents : Contents slots} :
    (∃ value rest, readSlots (slots ++ [last]) text =
        .ok (Contents.append slots contents (value, ()), rest)) ↔
      ∃ tail, tail ≠ [] ∧ Laid slots text contents tail ∧
        ¬ ∃ rest, last.read ([','].intercalate tail) = .broken rest := by
  constructor
  · rintro ⟨value, rest, read⟩
    obtain ⟨after, front, back⟩ := lastRead.mp read
    obtain ⟨tail, some, rfl, laid⟩ := openLayout.mp front
    exact ⟨tail, some, laid, (readSlotOpen optional).mp ⟨value, rest, back⟩⟩
  · rintro ⟨tail, some, laid, whole⟩
    obtain ⟨value, rest, back⟩ := (readSlotOpen optional).mpr whole
    exact ⟨value, rest, lastRead.mpr ⟨_, openLayout.mpr ⟨tail, some, rfl, laid⟩, back⟩⟩

end NmeaReceiver.Sentence
