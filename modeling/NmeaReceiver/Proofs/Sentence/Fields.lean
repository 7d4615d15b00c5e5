import NmeaReceiver.Proofs.Sentence.Pieces

/-! Which texts are the fields of a sentence, and what they tell. A record is accepted by the pieces
that its layout names, and each of its fields is told by one of them; the last slot of three of the
layouts is read from the front of what follows the last named comma. -/
namespace NmeaReceiver.Sentence
open NmeaReceiver.Decimal NmeaReceiver.Calendar
open NmeaReceiver.Fix (bindOk pureOk)

theorem dateUnbroken (text : List Char) : ¬ ∃ rest, Slot.read .date text = .broken rest := by
  rintro ⟨rest, broken⟩
  change readDate text = .broken rest at broken
  unfold readDate at broken
  split at broken
  · cases broken
  · split at broken
    · cases broken
    · split at broken
      · cases broken
      · cases broken

theorem numberBroken {text : List Char} :
    (∃ rest, Slot.read .number text = .broken rest) ↔ BreaksOff text := by
  rw [← readNumeralBroken]
  change (∃ rest, readNumber text = .broken rest) ↔ _
  unfold readNumber
  cases readNumeral text <;> simp

def listed (slot : Slot) : (n : Nat) → Contents (List.replicate n slot) → List (Option slot.Value)
  | 0, _ => []
  | n + 1, contents => contents.1 :: listed slot n contents.2

theorem presentListed (slot : Slot) (n : Nat) (contents : Contents (List.replicate n slot)) :
    present slot n contents = (listed slot n contents).filterMap id := by
  induction n with
  | zero => rfl
  | succ n ih =>
    obtain ⟨value, rest⟩ := contents
    rw [present, ih, listed]
    cases value <;> rfl

theorem mapOk {ε α β : Type} {f : α → β} {first : Except ε α} {result : β} :
    first.map f = .ok result ↔ ∃ value, first = .ok value ∧ result = f value := by
  cases first with
  | error failure => simp [Except.map]
  | ok value => simp [Except.map, eq_comm]

theorem mapError {ε α β : Type} {f : α → β} {first : Except ε α} {failure : ε} :
    first.map f = .error failure ↔ first = .error failure := by
  cases first <;> simp [Except.map]

def Rmc.named : List Slot :=
  [.time, .status, .latitude, .northSouth, .longitude, .eastWest, .number, .number]

def Rmc.told (talker : Talker) (date : Option Date) : Contents Rmc.named → Rmc
  | (time, status, lat, ns, lon, ew, speed, course, _) =>
    ⟨talker, time, status == some true, Coordinates.of? lat ns lon ew, speed, course, date⟩

def Gga.named : List Slot :=
  [.time, .latitude, .northSouth, .longitude, .eastWest, .count, .count, .number, .number, .metres]

def Gga.told (talker : Talker) (separation : Option Binary64) : Contents Gga.named → Gga
  | (time, lat, ns, lon, ew, quality, satellites, hdop, altitude, _, _) =>
    ⟨talker, time, Coordinates.of? lat ns lon ew, quality.getD 0, satellites, hdop, altitude, separation⟩

def Gsa.named : List Slot :=
  [.mode, .count, .count, .count, .count, .count, .count, .count, .count, .count, .count, .count,
    .count, .count, .number, .number]

def Gsa.told (talker : Talker) (vdop : Option Binary64) : Contents Gsa.named → Gsa
  | (selection, fixType, a, b, c, d, e, f, g, h, i, j, k, l, pdop, hdop, _) =>
    ⟨talker, selection, fixType, [a, b, c, d, e, f, g, h, i, j, k, l].filterMap id, pdop, hdop, vdop⟩

def Zda.told (talker : Talker) : Contents Zda.layout → Zda
  | (time, day, month, year, hours, minutes, _) => ⟨talker, time, day, month, year, hours, minutes⟩

variable {talker : Talker} {text : List Char}

theorem rmcRead {record : Rmc} :
    Rmc.read talker text = .ok record ↔ ∃ contents date rest,
      readSlots (Rmc.named ++ [.date]) text =
        .ok (Contents.append Rmc.named contents (date, ()), rest) ∧
      record = Rmc.told talker date contents := by
  unfold Rmc.read
  simp only [bindOk]
  constructor
  · rintro ⟨⟨⟨time, status, lat, ns, lon, ew, speed, course, date, _⟩, rest⟩, read, same⟩
    exact ⟨(time, status, lat, ns, lon, ew, speed, course, ()), date, rest, read, pureOk.mp same⟩
  · rintro ⟨contents, date, rest, read, same⟩
    exact ⟨_, read, pureOk.mpr same⟩

theorem ggaRead {record : Gga} :
    Gga.read talker text = .ok record ↔ ∃ contents separation rest,
      readSlots (Gga.named ++ [.number]) text =
        .ok (Contents.append Gga.named contents (separation, ()), rest) ∧
      record = Gga.told talker separation contents := by
  unfold Gga.read
  simp only [bindOk]
  constructor
  · rintro ⟨⟨⟨time, lat, ns, lon, ew, quality, satellites, hdop, altitude, unit, separation, _⟩, rest⟩,
      read, same⟩
    exact ⟨(time, lat, ns, lon, ew, quality, satellites, hdop, altitude, unit, ()), separation, rest,
      read, pureOk.mp same⟩
  · rintro ⟨contents, separation, rest, read, same⟩
    exact ⟨_, read, pureOk.mpr same⟩

theorem readGroupOk {slots : List Slot} {filled : Contents slots × List Char} :
    readGroup slots text = .ok filled ↔ readSlots slots text = .ok filled := by
  unfold readGroup
  cases readSlots slots text <;> simp

def Gsa.join (lead : Contents Gsa.lead) (group : Contents (List.replicate Gsa.satelliteSlots .count))
    (pdop hdop : Option Binary64) : Contents Gsa.named :=
  Contents.append Gsa.lead lead
    (Contents.append (List.replicate Gsa.satelliteSlots .count) group
      ((pdop, hdop, ()) : Contents [.number, .number]))

theorem gsaTold (lead : Contents Gsa.lead)
    (group : Contents (List.replicate Gsa.satelliteSlots .count)) (pdop hdop vdop : Option Binary64) :
    Gsa.told talker vdop (Gsa.join lead group pdop hdop) =
      ⟨talker, lead.1, lead.2.1, present .count Gsa.satelliteSlots group, pdop, hdop, vdop⟩ :=
  congrArg (Gsa.mk talker lead.1 lead.2.1 · pdop hdop vdop)
    (presentListed .count Gsa.satelliteSlots group).symm

theorem gsaRead {record : Gsa} :
    Gsa.read talker text = .ok record ↔ ∃ contents vdop rest,
      readSlots (Gsa.named ++ [.number]) text =
        .ok (Contents.append Gsa.named contents (vdop, ()), rest) ∧
      record = Gsa.told talker vdop contents := by
  -- The layout is read in three steps, the second of them for the satellites.
  change _ ↔ ∃ contents vdop rest,
    readSlots (Gsa.lead ++ (List.replicate Gsa.satelliteSlots .count ++ Gsa.tail)) text =
      .ok (Contents.append Gsa.named contents (vdop, ()), rest) ∧ record = Gsa.told talker vdop contents
  unfold Gsa.read
  constructor
  · intro read
    obtain ⟨⟨⟨selection, fixType, _⟩, middle⟩, lead, read⟩ := bindOk.mp read
    obtain ⟨⟨group, next⟩, count, read⟩ := bindOk.mp read
    obtain ⟨⟨⟨pdop, hdop, vdop, _⟩, rest⟩, tail, same⟩ := bindOk.mp read
    have both := readSlotsJoin.mpr ⟨_, _, _, readGroupOk.mp count, tail, rfl⟩
    exact ⟨Gsa.join (selection, fixType, ()) group pdop hdop, vdop, rest,
      readSlotsJoin.mpr ⟨_, _, _, lead, both, rfl⟩,
      (pureOk.mp same).trans (gsaTold (selection, fixType, ()) group pdop hdop vdop).symm⟩
  · rintro ⟨contents, vdop, rest, read, rfl⟩
    obtain ⟨lead, middle, others, first, both, split⟩ := readSlotsJoin.mp read
    obtain ⟨group, next, tail, count, last, rfl⟩ := readSlotsJoin.mp both
    have whole : Contents.append Gsa.named (b := [.number]) contents (vdop, ()) =
        Contents.append Gsa.named (Gsa.join lead group tail.1 tail.2.1) (tail.2.2.1, ()) := split
    obtain ⟨rfl, same⟩ := appendInj whole
    obtain ⟨rfl, _⟩ := Prod.mk.inj same
    refine bindOk.mpr ⟨_, first, bindOk.mpr ⟨_, readGroupOk.mpr count, bindOk.mpr ⟨_, last, ?_⟩⟩⟩
    rw [gsaTold]
    rfl

theorem zdaRead {record : Zda} :
    Zda.read talker text = .ok record ↔ ∃ contents,
      readSlots Zda.layout text = .ok (contents, []) ∧ record = Zda.told talker contents := by
  unfold Zda.read
  constructor
  · intro read
    obtain ⟨⟨⟨time, day, month, year, hours, minutes, _⟩, rest⟩, read, finished⟩ := bindOk.mp read
    obtain ⟨_, finish, same⟩ := bindOk.mp finished
    cases rest with
    | nil => exact ⟨_, read, pureOk.mp same⟩
    | cons c rest => cases finish
  · rintro ⟨contents, read, same⟩
    exact bindOk.mpr ⟨_, read, bindOk.mpr ⟨(), rfl, pureOk.mpr same⟩⟩

theorem openRecord {α : Type} {slots : List Slot} {last : Slot} {read : Except Fault α}
    {told : Option last.Value → Contents slots → α} {erase : α → α}
    (optional : last.required = false)
    (reads : ∀ record, read = .ok record ↔ ∃ contents value rest,
      readSlots (slots ++ [last]) text = .ok (Contents.append slots contents (value, ()), rest) ∧
      record = told value contents)
    (erased : ∀ value contents, erase (told value contents) = told none contents) (record : α) :
    read.map erase = .ok record ↔ ∃ contents tail, tail ≠ [] ∧ Laid slots text contents tail ∧
      (¬ ∃ rest, last.read ([','].intercalate tail) = .broken rest) ∧
      record = told none contents := by
  rw [mapOk]
  constructor
  · rintro ⟨whole, came, rfl⟩
    obtain ⟨contents, value, rest, filled, rfl⟩ := (reads whole).mp came
    obtain ⟨tail, some, laid, unbroken⟩ := (lastLayout optional).mp ⟨value, rest, filled⟩
    exact ⟨contents, tail, some, laid, unbroken, erased value contents⟩
  · rintro ⟨contents, tail, some, laid, unbroken, rfl⟩
    obtain ⟨value, rest, filled⟩ := (lastLayout optional).mpr ⟨tail, some, laid, unbroken⟩
    exact ⟨told value contents, (reads _).mpr ⟨contents, value, rest, filled, rfl⟩,
      (erased value contents).symm⟩

theorem fieldGrammar (talker : Talker) (text : List Char) :
    (∀ record, (Rmc.read talker text).map (fun r => { r with date := none }) = .ok record ↔
      ∃ contents tail, tail ≠ [] ∧ Laid Rmc.named text contents tail ∧
        record = Rmc.told talker none contents) ∧
    (∀ record, (Gga.read talker text).map (fun r => { r with geoidSeparation := none }) = .ok record ↔
      ∃ contents tail, tail ≠ [] ∧ Laid Gga.named text contents tail ∧
        ¬ BreaksOff ([','].intercalate tail) ∧ record = Gga.told talker none contents) ∧
    (∀ record, (Gsa.read talker text).map (fun r => { r with vdop := none }) = .ok record ↔
      ∃ contents tail, tail ≠ [] ∧ Laid Gsa.named text contents tail ∧
        ¬ BreaksOff ([','].intercalate tail) ∧ record = Gsa.told talker none contents) ∧
    ∀ record, Zda.read talker text = .ok record ↔
      ∃ contents, Laid Zda.layout text contents [] ∧ record = Zda.told talker contents := by
  refine ⟨fun record => ?_, fun record => ?_, fun record => ?_, fun record => ?_⟩
  · rw [openRecord rfl (fun _ => rmcRead) (fun _ _ => rfl)]
    simp only [dateUnbroken, not_false_eq_true, true_and]
  · rw [openRecord rfl (fun _ => ggaRead) (fun _ _ => rfl)]
    simp only [numberBroken]
  · rw [openRecord rfl (fun _ => gsaRead) (fun _ _ => rfl)]
    simp only [numberBroken]
  · rw [zdaRead]
    simp only [closedLayout]

end NmeaReceiver.Sentence
