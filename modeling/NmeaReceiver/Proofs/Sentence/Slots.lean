import NmeaReceiver.Proofs.Sentence.Numerals

/-! Every slot is read to the comma after it: the reader of a slot finds a value there exactly if
what stands before the comma spells it. -/
namespace NmeaReceiver.Sentence
open NmeaReceiver.Decimal NmeaReceiver.Calendar

section CommaFree

theorem digitsCommaFree {text : List Char} (all : ∀ c ∈ text, c.isDigit = true) : ',' ∉ text :=
  fun member => absurd (all ',' member) (by decide)

theorem signCommaFree {negative : Bool} {text : List Char} (signs : Sign negative text) :
    ',' ∉ text := by
  cases signs <;> decide

theorem mantissaCommaFree {whole fraction body : List Char} (digits : Mantissa whole fraction body) :
    ',' ∉ body := by
  cases digits with
  | plain digits => exact digitsCommaFree digits.all
  | pointed digits =>
    have free := digitsCommaFree digits.all
    simpa using free

theorem exponentCommaFree {exponent : Int} {scale : List Char} (spelled : Exponent exponent scale) :
    ',' ∉ scale := by
  cases spelled with
  | none => exact List.not_mem_nil
  | marked marks signs counts =>
    have sign := signCommaFree signs
    have digits := digitsCommaFree counts.all
    rcases marks with rfl | rfl <;> simp [sign, digits]

theorem numeralCommaFree {numeral : Numeral} {text : List Char} (spelled : NumeralText numeral text) :
    ',' ∉ text := by
  cases spelled with
  | parts signs digits scales =>
    simp [signCommaFree signs, mantissaCommaFree digits, exponentCommaFree scales]

theorem subsecondCommaFree {fraction : Nat} {text : List Char} (part : Subsecond fraction text) :
    ',' ∉ text := by
  cases part with
  | none => exact List.not_mem_nil
  | pointed digits => simp [digitsCommaFree digits.all]

end CommaFree

structure Reads {α : Type} (read : List Char → Reading α) (Spelled : α → List Char → Prop) :
    Prop where
  found : ∀ {text rest value}, Clean rest →
    (read text = .found value rest ↔ ∃ piece, text = piece ++ rest ∧ Spelled value piece)
  absent : ∀ {text}, Clean text → read text = .absent
  commaFree : ∀ {value piece}, Spelled value piece → ',' ∉ piece

section Runs

variable {α : Type} {width : Nat} {next : Nat → List Char → Reading α} {text rest : List Char}
  {value : α}

def afterRun (width : Nat) (next : Nat → List Char → Reading α) (text : List Char) : Reading α :=
  match digitRun? width text with
  | none => .absent
  | some (value, rest) => next value rest

theorem afterRunFound :
    afterRun width next text = .found value rest ↔
      ∃ digits after, text = digits ++ after ∧ Fixed width digits ∧
        next (digitsValue digits) after = .found value rest := by
  unfold afterRun
  constructor
  · intro found
    cases run : digitRun? width text with
    | none => rw [run] at found; cases found
    | some taken =>
      obtain ⟨digits, split, fixed, value⟩ := digitRunSome.mp run
      rw [run] at found
      exact ⟨digits, taken.2, split, fixed, value ▸ found⟩
  · rintro ⟨digits, after, split, fixed, found⟩
    rw [digitRunSome.mpr ⟨digits, split, fixed, rfl⟩]
    exact found

theorem afterRunKept
    (kept : ∀ size after, next size after = .found value rest → after = rest) :
    afterRun width next text = .found value rest ↔
      ∃ digits, text = digits ++ rest ∧ Fixed width digits ∧
        next (digitsValue digits) rest = .found value rest := by
  rw [afterRunFound]
  constructor
  · rintro ⟨digits, after, split, fixed, found⟩
    obtain rfl := kept _ _ found
    exact ⟨digits, split, fixed, found⟩
  · rintro ⟨digits, split, fixed, found⟩
    exact ⟨digits, rest, split, fixed, found⟩

theorem afterRunAbsent (clean : Clean text) : afterRun (width + 1) next text = .absent := by
  unfold afterRun
  cases run : digitRun? (width + 1) text with
  | none => rfl
  | some taken =>
    obtain ⟨digits, rfl, fixed, _⟩ := digitRunSome.mp run
    obtain ⟨first, more, rfl⟩ := List.exists_cons_of_ne_nil (fixedSome fixed)
    have comma := clean first rfl
    have digit := fixed.all first List.mem_cons_self
    rw [comma] at digit
    cases digit

def afterDigits (next : Nat → List Char → Reading α) (text : List Char) : Reading α :=
  if (text.takeWhile Char.isDigit).isEmpty then .absent
  else next (digitsValue (text.takeWhile Char.isDigit)) (text.dropWhile Char.isDigit)

theorem afterDigitsKept (clean : Clean rest)
    (kept : ∀ size after, next size after = .found value rest → after = rest) :
    afterDigits next text = .found value rest ↔
      ∃ digits, text = digits ++ rest ∧ Digits digits ∧
        next (digitsValue digits) rest = .found value rest := by
  unfold afterDigits
  constructor
  · intro found
    obtain ⟨all, _⟩ := scannedDigits text
    split at found
    · cases found
    · rename_i some
      have after := kept _ _ found
      rw [after] at found
      refine ⟨_, ?_, ⟨fun none => some (List.isEmpty_iff.mpr none), all⟩, found⟩
      rw [← after, List.takeWhile_append_dropWhile]
  · rintro ⟨digits, rfl, counts, found⟩
    obtain ⟨taken, dropped⟩ := scanDigits counts.all (cleanStops clean)
    rw [taken, dropped, if_neg (by simpa using counts.some)]
    exact found

theorem signedFound (inner : Bool → List Char → Reading α) {Run : List Char → Prop}
    {Meant : Bool → Nat → Prop}
    (run : ∀ digits, Run digits → digits ≠ [] ∧ ∀ c ∈ digits, c.isDigit = true)
    (reads : ∀ negative unsigned, inner negative unsigned = .found value rest ↔
      ∃ digits, unsigned = digits ++ rest ∧ Run digits ∧ Meant negative (digitsValue digits)) :
    inner (splitSign text).1 (splitSign text).2 = .found value rest ↔
      ∃ piece, text = piece ++ rest ∧ SignedText Run Meant piece := by
  rw [reads]
  constructor
  · rintro ⟨digits, split, runs, meant⟩
    obtain ⟨sign, signs, whole⟩ := splitSignParts text
    refine ⟨sign ++ digits, ?_, _, sign, digits, rfl, signs, runs, meant⟩
    rw [List.append_assoc, ← split]
    exact whole
  · rintro ⟨_, rfl, negative, sign, digits, rfl, signs, runs, meant⟩
    obtain ⟨some, all⟩ := run digits runs
    rw [List.append_assoc, splitSignOf signs (digitsUnsigned some all)]
    exact ⟨digits, rfl, runs, meant⟩

theorem signedCommaFree {Run : List Char → Prop} {Meant : Bool → Nat → Prop} {piece : List Char}
    (run : ∀ digits, Run digits → digits ≠ [] ∧ ∀ c ∈ digits, c.isDigit = true)
    (spelled : SignedText Run Meant piece) : ',' ∉ piece := by
  obtain ⟨negative, sign, digits, rfl, signs, runs, _⟩ := spelled
  simp [signCommaFree signs, digitsCommaFree (run digits runs).2]

theorem splitSignClean (clean : Clean text) : splitSign text = (false, text) :=
  splitSignOf .none (cleanUnsigned clean)

theorem withinFound {bound : Prop} [Decidable bound] {size : α} {after : List Char} :
    (if bound then Reading.found size after else .absent) = .found value rest ↔
      after = rest ∧ bound ∧ size = value := by
  split
  · rename_i holds
    simp [holds, and_comm]
  · rename_i fails
    simp [fails]

end Runs

theorem readNumberNumeral {text rest : List Char} {value : Binary64}
    (found : readNumber text = .found value rest) :
    ∃ numeral, readNumeral text = .found numeral rest ∧ value = numeral.toBinary64 := by
  unfold readNumber at found
  cases part : readNumeral text with
  | absent => rw [part] at found; cases found
  | broken left => rw [part] at found; cases found
  | found numeral left =>
    rw [part] at found
    cases found
    exact ⟨numeral, rfl, rfl⟩

theorem readNumberAbsent {text : List Char} : readNumber text = .absent ↔ readNumeral text = .absent := by
  unfold readNumber
  cases readNumeral text <;> simp

theorem readNumberSpelled {text rest : List Char} {value : Binary64}
    (found : readNumber text = .found value rest) :
    ∃ piece, text = piece ++ rest ∧ NumberText value piece := by
  obtain ⟨numeral, came, same⟩ := readNumberNumeral found
  obtain ⟨piece, split, spelled⟩ := readNumeralSpelled came
  exact ⟨piece, split, numeral, spelled, same⟩

theorem readsNumber : Reads readNumber NumberText where
  found {text rest value} clean := by
    constructor
    · exact readNumberSpelled
    · rintro ⟨piece, split, numeral, spelled, rfl⟩
      rw [readNumber, (readNumeralFound clean).mpr ⟨piece, split, spelled⟩]
  absent clean := readNumberAbsent.mpr (readNumeralAbsent clean)
  commaFree := by
    rintro value piece ⟨numeral, spelled, _⟩
    exact numeralCommaFree spelled

def readArc (limit degrees : Nat) (text : List Char) : Reading Binary64 :=
  match readNumber text with
  | .absent => .absent
  | .broken rest => .broken rest
  | .found minutes rest =>
    if Binary64.zero.le minutes && minutes.lt (.ofNat 60) then
      let angle := (Binary64.ofNat degrees).add (minutes.divNat 60)
      if angle.le (.ofNat limit) then .found angle rest else .absent
    else .absent

theorem readArcFound {limit degrees : Nat} {text rest : List Char} {angle : Binary64}
    (clean : Clean rest) :
    readArc limit degrees text = .found angle rest ↔
      ∃ arc minutes, text = arc ++ rest ∧ NumberText minutes arc ∧
        Binary64.zero.le minutes = true ∧ minutes.lt (.ofNat 60) = true ∧
        (Binary64.ofNat degrees).add (minutes.divNat 60) = angle ∧ angle.le (.ofNat limit) = true := by
  unfold readArc
  constructor
  · intro found
    cases part : readNumber text with
    | absent => rw [part] at found; cases found
    | broken left => rw [part] at found; cases found
    | found minutes left =>
      rw [part] at found
      dsimp only at found
      split at found
      · rename_i range
        obtain ⟨least, below⟩ := (Bool.and_eq_true _ _).mp range
        split at found
        · rename_i most
          obtain ⟨same, rfl⟩ := Reading.found.inj found
          obtain ⟨arc, split, spelled⟩ := (readsNumber.found clean).mp part
          exact ⟨arc, minutes, split, spelled, least, below, same, same ▸ most⟩
        · cases found
      · cases found
  · rintro ⟨arc, minutes, split, spelled, least, below, rfl, most⟩
    rw [(readsNumber.found clean).mpr ⟨arc, split, spelled⟩]
    simp only [least, below, most, Bool.and_self, if_true]

theorem readsDegrees (width limit : Nat) :
    Reads (readDegrees (width + 1) limit) (DegreesText (width + 1) limit) where
  found {text rest angle} clean := by
    change afterRun (width + 1) (readArc limit) text = _ ↔ _
    rw [afterRunFound]
    constructor
    · rintro ⟨degrees, after, rfl, fixed, found⟩
      obtain ⟨arc, minutes, rfl, spelled, range⟩ := (readArcFound clean).mp found
      exact ⟨degrees ++ arc, (List.append_assoc _ _ _).symm, degrees, arc, minutes, rfl, fixed,
        spelled, range⟩
    · rintro ⟨_, rfl, degrees, arc, minutes, rfl, fixed, spelled, range⟩
      exact ⟨degrees, arc ++ rest, List.append_assoc _ _ _, fixed,
        (readArcFound clean).mpr ⟨arc, minutes, rfl, spelled, range⟩⟩
  absent clean := by
    change afterRun (width + 1) (readArc limit) _ = _
    exact afterRunAbsent clean
  commaFree := by
    rintro angle _ ⟨degrees, arc, minutes, rfl, fixed, spelled, _⟩
    simp [digitsCommaFree fixed.all, readsNumber.commaFree spelled]

theorem digitsValueZeros (n : Nat) : digitsValue (List.replicate n '0') = 0 := by
  induction n with
  | zero => rfl
  | succ n ih => rw [List.replicate_succ', digitsValueAppend, ih]; rfl

theorem microsecondsFilled (digits : List Char) : microseconds digits = toMicroseconds digits := by
  unfold microseconds toMicroseconds
  dsimp only
  rw [List.take_append, List.take_replicate, digitsValueAppend, digitsValueZeros,
    List.length_replicate, List.length_take, Nat.add_zero]
  congr 2
  omega

theorem secondFractionFound {text rest : List Char} {fraction : Nat} (clean : Clean rest) :
    secondFraction text = (fraction, rest) ↔
      ∃ part, text = part ++ rest ∧ Subsecond fraction part := by
  constructor
  · intro found
    unfold secondFraction at found
    split at found
    · rename_i more
      dsimp only at found
      split at found
      · cases found
        exact ⟨[], rfl, .none⟩
      · rename_i some
        cases found
        rw [microsecondsFilled]
        obtain ⟨all, _⟩ := scannedDigits more
        refine ⟨_, ?_, .pointed ⟨fun none => some (List.isEmpty_iff.mpr none), all⟩⟩
        rw [List.cons_append, List.takeWhile_append_dropWhile]
    · cases found
      exact ⟨[], rfl, .none⟩
  · rintro ⟨_, rfl, part⟩
    cases part with
    | none =>
      rcases cleanCases clean with rfl | ⟨more, rfl⟩ <;> rfl
    | @pointed digits counts =>
      -- The scan runs on into what follows, where a comma stops it.
      obtain ⟨taken, dropped⟩ := scanDigits counts.all (cleanStops clean)
      change (if ((digits ++ rest).takeWhile Char.isDigit).isEmpty then _ else
        (microseconds ((digits ++ rest).takeWhile Char.isDigit), (digits ++ rest).dropWhile Char.isDigit)) = _
      rw [taken, dropped, if_neg (by simpa using counts.some), microsecondsFilled]

theorem readsTime : Reads readTime TimeText where
  found {text rest value} clean := by
    change afterRun 2 (fun hours => afterRun 2 fun minutes => afterRun 2 fun seconds after =>
      .found ⟨hours, minutes, seconds, (secondFraction after).1⟩ (secondFraction after).2) text =
        .found value rest ↔ _
    simp only [afterRunFound]
    constructor
    · rintro ⟨hours, _, rfl, hour, minutes, _, rfl, minute, seconds, after, rfl, second, found⟩
      cases found
      obtain ⟨part, split, spelled⟩ := (secondFractionFound clean).mp (Prod.eta _).symm
      refine ⟨_, ?_, .parts hour minute second spelled⟩
      simp only [List.append_assoc]
      rw [← split]
    · rintro ⟨_, rfl, @⟨hours, minutes, seconds, part, fraction, hour, minute, second, spelled⟩⟩
      refine ⟨hours, _, ?_, hour, minutes, _, rfl, minute, seconds, part ++ rest, rfl, second, ?_⟩
      · simp only [List.append_assoc]
      · rw [(secondFractionFound clean).mpr ⟨part, rfl, spelled⟩]
  absent clean := afterRunAbsent clean
  commaFree := by
    rintro value _ ⟨hour, minute, second, part⟩
    have tail := subsecondCommaFree part
    simp [digitsCommaFree hour.all, digitsCommaFree minute.all, digitsCommaFree second.all, tail]

theorem readsTwoDigits : Reads readTwoDigits TwoDigitsText where
  found {text rest value} clean := by
    change afterRun 2 (fun size after => .found size after) text = .found value rest ↔ _
    rw [afterRunKept fun _ _ found => (Reading.found.inj found).2]
    simp only [Reading.found.injEq, and_true]
    rfl
  absent clean := afterRunAbsent clean
  commaFree spelled := digitsCommaFree spelled.1.all

theorem readDateFound {text rest : List Char} {date : Date} :
    readDate text = .found date rest ↔ ∃ piece, text = piece ++ rest ∧ DateText date piece := by
  change afterRun 2 (fun day => afterRun 2 fun month => afterRun 2 fun (year : Nat) after =>
    .found ⟨2000 + (year : Int), month, day⟩ after) text = .found date rest ↔ _
  simp only [afterRunFound]
  constructor
  · rintro ⟨days, _, rfl, day, months, _, rfl, month, years, after, rfl, year, found⟩
    cases found
    refine ⟨_, ?_, .parts day month year⟩
    simp only [List.append_assoc]
  · rintro ⟨_, rfl, @⟨days, months, years, day, month, year⟩⟩
    refine ⟨days, _, ?_, day, months, _, rfl, month, years, rest, rfl, year, rfl⟩
    simp only [List.append_assoc]

theorem readsDate : Reads readDate DateText where
  found _ := readDateFound
  absent clean := afterRunAbsent clean
  commaFree := by
    rintro value _ ⟨day, month, year⟩
    simp [digitsCommaFree day.all, digitsCommaFree month.all, digitsCommaFree year.all]

theorem readsCount : Reads readCount CountText where
  found {text rest value} clean := by
    change afterDigits (fun size after => if size < twoTo 32 then .found size after else .absent)
      text = .found value rest ↔ _
    rw [afterDigitsKept clean fun _ _ found => (withinFound.mp found).1]
    simp only [withinFound, true_and]
    rfl
  absent clean := by
    rcases cleanCases clean with rfl | ⟨rest, rfl⟩ <;> rfl
  commaFree spelled := digitsCommaFree spelled.1.all

theorem digitsRun (digits : List Char) (counts : Digits digits) :
    digits ≠ [] ∧ ∀ c ∈ digits, c.isDigit = true := ⟨counts.some, counts.all⟩

theorem fixedRun (digits : List Char) (fixed : Fixed 2 digits) :
    digits ≠ [] ∧ ∀ c ∈ digits, c.isDigit = true := ⟨fixedSome fixed, fixed.all⟩

def signedYear (negative : Bool) : List Char → Reading Int :=
  afterDigits fun size after =>
    if -(twoTo 31 : Nat) ≤ signed negative size ∧ signed negative size < (twoTo 31 : Nat) then
      .found (signed negative size) after
    else .absent

theorem readsYear : Reads readYear YearText where
  found clean := signedFound signedYear digitsRun fun negative unsigned => by
    rw [signedYear, afterDigitsKept clean fun _ _ found => (withinFound.mp found).1]
    simp only [withinFound, true_and]
  absent clean := by
    rcases cleanCases clean with rfl | ⟨rest, rfl⟩ <;> rfl
  commaFree := signedCommaFree digitsRun

def signedHours (negative : Bool) : List Char → Reading Int :=
  afterRun 2 fun hours after => if hours ≤ 13 then .found (signed negative hours) after else .absent

theorem readsZoneHours : Reads readZoneHours ZoneHoursText where
  found clean := signedFound signedHours fixedRun fun negative unsigned => by
    rw [signedHours, afterRunKept fun _ _ found => (withinFound.mp found).1]
    simp only [withinFound, true_and]
  absent {text} clean := by
    change signedHours (splitSign text).1 (splitSign text).2 = .absent
    rw [splitSignClean clean]
    exact afterRunAbsent clean
  commaFree := signedCommaFree fixedRun

def signedMinutes (_negative : Bool) : List Char → Reading Nat :=
  afterRun 2 fun minutes after => if minutes < 60 then .found minutes after else .absent

theorem readsZoneMinutes : Reads readZoneMinutes ZoneMinutesText where
  found clean := signedFound signedMinutes fixedRun fun negative unsigned => by
    rw [signedMinutes, afterRunKept fun _ _ found => (withinFound.mp found).1]
    simp only [withinFound, true_and]
  absent {text} clean := by
    change signedMinutes (splitSign text).1 (splitSign text).2 = .absent
    rw [splitSignClean clean]
    exact afterRunAbsent clean
  commaFree := signedCommaFree fixedRun

theorem readsLetter {α : Type} {meanings : List (Char × α)} {Spelled : α → List Char → Prop}
    (single : ∀ value text, Spelled value text ↔ ∃ c, text = [c] ∧ meanings.lookup c = some value)
    (free : meanings.lookup ',' = none) : Reads (readLetter meanings) Spelled where
  found {text rest value} clean := by
    simp only [single]
    constructor
    · intro found
      cases text with
      | nil => cases found
      | cons c after =>
        unfold readLetter at found
        dsimp only at found
        split at found
        · rename_i meant
          cases found
          exact ⟨[c], rfl, c, rfl, meant⟩
        · cases found
    · rintro ⟨_, rfl, c, rfl, meant⟩
      rw [List.singleton_append, readLetter, meant]
  absent {text} clean := by
    rcases cleanCases clean with rfl | ⟨rest, rfl⟩
    · rfl
    · rw [readLetter, free]
  commaFree {value piece} spelled := by
    obtain ⟨c, rfl, meant⟩ := (single value piece).mp spelled
    intro member
    rw [← List.mem_singleton.mp member, free] at meant
    cases meant

theorem lookupPair {α : Type} {a b c : Char} {x y value : α} (other : b ≠ a) :
    [(a, x), (b, y)].lookup c = some value ↔ c = a ∧ x = value ∨ c = b ∧ y = value := by
  by_cases first : c = a
  · subst first
    simp [other.symm]
  · have unlike : (c == a) = false := beq_eq_false_iff_ne.mpr first
    rw [List.lookup_cons, unlike]
    by_cases second : c = b
    · subst second
      simp [first]
    · simp [List.lookup_cons, beq_eq_false_iff_ne.mpr second, first, second]

theorem readsEither {yes no : Char} (other : no ≠ yes) (positive : ',' ≠ yes) (negative : ',' ≠ no) :
    Reads (readLetter [(yes, true), (no, false)])
      fun value text => text = [if value then yes else no] := by
  refine readsLetter (fun value text => ?_) ?_
  · constructor
    · rintro rfl
      refine ⟨_, rfl, ?_⟩
      cases value <;> simp [lookupPair other]
    · rintro ⟨c, rfl, meant⟩
      rcases (lookupPair other).mp meant with ⟨rfl, rfl⟩ | ⟨rfl, rfl⟩ <;> rfl
  · rw [Option.eq_none_iff_forall_ne_some]
    intro value meant
    rcases (lookupPair other).mp meant with ⟨same, _⟩ | ⟨same, _⟩
    · exact positive same
    · exact negative same

theorem readsMetres : Reads (Slot.read .metres) (Slot.Spells .metres) := by
  refine readsLetter (fun value text => ?_) rfl
  constructor
  · rintro rfl
    exact ⟨'M', rfl, rfl⟩
  · rintro ⟨c, rfl, meant⟩
    by_cases same : c = 'M'
    · rw [same]
      rfl
    · rw [List.lookup_cons, beq_eq_false_iff_ne.mpr same] at meant
      cases meant

theorem readsMode : Reads (Slot.read .mode) (Slot.Spells .mode) := by
  refine readsLetter (fun value text => ?_) rfl
  constructor
  · intro spelled
    cases value with
    | automatic => exact ⟨'A', spelled, rfl⟩
    | manual => exact ⟨'M', spelled, rfl⟩
  · rintro ⟨c, rfl, meant⟩
    rcases (lookupPair (by decide)).mp meant with ⟨rfl, rfl⟩ | ⟨rfl, rfl⟩ <;> rfl

theorem slotReads (slot : Slot) : Reads slot.read slot.Spells := by
  cases slot with
  | time => exact readsTime
  | date => exact readsDate
  | status => exact readsEither (by decide) (by decide) (by decide)
  | latitude => exact readsDegrees 1 90
  | northSouth => exact readsEither (by decide) (by decide) (by decide)
  | longitude => exact readsDegrees 2 180
  | eastWest => exact readsEither (by decide) (by decide) (by decide)
  | number => exact readsNumber
  | count => exact readsCount
  | metres => exact readsMetres
  | mode => exact readsMode
  | twoDigits => exact readsTwoDigits
  | year => exact readsYear
  | zoneHours => exact readsZoneHours
  | zoneMinutes => exact readsZoneMinutes

end NmeaReceiver.Sentence
