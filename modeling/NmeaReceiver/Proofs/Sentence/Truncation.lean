import NmeaReceiver.Proofs.Sentence.Records

/-! Records of a line that was cut short. Every slot but the last ends at a comma, so a cut that
leaves all commas leaves what stands between them. What the last slot loses depends on the layout. -/
namespace NmeaReceiver.Sentence
open NmeaReceiver.Calendar
open NmeaReceiver.Fix (bindOk pureOk)

theorem cutBody {part line short body noise other after rest : List Char} (cut : part <+: line)
    (first : Placed part short noise after) (second : Placed line body other rest) :
    ∃ more, body = short ++ more ∧ (more = [] ∨ after = []) := by
  obtain ⟨left, rfl⟩ := cut
  have whole : noise ++ '$' :: (short ++ (after ++ left)) = other ++ '$' :: (body ++ rest) := by
    rw [← second.parts, first.parts]
    simp
  obtain ⟨_, texts⟩ := placedUnique first.ahead second.ahead whole
  have taken := congrArg (List.takeWhile isBodyChar) texts
  rw [runTaken second.inside second.ends] at taken
  cases after with
  | nil =>
    rw [List.takeWhile_append_of_pos first.inside] at taken
    exact ⟨_, taken.symm, .inr rfl⟩
  | cons c rest =>
    rw [runTaken first.inside (by simpa using first.ends)] at taken
    exact ⟨[], by simp [taken], .inl rfl⟩

variable {talker : Talker} {text more rest tail : List Char}

theorem readSlotsExtended {slots : List Slot} {contents : Contents slots} {after : List Char}
    (read : readSlots slots text = .ok (contents, ',' :: after)) (more : List Char) :
    readSlots slots (text ++ more) = .ok (contents, ',' :: (after ++ more)) := by
  have clean : ∀ after, Clean (',' :: after) := by simp [Clean]
  obtain ⟨pieces, rfl, filled⟩ := (readSlotsOk (clean _)).mp read
  exact (readSlotsOk (clean _)).mpr ⟨pieces, by simp, filled⟩

theorem cutSlots {slots : List Slot} {last : Slot} {contents others : Contents slots}
    {value found : Option last.Value}
    (short : readSlots (slots ++ [last]) text = .ok (Contents.append slots contents (value, ()), rest))
    (long : readSlots (slots ++ [last]) (text ++ more) =
      .ok (Contents.append slots others (found, ()), tail)) :
    others = contents ∧ ∃ after, readSlots slots text = .ok (contents, ',' :: after) ∧
      readSlot last after = .ok (value, rest) ∧ readSlot last (after ++ more) = .ok (found, tail) := by
  obtain ⟨after, front, back⟩ := lastRead.mp short
  obtain ⟨later, front', back'⟩ := lastRead.mp long
  rw [readSlotsExtended front more] at front'
  cases front'
  exact ⟨rfl, after, front, back, back'⟩

theorem readDateExtended {date : Date} (found : readDate text = .found date rest) (more : List Char) :
    readDate (text ++ more) = .found date (rest ++ more) := by
  obtain ⟨piece, rfl, spelled⟩ := readDateFound.mp found
  exact readDateFound.mpr ⟨piece, List.append_assoc _ _ _, spelled⟩

theorem cutRmc {short whole : Rmc} (first : Rmc.read talker text = .ok short)
    (second : Rmc.read talker (text ++ more) = .ok whole) :
    { whole with date := none } = { short with date := none } ∧
      ∀ date ∈ short.date, whole.date = some date := by
  obtain ⟨contents, date, rest, read, rfl⟩ := rmcRead.mp first
  obtain ⟨others, found, tail, read', rfl⟩ := rmcRead.mp second
  obtain ⟨rfl, after, _, last, last'⟩ := cutSlots read read'
  refine ⟨rfl, fun day sent => ?_⟩
  cases (show date = some day from sent)
  have came : readDate after = .found day rest := readSlotSome last
  simp [readSlot, Slot.read, readDateExtended came more] at last'
  exact last'.1.symm

theorem cutGga {short whole : Gga} (first : Gga.read talker text = .ok short)
    (second : Gga.read talker (text ++ more) = .ok whole) :
    { whole with geoidSeparation := none } = { short with geoidSeparation := none } := by
  obtain ⟨contents, separation, rest, read, rfl⟩ := ggaRead.mp first
  obtain ⟨others, found, tail, read', rfl⟩ := ggaRead.mp second
  obtain ⟨rfl, _⟩ := cutSlots read read'
  rfl

theorem cutGsa {short whole : Gsa} (first : Gsa.read talker text = .ok short)
    (second : Gsa.read talker (text ++ more) = .ok whole) :
    { whole with vdop := none } = { short with vdop := none } := by
  obtain ⟨contents, vdop, rest, read, rfl⟩ := gsaRead.mp first
  obtain ⟨others, found, tail, read', rfl⟩ := gsaRead.mp second
  obtain ⟨rfl, _⟩ := cutSlots read read'
  rfl

theorem commaedCount {pieces : List (List Char)} (free : ∀ piece ∈ pieces, ',' ∉ piece) :
    (commaed pieces).count ',' = pieces.length := by
  induction pieces with
  | nil => rfl
  | cons piece pieces ih =>
    have others := ih fun other member => free other (List.mem_cons_of_mem _ member)
    have none := List.count_eq_zero.mpr (free piece List.mem_cons_self)
    simp [commaedCons, others, none]

theorem minutesWhole {minutes others : Nat} (spelled : ZoneMinutesText minutes text)
    (again : ZoneMinutesText others (text ++ more)) : more = [] := by
  obtain ⟨negative, sign, digits, rfl, signs, fixed, _⟩ := spelled
  obtain ⟨negative', sign', digits', split, signs', fixed', _⟩ := again
  have unsigned := splitSignOf signs (@digitsUnsigned digits more (fixedSome fixed) fixed.all)
  have unsigned' := splitSignOf signs' (@digitsUnsigned digits' [] (fixedSome fixed') fixed'.all)
  rw [List.append_assoc] at split
  rw [List.append_nil, ← split, unsigned] at unsigned'
  have lengths := congrArg List.length (Prod.mk.inj unsigned').2
  rw [List.length_append, fixed.length, fixed'.length] at lengths
  exact List.length_eq_zero_iff.mp (by omega)

def Zda.unzoned : List Slot := [.time, .twoDigits, .twoDigits, .year, .zoneHours]

theorem zdaParts {record : Zda} (read : Zda.read talker text = .ok record) :
    ∃ (contents : Contents Zda.unzoned) (piece : List Char),
      readSlots Zda.unzoned text = .ok (contents, ',' :: piece) ∧
      Slot.zoneMinutes.Holds record.zoneMinutes piece ∧
      record = Zda.told talker
        (Contents.append Zda.unzoned (b := [.zoneMinutes]) contents (record.zoneMinutes, ())) := by
  obtain ⟨⟨time, day, month, year, hours, minutes, _⟩, filled, rfl⟩ := zdaRead.mp read
  have cut : ∃ after,
      readSlots Zda.unzoned text = .ok ((time, day, month, year, hours, ()), ',' :: after) ∧
      readSlot .zoneMinutes after = .ok (minutes, []) := lastRead.mp filled
  obtain ⟨after, front, last⟩ := cut
  obtain ⟨piece, rfl, holds⟩ := (readSlotOk (by simp [Clean])).mp last
  exact ⟨_, piece, by simpa using front, holds, rfl⟩

theorem cutZda {short whole : Zda} (first : Zda.read talker text = .ok short)
    (second : Zda.read talker (text ++ more) = .ok whole) :
    { whole with zoneMinutes := none } = { short with zoneMinutes := none } ∧
      (more = [] ∨ short.zoneMinutes = none) := by
  obtain ⟨contents, piece, front, holds, told⟩ := zdaParts first
  obtain ⟨others, piece', front', holds', told'⟩ := zdaParts second
  rw [readSlotsExtended front more] at front'
  cases front'
  refine ⟨by rw [told, told']; rfl, ?_⟩
  cases known : short.zoneMinutes with
  | none => exact .inr rfl
  | some minutes =>
    rw [known] at holds
    cases again : whole.zoneMinutes with
    | none =>
      rw [again] at holds'
      exact .inl (List.append_eq_nil_iff.mp holds'.1).2
    | some others =>
      rw [again] at holds'
      exact .inl (minutesWhole holds holds')

theorem zdaEnds {record : Zda} (read : Zda.read talker text = .ok record) :
    text.count ',' = 6 ∧ (text.getLast? = some ',' ↔ record.zoneMinutes = none) := by
  obtain ⟨contents, piece, front, holds, _⟩ := zdaParts read
  obtain ⟨pieces, rfl, filled⟩ := (readSlotsOk (by simp [Clean])).mp front
  have free := holdsCommaFree holds
  have count := List.count_eq_zero.mpr free
  constructor
  · simp [commaedCount (filledCommaFree filled), filledPieces filled, Zda.unzoned, count]
  · cases known : record.zoneMinutes with
    | none =>
      rw [known] at holds
      simp [holds.1]
    | some minutes =>
      rw [known] at holds
      obtain ⟨c, last⟩ := List.getLast?_isSome.mpr (@spellsSome .zoneMinutes _ _ holds) |> Option.isSome_iff_exists.mp
      have other : c ≠ ',' := fun same => free (same ▸ List.mem_of_getLast? last)
      simp [List.getLast?_cons, last, other]

structure EndsAtSixth (line : List Char) : Prop where
  last : (line.dropWhile (· != '$')).getLast? = some ','
  commas : (line.dropWhile (· != '$')).count ',' = 6

theorem placedFields {line body noise after : List Char} (placed : Placed line body noise after) :
    line.dropWhile (· != '$') = '$' :: (body ++ after) := by
  rw [placed.parts, skipNoise placed.ahead]
  simp

theorem addressedCommas {body : List Char} (addressed : Addressed body) :
    body.count ',' = (body.drop 5).count ',' := by
  have none : (body.take 5).count ',' = 0 := by
    refine List.count_eq_zero.mpr fun member => ?_
    have char := addressed.2 ',' member
    revert char
    decide
  have parts : (body.take 5 ++ body.drop 5).count ',' = _ := List.count_append
  rwa [List.take_append_drop, none, Nat.zero_add] at parts

/-- What a cut leaves of a sentence: the same sentence, or one that lost what its last slot holds. -/
inductive Shortened (part : List Char) : Sentence → Sentence → Prop where
  | same (sentence : Sentence) : Shortened part sentence sentence
  | rmc {short whole : Rmc} (kept : { whole with date := none } = { short with date := none })
      (dated : ∀ date ∈ short.date, whole.date = some date) : Shortened part (.rmc short) (.rmc whole)
  | gga {short whole : Gga}
      (kept : { whole with geoidSeparation := none } = { short with geoidSeparation := none }) :
      Shortened part (.gga short) (.gga whole)
  | gsa {short whole : Gsa} (kept : { whole with vdop := none } = { short with vdop := none }) :
      Shortened part (.gsa short) (.gsa whole)
  | zda {short whole : Zda}
      (kept : { whole with zoneMinutes := none } = { short with zoneMinutes := none })
      (lost : short.zoneMinutes = none) (ends : EndsAtSixth part) : Shortened part (.zda short) (.zda whole)

section Lines

variable {part line short body : List Char} {kind other : Kind} {sentence whole : Sentence}

theorem cutAddress (first : Recorded part short kind sentence)
    (second : Recorded line (short ++ more) other whole) :
    ReadAs (.ofCode (short.take 2)) (short.drop 5 ++ more) kind whole := by
  have long := first.addressed.1
  have take (n : Nat) (few : n ≤ 5) : (short ++ more).take n = short.take n :=
    List.take_append_of_le_length (by omega)
  have drop (n : Nat) (few : n ≤ 5) : (short ++ more).drop n = short.drop n ++ more :=
    List.drop_append_of_le_length (by omega)
  have code : ((short.drop 2) ++ more).take 3 = (short.drop 2).take 3 :=
    List.take_append_of_le_length (by simp; omega)
  have names := second.named
  rw [drop 2 (by omega), code, first.named] at names
  have kinds : some kind = some other := by rw [← kind.ofCodeName, names, other.ofCodeName]
  have read := recordedAs second
  rwa [take 2 (by omega), drop 5 (by omega), ← Option.some.inj kinds] at read

theorem endsAtSixth {record : Zda} {noise : List Char} (first : Recorded part short .zda (.zda record))
    (placed : Placed part short noise []) (lost : record.zoneMinutes = none) : EndsAtSixth part := by
  cases recordedAs first with
  | zda read =>
    obtain ⟨count, ends⟩ := zdaEnds read
    have last := ends.mpr lost
    have fields : short.getLast? = some ',' := by
      rw [← List.take_append_drop 5 short, List.getLast?_append, last]
      rfl
    constructor
    · simp [placedFields placed, List.getLast?_cons, fields]
    · simp [placedFields placed, addressedCommas first.addressed, count]

theorem cutSentence (cut : part <+: line) (first : Recorded part short kind sentence)
    (second : Recorded line body other whole) : Shortened part sentence whole := by
  obtain ⟨noise, after, placed⟩ := recordedPlaced first
  obtain ⟨_, _, placed'⟩ := recordedPlaced second
  obtain ⟨more, rfl, ends⟩ := cutBody cut placed placed'
  cases recordedAs first with
  | rmc read =>
    cases cutAddress first second with
    | rmc again => exact .rmc (cutRmc read again).1 (cutRmc read again).2
  | gga read =>
    cases cutAddress first second with
    | gga again => exact .gga (cutGga read again)
  | gsa read =>
    cases cutAddress first second with
    | gsa again => exact .gsa (cutGsa read again)
  | zda read =>
    cases cutAddress first second with
    | zda again =>
      obtain ⟨kept, lost⟩ := cutZda read again
      by_cases none : more = []
      · rw [none, List.append_nil, read] at again
        cases again
        exact .same _
      · have lost := lost.resolve_left none
        rw [ends.resolve_left none] at placed
        exact .zda kept lost (endsAtSixth first placed lost)

theorem endsWithoutMinutes {record : Zda} (recorded : Recorded part body kind (.zda record))
    (ends : EndsAtSixth part) : record.zoneMinutes = none := by
  obtain ⟨noise, after, placed⟩ := recordedPlaced recorded
  cases recordedAs recorded with
  | zda read =>
    obtain ⟨count, blank⟩ := zdaEnds read
    have commas := ends.commas
    have last := ends.last
    simp only [placedFields placed, List.getLast?_cons, List.getLast?_append, Option.some.injEq] at last
    simp [placedFields placed, addressedCommas recorded.addressed, count] at commas
    cases after with
    | nil =>
      cases fields : (body.drop 5).getLast? with
      | none => simp [List.getLast?_eq_none_iff.mp fields] at count
      | some c =>
        rw [← List.take_append_drop 5 body, List.getLast?_append, fields] at last
        exact blank.mp (by simpa [fields] using last)
    | cons c rest =>
      -- All six commas stand in the body, so none can end the text after it.
      have some := List.getLast?_eq_some_getLast (List.cons_ne_nil c rest)
      have comma : (c :: rest).getLast (List.cons_ne_nil c rest) = ',' := by simpa [some] using last
      have member := List.getLast_mem (List.cons_ne_nil c rest)
      exact absurd (comma ▸ member) (List.count_eq_zero.mp commas)

end Lines

end NmeaReceiver.Sentence
