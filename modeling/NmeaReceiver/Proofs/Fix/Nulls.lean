import NmeaReceiver.Proofs.Decimal.Overflow
import NmeaReceiver.Proofs.Fix.Coordinates
import NmeaReceiver.Proofs.Fix.Offsets
import NmeaReceiver.Proofs.Fix.Snapshot

/-! What a null in the line of JSON says. Under a clock with finite offsets a field is null exactly if
no line has carried it, but for the elevation: one that is too large for a finite number is kept as
an infinity, and an infinity is null too. -/
namespace NmeaReceiver.Fix.Nulls
open NmeaReceiver.Decimal NmeaReceiver.Sentence

def shown (json key : String) : Option String := (readMembers json).bind (·.lookup key)

def Untold {α : Type} (tells : List Char → Option α) (lines : List (List Char)) : Prop :=
  ∀ line ∈ lines, tells line = none

structure NullsTold (clock : Clock) (lines : List (List Char)) (json : String) : Prop where
  latitude : shown json "latitude" = some "null" ↔ Untold (positionIn clock) lines
  longitude : shown json "longitude" = some "null" ↔ Untold (positionIn clock) lines
  elevation : shown json "elevation" = some "null" ↔ Untold (elevationIn clock) lines ∨
    ∃ negative, lastTold (elevationIn clock) lines = some (.infinite negative)
  timestamp : shown json "utc_timestamp" = some "null" ↔ Untold (timeIn clock) lines
  offset : shown json "utc_offset_hours" = some "null" ↔ Untold (timeIn clock) lines
  status : shown json "fix_status" = some "null" ↔ Untold statusIn lines

inductive Spelled (line : List Char) : Binary64 → Numeral → Prop where
  | ninth {fields : List (List Char)} {piece : List Char} {numeral : Numeral}
      (fieldsOf : FieldsOf line fields) (stands : fields[9]? = some piece)
      (spells : NumeralText numeral piece) : Spelled line numeral.toBinary64 numeral

section Texts

theorem exponentMarked (below : Prop) [Decidable below] :
    'e' ∈ (if below then "e-" else "e+").toList := by
  split <;> decide

theorem pointMarked (form : ShortForm) (point : Point) :
    '.' ∈ (point.text form).toList ∨ 'e' ∈ (point.text form).toList := by
  unfold Point.text
  dsimp only
  split
  · refine .inl ?_
    split
    · simp
    · split <;> simp
  · refine .inr ?_
    simp only [String.toList_append, List.mem_append, exponentMarked, true_or, or_true]

theorem finiteShort {x : Binary64} (finite : x.Finite) :
    ∃ text, x.shortText? = some text ∧ text ≠ "null" := by
  obtain ⟨negative, units, rfl⟩ := finite
  refine ⟨_, rfl, fun same => ?_⟩
  have marked : ∀ c ∈ ['.', 'e'], c ∉ "null".toList := by simp
  rw [← same] at marked
  simp only [String.toList_append, List.mem_append, not_or] at marked
  have point := (marked '.' (by simp)).2
  have exponent := (marked 'e' (by simp)).2
  split at point
  · exact point (by decide)
  · rename_i some
    rw [if_neg some] at exponent
    exact (pointMarked _ _).elim point exponent

theorem numberNull {x : Option Binary64} :
    (numberValue x).text = "null" ↔ ∀ number ∈ x, ¬ number.Finite := by
  cases x with
  | none => exact iff_of_true rfl nofun
  | some number =>
    simp only [Option.mem_some_iff, forall_eq']
    unfold numberValue
    cases number with
    | nan => exact iff_of_true rfl nofun
    | infinite negative => exact iff_of_true rfl nofun
    | finite negative units =>
      have finite : (Binary64.finite negative units).Finite := ⟨negative, units, rfl⟩
      obtain ⟨text, short, other⟩ := finiteShort finite
      rw [Option.bind_some, short]
      exact iff_of_false other fun none => none finite

theorem stringNull {x : Option String} : (stringValue x).text = "null" ↔ x = none := by
  cases x with
  | none => exact iff_of_true rfl rfl
  | some text =>
    refine iff_of_false (fun same => ?_) nofun
    have quote : '"' ∉ "null".toList := by decide
    rw [← same] at quote
    simp [stringValue, Value.text] at quote

end Texts

section Tells

variable {α : Type} {tells : List Char → Option α} {lines : List (List Char)}

theorem lastToldNone : lastTold tells lines = none ↔ Untold tells lines := by
  rw [lastTold, List.getLast?_eq_none_iff, List.filterMap_eq_nil_iff]
  rfl

theorem lastToldBy {value : α} (last : lastTold tells lines = some value) :
    ∃ line ∈ lines, tells line = some value :=
  List.mem_filterMap.mp (List.mem_of_getLast? last)

theorem toldNull {part : α → Binary64} {number : Option Binary64}
    (held : number = (lastTold tells lines).map part)
    (finite : ∀ line value, tells line = some value → (part value).Finite) :
    (numberValue number).text = "null" ↔ Untold tells lines := by
  rw [numberNull, ← lastToldNone, held]
  cases last : lastTold tells lines with
  | none => exact iff_of_true nofun rfl
  | some value =>
    obtain ⟨line, _, told⟩ := lastToldBy last
    refine iff_of_false (fun none => none _ rfl (finite line value told)) nofun

end Tells

section Lines

variable {clock : Clock} {lines : List (List Char)} {line : List Char}

theorem positionFinite {position : Position} (told : positionIn clock line = some position) :
    position.latitude.Finite ∧ position.longitude.Finite := by
  obtain ⟨update, found, place⟩ := Option.bind_eq_some_iff.mp told
  obtain ⟨angles, known, north, east⟩ := Coordinates.updatePlace found place
  have onEarth := placeOnEarth known
  obtain ⟨negative, units, same, _⟩ := onEarth.latitude
  obtain ⟨_, _, turned⟩ := Coordinates.directedTurned onEarth.longitude
  exact ⟨⟨negative, units, north.trans same⟩, ⟨false, _, east.trans turned.modulo⟩⟩

theorem zoneFinite {fields : List (List Char)} {record : Zda} (read : ZoneRead fields record)
    {utc : Calendar.Instant} (here : (clock.offsetHours utc).Finite) :
    (zdaOffset clock record utc).Finite := by
  obtain ⟨⟨_, _, inHours⟩, _, _, inMinutes⟩ := read
  unfold zdaOffset
  cases named : record.zoneHours with
  | none => exact here
  | some hours =>
    rw [named] at inHours
    obtain ⟨negative, _, digits, _, _, _, few, rfl⟩ := inHours
    have short : record.zoneMinutes.getD 0 < 100 := by
      cases timed : record.zoneMinutes with
      | none => decide
      | some minutes =>
        rw [timed] at inMinutes
        obtain ⟨_, _, _, _, _, _, below, rfl⟩ := inMinutes
        exact Nat.lt_trans below (by decide)
    obtain ⟨units, _, value⟩ := @zoneValueUnits (digitsValue digits) _ (by omega) short
    simp only [zoneOffsetSigned]
    exact ⟨_, units, value _⟩

theorem timeFinite (finite : ∀ utc, (clock.offsetHours utc).Finite) {fix : TimeFix}
    (told : timeIn clock line = some fix) : fix.offsetHours.Finite := by
  obtain ⟨update, found, timed⟩ := Option.bind_eq_some_iff.mp told
  have extracted := extractExtracted (updateInSome.mp found)
  generalize sentence : ofLine line = told at extracted
  cases extracted with
  | rmc =>
    cases timed
    exact finite _
  | gga =>
    cases timed
    exact finite _
  | gsa => cases timed
  | zda =>
    cases timed
    obtain ⟨body, kind, recorded⟩ := recordedLine sentence (by simp) (by simp)
    cases recordedAs recorded with
    | zda came => exact zoneFinite (zoneRead came) (finite _)

theorem ggaAltitude {talker : Talker} {text : List Char} {g : Gga}
    (read : Gga.read talker text = .ok g) :
    ∃ piece, (text.splitOn ',')[9]? = some piece ∧ Slot.number.Holds g.altitude piece := by
  obtain ⟨⟨_, _, _, _, _, _, _, _, altitude, others⟩, separation, rest, filled, rfl⟩ := ggaRead.mp read
  obtain ⟨after, front, _⟩ := lastRead.mp filled
  obtain ⟨tail, _, rfl, fields, split, holds⟩ := openLayout.mp front
  match fields, holds with
  | _ :: _ :: _ :: _ :: _ :: _ :: _ :: _ :: ninth :: _, ⟨_, _, _, _, _, _, _, _, height, _⟩ =>
    rw [split]
    exact ⟨ninth, rfl, height⟩

theorem elevationSpelled {height : Binary64} (told : elevationIn clock line = some height) :
    ∃ numeral, Spelled line height numeral := by
  obtain ⟨position, placed, raised⟩ := Option.bind_eq_some_iff.mp told
  obtain ⟨update, found, place⟩ := Option.bind_eq_some_iff.mp placed
  have extracted := extractExtracted (updateInSome.mp found)
  generalize sentence : ofLine line = told at extracted
  cases extracted with
  | rmc =>
    cases place
    cases raised
  | @gga g =>
    cases place
    have altitude : g.altitude = some height := raised
    obtain ⟨body, kind, recorded⟩ := recordedLine sentence (by simp) (by simp)
    cases recordedAs recorded with
    | gga came =>
      obtain ⟨piece, stands, holds⟩ := ggaAltitude came
      rw [altitude] at holds
      obtain ⟨numeral, spells, rfl⟩ := holds
      exact ⟨numeral, .ninth (recordedFields recorded) stands spells⟩
  | gsa => cases place
  | zda => cases place

theorem spelledEither {height : Binary64} {numeral : Numeral} (spelled : Spelled line height numeral) :
    (height.Finite ∧ ¬ numeral.TooLarge) ∨ ∃ negative, height = .infinite negative ∧ numeral.TooLarge := by
  cases spelled with
  | ninth fieldsOf stands spells =>
    rcases numeralEither numeral with infinite | finite
    · exact .inr ⟨_, infinite, (numeralInfinite numeral).mp infinite⟩
    · refine .inl ⟨finite, fun large => ?_⟩
      obtain ⟨negative, units, same⟩ := finite
      rw [(numeralInfinite numeral).mpr large] at same
      cases same

theorem elevationNull {height : Option Binary64} (held : height = lastTold (elevationIn clock) lines) :
    (numberValue height).text = "null" ↔ Untold (elevationIn clock) lines ∨
      ∃ negative, lastTold (elevationIn clock) lines = some (.infinite negative) := by
  rw [numberNull, ← lastToldNone, held]
  cases last : lastTold (elevationIn clock) lines with
  | none => exact iff_of_true nofun (.inl rfl)
  | some value =>
    obtain ⟨line, _, told⟩ := lastToldBy last
    obtain ⟨numeral, spelled⟩ := elevationSpelled told
    rcases spelledEither spelled with ⟨finite, _⟩ | ⟨negative, rfl, _⟩
    · obtain ⟨negative, units, rfl⟩ := finite
      refine iff_of_false (fun none => none _ rfl ⟨negative, units, rfl⟩) ?_
      simp
    · refine iff_of_true ?_ (.inr ⟨negative, rfl⟩)
      intro number same finite
      cases same
      obtain ⟨_, _, same⟩ := finite
      cases same

theorem shownUnder (s : State) :
    shown s.json "latitude" = some (numberValue s.latitude).text ∧
    shown s.json "longitude" = some (numberValue s.longitude).text ∧
    shown s.json "elevation" = some (numberValue s.elevation).text ∧
    shown s.json "utc_timestamp" = some (stringValue (s.utc.map Calendar.Instant.timestamp)).text ∧
    shown s.json "utc_offset_hours" = some (numberValue s.offsetHours).text ∧
    shown s.json "fix_status" = some (stringValue (s.status.map Status.name)).text := by
  simp only [shown, jsonRead, Option.bind_some]
  exact ⟨rfl, rfl, rfl, rfl, rfl, rfl⟩

theorem writtenNulls (finite : ∀ utc, (clock.offsetHours utc).Finite) {s : State}
    (written : s.values = lastWritten clock lines) : NullsTold clock lines s.json := by
  obtain ⟨latitude, longitude, elevation, utc, offsetHours, status⟩ := Values.mk.inj written
  obtain ⟨north, east, height, timestamp, offset, kind⟩ := shownUnder s
  constructor
  case latitude =>
    rw [north, Option.some_inj]
    exact toldNull latitude fun _ _ told => (positionFinite told).1
  case longitude =>
    rw [east, Option.some_inj]
    exact toldNull longitude fun _ _ told => (positionFinite told).2
  case elevation =>
    rw [height, Option.some_inj]
    exact elevationNull elevation
  case timestamp =>
    rw [timestamp, Option.some_inj, stringNull, Option.map_eq_none_iff, utc, Option.map_eq_none_iff]
    exact lastToldNone
  case offset =>
    rw [offset, Option.some_inj]
    exact toldNull offsetHours fun _ _ told => timeFinite finite told
  case status =>
    rw [kind, Option.some_inj, stringNull, Option.map_eq_none_iff, status]
    exact lastToldNone

theorem nullsTold (finite : ∀ utc, (clock.offsetHours utc).Finite) (lines : List (List Char)) :
    NullsTold clock lines (lines.foldl (State.ingest clock) .empty).json ∧
      ∀ line height, elevationIn clock line = some height →
        ∃ numeral, Spelled line height numeral ∧
          ((∃ negative, height = .infinite negative) ↔ numeral.TooLarge) := by
  have written : (lines.foldl (State.ingest clock) .empty).values = lastWritten clock lines :=
    @foldIngestValues clock .empty [] rfl lines
  refine ⟨writtenNulls finite written, ?_⟩
  intro line height told
  obtain ⟨numeral, spelled⟩ := elevationSpelled told
  refine ⟨numeral, spelled, ?_⟩
  rcases spelledEither spelled with ⟨⟨negative, units, rfl⟩, small⟩ | ⟨negative, rfl, large⟩
  · exact iff_of_false nofun small
  · exact iff_of_true ⟨negative, rfl⟩ large

theorem nullsToldOfOneLine :
    let clock := Clock.fixed ⟨0, 0⟩ .zero
    let line := "$GPGGA,120000,0000.00,N,00000.00,E,1,,,7.5,M,,".toList
    (∀ utc, (clock.offsetHours utc).Finite) ∧
      NullsTold clock [line] ([line].foldl (State.ingest clock) .empty).json ∧
      (elevationIn clock line).isSome ∧
      shown (State.empty.ingest clock line).json "elevation" = some "7.5" := by
  intro clock line
  have finite : ∀ utc, (clock.offsetHours utc).Finite := fun _ => ⟨false, 0, rfl⟩
  have height := (shownUnder (State.empty.ingest clock line)).2.2.1
  exact ⟨finite, (nullsTold finite [line]).1, by decide +kernel, height.trans (by decide +kernel)⟩

theorem altitudeTooLarge :
    let clock := Clock.fixed ⟨0, 0⟩ .zero
    let line := "$GPGGA,120000,0000.00,N,00000.00,E,1,,,1e999,M,,".toList
    (∀ utc, (clock.offsetHours utc).Finite) ∧ (elevationIn clock line).isSome ∧
      shown (State.empty.ingest clock line).json "elevation" = some "null" := by
  intro clock line
  have height := (shownUnder (State.empty.ingest clock line)).2.2.1
  exact ⟨fun _ => ⟨false, 0, rfl⟩, by decide +kernel, height.trans (by decide +kernel)⟩

end Lines

end NmeaReceiver.Fix.Nulls
