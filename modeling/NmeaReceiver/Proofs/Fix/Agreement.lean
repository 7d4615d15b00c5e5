import NmeaReceiver.Fix.State
import NmeaReceiver.Proofs.Fix.Extraction
import NmeaReceiver.Proofs.Sentence.Records

/-! An RMC and a GGA line with the same time and the same place. The two layouts read them alike, so
both fail for the same want or both give that place; of one day they give one fix, in either order. -/
namespace NmeaReceiver.Fix
open NmeaReceiver.Calendar NmeaReceiver.Decimal NmeaReceiver.Sentence

structure SameTexts (rmc gga : List (List Char)) : Prop where
  time : rmc[1]? = gga[1]?
  place : (rmc.drop 3).take 4 = (gga.drop 2).take 4

theorem tellsSame {fields others : List (List Char)} {time clocked : Option TimeOfDay}
    {position place : Option Coordinates} (tells : Tells fields 3 time position)
    (again : Tells others 2 clocked place) (same : SameTexts fields others) :
    time = clocked ∧ position = place := by
  obtain ⟨⟨text, stands, holds⟩, contents, filled, rfl⟩ := tells
  obtain ⟨⟨other, stands', holds'⟩, contents', filled', rfl⟩ := again
  cases stands.symm.trans (same.time.trans stands')
  rw [same.place] at filled
  exact ⟨holdsUnique holds holds', congrArg placeOf (filledUnique filled filled')⟩

section Records

variable {clock : Clock} {r : Rmc} {g : Gga}

theorem ofRmcSteps (active : r.active = true) :
    ofRmc clock r = match r.position, r.time, r.date with
      | none, _, _ => .error (.missing .rmc .position)
      | some _, none, _ => .error (.missing .rmc .time)
      | some _, some _, none => .error (.missing .rmc .date)
      | some place, some time, some date => match Instant.of? date time with
        | none => .error (.outOfRange .rmc date time)
        | some utc => .ok ⟨some (positionOf place none), some ⟨utc, clock.offsetHours utc⟩, none⟩ := by
  unfold ofRmc
  rw [if_pos active]
  cases r.position with
  | none => rfl
  | some place =>
    cases r.time with
    | none => rfl
    | some time =>
      cases r.date with
      | none => rfl
      | some date =>
        unfold instant
        simp only [required, bind, Except.bind]
        cases Instant.of? date time <;> rfl

theorem ofGgaSteps (fixed : g.quality ≠ 0) :
    ofGga clock g = match g.position, g.time with
      | none, _ => .error (.missing .gga .position)
      | some _, none => .error (.missing .gga .time)
      | some place, some time => match Instant.of? clock.now.date time with
        | none => .error (.outOfRange .gga clock.now.date time)
        | some utc =>
          .ok ⟨some (positionOf place g.altitude), some ⟨utc, clock.offsetHours utc⟩, none⟩ := by
  unfold ofGga
  rw [if_neg fixed]
  cases g.position with
  | none => rfl
  | some place =>
    cases g.time with
    | none => rfl
    | some time =>
      unfold instant
      simp only [required, bind, Except.bind]
      cases Instant.of? clock.now.date time <;> rfl

theorem rmcMissing (active : r.active = true) :
    (ofRmc clock r = .error (.missing .rmc .position) ↔ r.position = none) ∧
    (ofRmc clock r = .error (.missing .rmc .time) ↔ r.position ≠ none ∧ r.time = none) := by
  rw [ofRmcSteps active]
  cases r.position with
  | none => simp
  | some place =>
    cases r.time with
    | none => simp
    | some time =>
      cases r.date with
      | none => simp
      | some date => cases made : Instant.of? date time <;> simp [made]

theorem ggaMissing (fixed : g.quality ≠ 0) :
    (ofGga clock g = .error (.missing .gga .position) ↔ g.position = none) ∧
    (ofGga clock g = .error (.missing .gga .time) ↔ g.position ≠ none ∧ g.time = none) := by
  rw [ofGgaSteps fixed]
  cases g.position with
  | none => simp
  | some place =>
    cases g.time with
    | none => simp
    | some time => cases made : Instant.of? clock.now.date time <;> simp [made]

end Records

inductive Agreed (clock : Clock) (r : Rmc) (elevation : Option Binary64) :
    Except Failure Update → Except Failure Update → Prop where
  | position (lost : r.position = none) :
      Agreed clock r elevation (.error (.missing .rmc .position)) (.error (.missing .gga .position))
  | time {place : Coordinates} (known : r.position = some place) (lost : r.time = none) :
      Agreed clock r elevation (.error (.missing .rmc .time)) (.error (.missing .gga .time))
  | range {place : Coordinates} {time : TimeOfDay} (known : r.position = some place)
      (timed : r.time = some time) (impossible : Instant.of? clock.now.date time = none) :
      Agreed clock r elevation (.error (.outOfRange .rmc clock.now.date time))
        (.error (.outOfRange .gga clock.now.date time))
  | both {place : Coordinates} {time : TimeOfDay} {utc : Instant} (known : r.position = some place)
      (timed : r.time = some time) (valid : Instant.of? clock.now.date time = some utc) :
      Agreed clock r elevation
        (.ok ⟨some (positionOf place none), some ⟨utc, clock.offsetHours utc⟩, none⟩)
        (.ok ⟨some (positionOf place elevation), some ⟨utc, clock.offsetHours utc⟩, none⟩)

structure SameSent (rmcLine ggaLine : List Char) (r : Rmc) (g : Gga) : Prop where
  rmc : ofLine rmcLine = .rmc r
  gga : ofLine ggaLine = .gga g
  active : r.active = true
  fixed : g.quality ≠ 0
  texts : ∃ fields others, FieldsOf rmcLine fields ∧ FieldsOf ggaLine others ∧ SameTexts fields others

section Lines

variable {clock : Clock} {rmcLine ggaLine : List Char} {r : Rmc} {g : Gga}

theorem sentSame (sent : SameSent rmcLine ggaLine r g) : r.time = g.time ∧ r.position = g.position := by
  obtain ⟨fields, others, ofRmc, ofGga, same⟩ := sent.texts
  obtain ⟨body, kind, recorded⟩ := recordedLine sent.rmc (by simp) (by simp)
  obtain ⟨body', kind', recorded'⟩ := recordedLine sent.gga (by simp) (by simp)
  cases fieldsUnique ofRmc (recordedFields recorded)
  cases fieldsUnique ofGga (recordedFields recorded')
  cases recordedAs recorded with
  | rmc read =>
    cases recordedAs recorded' with
    | gga read' => exact tellsSame (rmcTells read) (ggaTells read') same

theorem sameDayAgreed (sent : SameSent rmcLine ggaLine r g) (today : r.date = some clock.now.date) :
    Agreed clock r g.altitude (extract clock (ofLine rmcLine)) (extract clock (ofLine ggaLine)) := by
  obtain ⟨timed, placed⟩ := sentSame sent
  rw [sent.rmc, sent.gga, extract, extract, ofRmcSteps sent.active, ofGgaSteps sent.fixed, today,
    ← timed, ← placed]
  cases known : r.position with
  | none => exact .position known
  | some place =>
    cases clocked : r.time with
    | none => exact .time known clocked
    | some time =>
      dsimp only
      cases made : Instant.of? clock.now.date time with
      | none => exact .range known clocked made
      | some utc => exact .both known clocked made

theorem agreedCommute {elevation : Option Binary64}
    (agreed : Agreed clock r elevation (extract clock (ofLine rmcLine)) (extract clock (ofLine ggaLine)))
    (s : State) :
    (s.ingest clock rmcLine).ingest clock ggaLine = (s.ingest clock ggaLine).ingest clock rmcLine := by
  unfold State.ingest
  generalize extract clock (ofLine rmcLine) = first at agreed
  generalize extract clock (ofLine ggaLine) = second at agreed
  cases agreed with
  | position => rfl
  | time => rfl
  | range => rfl
  | both => rfl

theorem sameFix (sent : SameSent rmcLine ggaLine r g) (clock : Clock) :
    (extract clock (ofLine rmcLine) = .error (.missing .rmc .position) ↔
      extract clock (ofLine ggaLine) = .error (.missing .gga .position)) ∧
    (extract clock (ofLine rmcLine) = .error (.missing .rmc .time) ↔
      extract clock (ofLine ggaLine) = .error (.missing .gga .time)) ∧
    (∀ update other, extract clock (ofLine rmcLine) = .ok update →
      extract clock (ofLine ggaLine) = .ok other →
      ∃ position place, update.position = some position ∧ other.position = some place ∧
        position.latitude = place.latitude ∧ position.longitude = place.longitude) ∧
    (r.date = some clock.now.date →
      Agreed clock r g.altitude (extract clock (ofLine rmcLine)) (extract clock (ofLine ggaLine)) ∧
      ∀ s : State, (s.ingest clock rmcLine).ingest clock ggaLine =
        (s.ingest clock ggaLine).ingest clock rmcLine) := by
  obtain ⟨timed, placed⟩ := sentSame sent
  refine ⟨?_, ?_, ?_, fun today =>
    ⟨sameDayAgreed sent today, agreedCommute (sameDayAgreed sent today)⟩⟩
  · rw [sent.rmc, sent.gga, extract, extract, (rmcMissing sent.active).1, (ggaMissing sent.fixed).1,
      placed]
  · rw [sent.rmc, sent.gga, extract, extract, (rmcMissing sent.active).2, (ggaMissing sent.fixed).2,
      placed, timed]
  · intro update other told again
    rw [sent.rmc] at told
    rw [sent.gga] at again
    obtain ⟨_, place, known, _, _, _, _, _, _, rfl⟩ := ofRmcOk.mp told
    obtain ⟨_, place', known', _, _, _, _, rfl⟩ := ofGgaOk.mp again
    cases known.symm.trans (placed.trans known')
    exact ⟨_, _, rfl, rfl, rfl, rfl⟩

theorem sameFixAtNoon :
    let rmcLine := "$GPRMC,120000,A,0130.00,N,00000.00,E,,,150124".toList
    let ggaLine := "$GPGGA,120000,0130.00,N,00000.00,E,1,,,5,M,".toList
    let clock := Clock.fixed ⟨1705276800, 0⟩ .zero
    ∃ r g, SameSent rmcLine ggaLine r g ∧ r.date = some clock.now.date ∧
      (∃ update, extract clock (ofLine rmcLine) = .ok update) ∧
      Agreed clock r g.altitude (extract clock (ofLine rmcLine)) (extract clock (ofLine ggaLine)) ∧
      ∀ s : State, (s.ingest clock rmcLine).ingest clock ggaLine =
        (s.ingest clock ggaLine).ingest clock rmcLine := by
  intro rmcLine ggaLine clock
  let place : Coordinates := ⟨(Binary64.ofNat 3).divNat 2, .zero⟩
  let r : Rmc := ⟨.gps, some ⟨12, 0, 0, 0⟩, true, some place, none, none, some ⟨2024, 1, 15⟩⟩
  let g : Gga := ⟨.gps, some ⟨12, 0, 0, 0⟩, some place, 1, none, none, some (.ofNat 5), none⟩
  have sent : SameSent rmcLine ggaLine r g := by
    constructor
    case rmc => decide +kernel
    case gga => decide +kernel
    case active => rfl
    case fixed => decide
    case texts => exact ⟨_, _, fieldsBare rmcLine.tail (by decide +kernel),
      fieldsBare ggaLine.tail (by decide +kernel), by decide +kernel, by decide +kernel⟩
  have today : r.date = some clock.now.date := by decide
  have given : Instant.of? ⟨2024, 1, 15⟩ ⟨12, 0, 0, 0⟩ = some ⟨1705320000, 0⟩ := by decide
  have update : ofRmc clock r = .ok _ := ofRmcOk.mpr ⟨rfl, place, rfl, _, rfl, _, rfl, _, given, rfl⟩
  obtain ⟨_, _, _, sameDay⟩ := sameFix sent clock
  obtain ⟨agreed, commute⟩ := sameDay today
  exact ⟨r, g, sent, today, ⟨_, by rw [sent.rmc]; exact update⟩, agreed, commute⟩

end Lines

end NmeaReceiver.Fix
