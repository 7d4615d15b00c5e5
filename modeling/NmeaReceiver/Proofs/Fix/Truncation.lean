import NmeaReceiver.Proofs.Fix.Extraction
import NmeaReceiver.Proofs.Sentence.Truncation

/-! Updates of a line that was cut short. What a cut takes from a sentence is read by nobody, or the
update needs it and there is none; only zone minutes are counted as zero when they are missing. -/
namespace NmeaReceiver.Fix
open NmeaReceiver.Sentence

structure LosesMinutes (part line : List Char) (hours : Int) (minutes : Nat) : Prop where
  zoned : ∃ record, ofLine line = .zda record ∧ record.zoneHours = some hours ∧
    record.zoneMinutes = some minutes
  ends : EndsAtSixth part

def Update.offsetHours (update : Update) : Option Decimal.Binary64 := update.time.map (·.offsetHours)

def Update.utc (update : Update) : Option Calendar.Instant := update.time.map (·.utc)

structure Unforged (part line : List Char) (update whole : Update) : Prop where
  position : update.position = whole.position
  utc : update.utc = whole.utc
  status : update.status = whole.status
  offset : (¬ ∃ hours minutes, LosesMinutes part line hours minutes) →
    update.offsetHours = whole.offsetHours
  lost : ∀ hours minutes, LosesMinutes part line hours minutes →
    update.offsetHours = some (zoneOffset hours (some 0)) ∧
    whole.offsetHours = some (zoneOffset hours (some minutes))

variable {clock : Clock} {part line : List Char} {sentence : Sentence} {update whole : Update}

theorem shortenedUpdate {other : Sentence} (cut : Shortened part sentence other)
    (first : extract clock sentence = .ok update) (second : extract clock other = .ok whole) :
    update = whole ∨ ∃ short record, sentence = .zda short ∧ other = .zda record ∧
      { record with zoneMinutes := none } = { short with zoneMinutes := none } ∧
      short.zoneMinutes = none ∧ EndsAtSixth part := by
  cases cut with
  | same _ => exact .inl (Except.ok.inj (first.symm.trans second))
  | @rmc short record kept dated =>
    obtain ⟨_, _, _, _, _, date, known, _⟩ := ofRmcOk.mp first
    have same : record = short := by
      cases short
      cases record
      simp_all
    rw [same] at second
    exact .inl (Except.ok.inj (first.symm.trans second))
  | @gga short record kept =>
    have same : ofGga clock record = ofGga clock short := by
      change ofGga clock { record with geoidSeparation := none } =
        ofGga clock { short with geoidSeparation := none }
      rw [kept]
    exact .inl (Except.ok.inj (first.symm.trans (same.symm.trans second)))
  | @gsa short record kept =>
    have same : ofGsa record = ofGsa short := by
      change ofGsa { record with vdop := none } = ofGsa { short with vdop := none }
      rw [kept]
    simp only [extract, same, Except.ok.injEq] at first second
    exact .inl (first.symm.trans second)
  | @zda short record kept lost ends => exact .inr ⟨short, record, rfl, rfl, kept, lost, ends⟩

theorem zoneOffsetNone (hours : Int) : zoneOffset hours none = zoneOffset hours (some 0) := by
  simp [zoneOffset]

theorem zonedOffset {z : Zda} {hours : Int} (zoned : z.zoneHours = some hours)
    (told : extract clock (.zda z) = .ok update) :
    update.offsetHours = some (zoneOffset hours z.zoneMinutes) := by
  obtain ⟨_, _, _, _, _, _, _, _, utc, _, rfl⟩ := ofZdaOk.mp told
  simp [Update.offsetHours, zdaOffset, zoned]

theorem unminutedUpdate {short record : Zda}
    (kept : { record with zoneMinutes := none } = { short with zoneMinutes := none })
    (first : extract clock (.zda short) = .ok update)
    (second : extract clock (.zda record) = .ok whole) :
    ∃ utc, update = ⟨none, some ⟨utc, zdaOffset clock short utc⟩, none⟩ ∧
      whole = ⟨none, some ⟨utc, zdaOffset clock record utc⟩, none⟩ := by
  obtain ⟨time, timed, day, onDay, month, inMonth, year, inYear, utc, valid, rfl⟩ := ofZdaOk.mp first
  obtain ⟨_, timed', _, onDay', _, inMonth', _, inYear', _, valid', rfl⟩ := ofZdaOk.mp second
  injection kept with _ times days months years
  rw [times, timed] at timed'
  rw [days, onDay] at onDay'
  rw [months, inMonth] at inMonth'
  rw [years, inYear] at inYear'
  cases timed'
  cases onDay'
  cases inMonth'
  cases inYear'
  cases valid.symm.trans valid'
  exact ⟨utc, rfl, rfl⟩

theorem truncationForgesNothing (cut : part <+: line)
    (first : extract clock (ofLine part) = .ok update)
    (second : extract clock (ofLine line) = .ok whole) : Unforged part line update whole := by
  obtain ⟨body, kind, recorded⟩ := extractedRecorded first
  obtain ⟨_, _, recorded'⟩ := extractedRecorded second
  have shortened := cutSentence cut recorded recorded'
  have lost (hours minutes) (loses : LosesMinutes part line hours minutes) :
      update.offsetHours = some (zoneOffset hours (some 0)) ∧
        whole.offsetHours = some (zoneOffset hours (some minutes)) := by
    obtain ⟨record, told, zoned, filled⟩ := loses.zoned
    rw [told] at shortened second
    generalize ofLine part = sentence at shortened first recorded
    cases shortened with
    | same _ =>
      have none := endsWithoutMinutes recorded loses.ends
      simp [filled] at none
    | @zda short _ kept none ends =>
      have hour : short.zoneHours = some hours := by
        injection kept with _ _ _ _ _ same
        exact same ▸ zoned
      have counted := zonedOffset hour first
      rw [none, zoneOffsetNone] at counted
      exact ⟨counted, filled ▸ zonedOffset zoned second⟩
  rcases shortenedUpdate shortened first second with rfl | ⟨short, record, cuts, told, kept, none, ends⟩
  · exact ⟨rfl, rfl, rfl, fun _ => rfl, lost⟩
  · rw [cuts] at first
    rw [told] at second
    obtain ⟨utc, rfl, rfl⟩ := unminutedUpdate kept first second
    refine ⟨by dsimp only, by simp [Update.utc], by dsimp only, fun whole => ?_, lost⟩
    injection kept with _ _ _ _ _ hour
    have same : zdaOffset clock short utc = zdaOffset clock record utc := by
      unfold zdaOffset
      rw [hour]
      cases zoned : short.zoneHours with
      | none => rfl
      | some hours =>
        cases filled : record.zoneMinutes with
        | none => rw [none]
        | some minutes =>
          exact absurd ⟨hours, minutes, ⟨record, told, hour.trans zoned, filled⟩, ends⟩ whole
    simp [Update.offsetHours, same]

theorem truncationLosesMinutes :
    let line := "$GPZDA,120000,15,01,2024,-05,30".toList
    let part := line.take 29
    let clock := Clock.fixed ⟨0, 0⟩ .zero
    ∃ update whole, part <+: line ∧ extract clock (ofLine part) = .ok update ∧
      extract clock (ofLine line) = .ok whole ∧ Unforged part line update whole ∧
      LosesMinutes part line (-5) 30 := by
  intro line part clock
  have cut : part <+: line := List.take_prefix 29 line
  have first : extract clock (ofLine part) =
      .ok ⟨none, some ⟨⟨1705320000, 0⟩, zoneOffset (-5) none⟩, none⟩ := by decide +kernel
  have second : extract clock (ofLine line) =
      .ok ⟨none, some ⟨⟨1705320000, 0⟩, zoneOffset (-5) (some 30)⟩, none⟩ := by decide +kernel
  refine ⟨_, _, cut, first, second, truncationForgesNothing cut first second, ?_, ?_⟩
  · exact ⟨⟨.gps, some ⟨12, 0, 0, 0⟩, some 15, some 1, some 2024, some (-5), some 30⟩,
      by decide +kernel, rfl, rfl⟩
  · exact ⟨by decide, by decide⟩

end NmeaReceiver.Fix
