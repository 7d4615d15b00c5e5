import NmeaReceiver.Fix.Extract

/-! When a sentence gives an update, and which: the fields it must have, and what comes of them. -/
namespace NmeaReceiver.Fix
open NmeaReceiver.Calendar NmeaReceiver.Decimal NmeaReceiver.Sentence

theorem bindOk {ε α β : Type} {first : Except ε α} {next : α → Except ε β} {result : β} :
    first >>= next = .ok result ↔ ∃ value, first = .ok value ∧ next value = .ok result := by
  cases first with
  | error failure => simp [bind, Except.bind]
  | ok value => simp [bind, Except.bind]

theorem bindError {ε α β : Type} {first : Except ε α} {next : α → Except ε β} {failure : ε} :
    first >>= next = .error failure ↔
      first = .error failure ∨ ∃ value, first = .ok value ∧ next value = .error failure := by
  cases first <;> simp [bind, Except.bind]

theorem pureOk {ε α : Type} {value result : α} :
    (pure value : Except ε α) = .ok result ↔ result = value := by
  constructor
  · intro same
    injection same with same
    exact same.symm
  · rintro rfl
    rfl

theorem requiredOk {α : Type} {kind : Kind} {field : Needed} {given : Option α} {value : α} :
    required kind field given = .ok value ↔ given = some value := by
  cases given <;> simp [required]

theorem instantOk {kind : Kind} {date : Date} {time : TimeOfDay} {utc : Instant} :
    instant kind date time = .ok utc ↔ Instant.of? date time = some utc := by
  unfold instant
  cases Instant.of? date time <;> simp

variable {clock : Clock} {update : Update}

theorem ofRmcOk {r : Rmc} :
    ofRmc clock r = .ok update ↔ r.active = true ∧ ∃ place, r.position = some place ∧
      ∃ time, r.time = some time ∧ ∃ date, r.date = some date ∧
      ∃ utc, Instant.of? date time = some utc ∧
      update = ⟨some (positionOf place none), some ⟨utc, clock.offsetHours utc⟩, none⟩ := by
  unfold ofRmc
  cases active : r.active with
  | false => simp
  | true => simp only [if_true, true_and, bindOk, requiredOk, instantOk, pureOk]

theorem ofGgaOk {g : Gga} :
    ofGga clock g = .ok update ↔ g.quality ≠ 0 ∧ ∃ place, g.position = some place ∧
      ∃ time, g.time = some time ∧ ∃ utc, Instant.of? clock.now.date time = some utc ∧
      update = ⟨some (positionOf place g.altitude), some ⟨utc, clock.offsetHours utc⟩, none⟩ := by
  unfold ofGga
  by_cases none : g.quality = 0
  · simp [none]
  · simp only [none, if_false, ne_eq, not_false_eq_true, true_and, bindOk, requiredOk, instantOk,
      pureOk]

def zdaOffset (clock : Clock) (z : Zda) (utc : Instant) : Binary64 :=
  match z.zoneHours with
  | some hours => zoneOffset hours z.zoneMinutes
  | none => clock.offsetHours utc

theorem ofZdaOk {z : Zda} :
    ofZda clock z = .ok update ↔ ∃ time, z.time = some time ∧ ∃ day, z.day = some day ∧
      ∃ month, z.month = some month ∧ ∃ year, z.year = some year ∧
      ∃ utc, Instant.of? ⟨year, month, day⟩ time = some utc ∧
      update = ⟨none, some ⟨utc, zdaOffset clock z utc⟩, none⟩ := by
  unfold ofZda
  simp only [bindOk, requiredOk, instantOk, pureOk]
  rfl

inductive Extracted (clock : Clock) : Sentence → Update → Prop where
  | rmc {r : Rmc} {place : Coordinates} {time : TimeOfDay} {date : Date} {utc : Instant}
      (active : r.active = true) (position : r.position = some place) (timed : r.time = some time)
      (dated : r.date = some date) (valid : Instant.of? date time = some utc) :
      Extracted clock (.rmc r)
        ⟨some (positionOf place none), some ⟨utc, clock.offsetHours utc⟩, none⟩
  | gga {g : Gga} {place : Coordinates} {time : TimeOfDay} {utc : Instant} (fixed : g.quality ≠ 0)
      (position : g.position = some place) (timed : g.time = some time)
      (valid : Instant.of? clock.now.date time = some utc) :
      Extracted clock (.gga g)
        ⟨some (positionOf place g.altitude), some ⟨utc, clock.offsetHours utc⟩, none⟩
  | gsa (g : Gsa) : Extracted clock (.gsa g) (ofGsa g)
  | zda {z : Zda} {time : TimeOfDay} {day month : Nat} {year : Int} {utc : Instant}
      (timed : z.time = some time) (onDay : z.day = some day) (inMonth : z.month = some month)
      (inYear : z.year = some year) (valid : Instant.of? ⟨year, month, day⟩ time = some utc) :
      Extracted clock (.zda z) ⟨none, some ⟨utc, zdaOffset clock z utc⟩, none⟩

theorem extractExtracted {sentence : Sentence} (told : extract clock sentence = .ok update) :
    Extracted clock sentence update := by
  cases sentence with
  | rmc r =>
    obtain ⟨active, _, position, _, timed, _, dated, _, valid, rfl⟩ := ofRmcOk.mp told
    exact .rmc active position timed dated valid
  | gga g =>
    obtain ⟨fixed, _, position, _, timed, _, valid, rfl⟩ := ofGgaOk.mp told
    exact .gga fixed position timed valid
  | gsa g =>
    injection told with same
    rw [← same]
    exact .gsa g
  | zda z =>
    obtain ⟨_, timed, _, onDay, _, inMonth, _, inYear, _, valid, rfl⟩ := ofZdaOk.mp told
    exact .zda timed onDay inMonth inYear valid
  | unrecognized body => cases told
  | invalid refusal => cases told

end NmeaReceiver.Fix
