import NmeaReceiver.Proofs.Calendar.Written
import NmeaReceiver.Proofs.Decimal.Nearest
import NmeaReceiver.Proofs.Fix.Extraction
import NmeaReceiver.Proofs.Sentence.Records

/-! The offset of a zone that a line names. Its minutes go the way of its hours, and hours of zero
have lost the sign that stood before them. -/
namespace NmeaReceiver.Fix
open NmeaReceiver.Decimal NmeaReceiver.Sentence

inductive ZoneSent (fields : List (List Char)) : Bool → Nat → Nat → Prop where
  | hours {negative : Bool} {sign hours : List Char} (inHours : fields[5]? = some (sign ++ hours))
      (signs : Sign negative sign) (hour : Fixed 2 hours) (inMinutes : fields[6]? = some []) :
      ZoneSent fields negative (digitsValue hours) 0
  | both {negative other : Bool} {sign hours mark minutes : List Char}
      (inHours : fields[5]? = some (sign ++ hours)) (signs : Sign negative sign) (hour : Fixed 2 hours)
      (inMinutes : fields[6]? = some (mark ++ minutes)) (marks : Sign other mark)
      (minute : Fixed 2 minutes) : ZoneSent fields negative (digitsValue hours) (digitsValue minutes)

def zoneValue (negative : Bool) (hours minutes : Nat) : Binary64 :=
  let whole := Binary64.ofInt (signed negative hours)
  let part := (Binary64.ofNat minutes).divNat 60
  if negative then whole.sub part else whole.add part

inductive Rounded (hours minutes : Nat) : Nat → Prop where
  | sum {part units : Nat} (sixtieths : Nearest (minutes * Binary64.unitsInOne) 60 part)
      (whole : Nearest (hours * Binary64.unitsInOne + part) 1 units) : Rounded hours minutes units

section Values

variable {hours minutes : Nat}

theorem hundredWhole {n : Nat} (few : n ≤ 200) : n < twoTo 53 :=
  Nat.lt_of_le_of_lt few (by decide)

theorem sixtieths (few : minutes < 100) :
    ∃ part, Nearest (minutes * Binary64.unitsInOne) 60 part ∧
      (Binary64.ofNat minutes).divNat 60 = .finite false part ∧
      part ≤ minutes * Binary64.unitsInOne ∧ (part != 0) = (minutes != 0) := by
  have small := hundredWhole (n := minutes) (by omega)
  have nearest := Binary64.nearestNearest (minutes * Binary64.unitsInOne) (by decide : 0 < 60)
  have below := Binary64.nearestWithin (by decide : 0 < 60) nearest (by omega)
    (Binary64.wholeRepresentable small)
  have range := Nat.lt_of_le_of_lt below (Binary64.wholeInRange small)
  refine ⟨_, nearest, ?_, below, ?_⟩
  · rw [Binary64.ofNatExact small, Binary64.divNat, Binary64.ofQuotient, if_pos range]
  · cases minutes with
    | zero =>
      rw [Nat.zero_mul] at below ⊢
      simp [Nat.le_zero.mp below]
    | succ minutes =>
      have unit : 60 ≤ Binary64.unitsInOne :=
        Nat.le_trans (by decide : 60 ≤ twoTo 6) (twoToMono (by omega))
      have least := Nat.le_mul_of_pos_left Binary64.unitsInOne (Nat.succ_pos minutes)
      have some := Binary64.nearestSome (by decide) nearest (Nat.le_trans unit least)
      simp [bne, some]

theorem westSigned (hours : Nat) : signed true (hours + 1) < 0 := by
  simp only [signed, if_true]
  omega

theorem wholeHours (negative : Bool) (few : hours < 100) :
    Binary64.ofInt (signed negative hours) =
      .finite (negative && hours != 0) (hours * Binary64.unitsInOne) := by
  have size : (signed negative hours).natAbs = hours := by
    cases negative <;> simp [signed]
  have sign : decide (signed negative hours < 0) = (negative && hours != 0) := by
    cases negative with
    | false => simp [signed]
    | true =>
      cases hours with
      | zero => rfl
      | succ hours => exact decide_eq_true (westSigned hours)
  rw [Binary64.ofInt, size, sign, Binary64.ofQuotientWhole _ (hundredWhole (by omega))]

theorem addEast (a b : Nat) :
    (Binary64.finite false a).add (.finite false b) = .ofQuotient false (a + b) 1 := by
  have size : ((a : Int) + b).natAbs = a + b := by omega
  have sign : ¬ ((a : Int) + b < 0) := by omega
  simp [Binary64.add, Binary64.signedUnits, size, sign]

theorem subWest (a b : Nat) :
    (Binary64.finite (a != 0) a).sub (.finite false b) = .ofQuotient (a != 0 || b != 0) (a + b) 1 := by
  have sum : Binary64.signedUnits (a != 0) a + Binary64.signedUnits true b = -((a + b : Nat) : Int) := by
    cases a with
    | zero => simp [Binary64.signedUnits]
    | succ a => simp [Binary64.signedUnits]; omega
  -- A sum of two zeros is the only one without a sign here: the first of them has none.
  have sign : (if -((a + b : Nat) : Int) = 0 then (a != 0) && true else decide (-((a + b : Nat) : Int) < 0)) =
      (a != 0 || b != 0) := by
    cases a with
    | zero =>
      cases b with
      | zero => simp
      | succ b => simp; omega
    | succ a => simp; omega
  have size : (-((a + b : Nat) : Int)).natAbs = a + b := by omega
  simp only [Binary64.sub, Binary64.negate, Binary64.add, Bool.not_false, sum, sign, size]

theorem zoneValueUnits (few : hours < 100) (short : minutes < 100) :
    ∃ units, Rounded hours minutes units ∧ ∀ negative, zoneValue negative hours minutes =
      .finite (negative && (hours != 0 || minutes != 0)) units := by
  obtain ⟨part, nearest, divided, below, somePart⟩ := sixtieths short
  have whole := Binary64.nearestNearest (hours * Binary64.unitsInOne + part) Nat.one_pos
  have parts : hours * Binary64.unitsInOne + part ≤ (hours + minutes) * Binary64.unitsInOne := by
    rw [Nat.add_mul]
    omega
  have small : hours + minutes < twoTo 53 := hundredWhole (by omega)
  have range := Nat.lt_of_le_of_lt
    (Binary64.nearestLe whole parts (Binary64.wholeRepresentable small)) (Binary64.wholeInRange small)
  have someHours : (hours * Binary64.unitsInOne != 0) = (hours != 0) := by
    have positive := Nat.ne_of_gt Binary64.unitsPositive
    rw [Bool.eq_iff_iff, bne_iff_ne, bne_iff_ne, Nat.mul_ne_zero_iff, and_iff_left positive]
  refine ⟨_, .sum nearest whole, fun negative => ?_⟩
  unfold zoneValue
  rw [divided, wholeHours negative few]
  cases negative with
  | false => simp only [Bool.false_and, Bool.false_eq_true, if_false, addEast, Binary64.ofQuotient,
      if_pos range]
  | true => rw [Bool.true_and, Bool.true_and, if_pos rfl, ← someHours, ← somePart, subWest,
      Binary64.ofQuotient, if_pos range]

theorem zoneOffsetSigned (negative : Bool) (hours : Nat) (minutes : Option Nat) :
    zoneOffset (signed negative hours) minutes =
      zoneValue (negative && hours != 0) hours (minutes.getD 0) := by
  unfold zoneOffset zoneValue
  cases negative with
  | false => simp [signed, show ¬ (hours : Int) < 0 by omega]
  | true =>
    cases hours with
    | zero => simp [signed]
    | succ hours =>
      have some : (true && hours + 1 != 0) = true := by simp
      rw [some, if_pos (westSigned hours), if_pos rfl]

theorem zoneSignKept (negative : Bool) (few : hours < 100) (short : minutes < 100) :
    zoneValue (negative && hours != 0) hours minutes = zoneValue negative hours minutes ↔
      ¬ (negative = true ∧ hours = 0 ∧ minutes ≠ 0) := by
  obtain ⟨units, _, value⟩ := zoneValueUnits few short
  rw [value, value]
  cases negative with
  | false => simp
  | true => cases hours <;> cases minutes <;> simp

end Values

section Fields

variable {talker : Talker} {text : List Char} {record : Zda} {fields : List (List Char)}

structure ZoneRead (fields : List (List Char)) (record : Zda) : Prop where
  hours : ∃ piece, fields[5]? = some piece ∧ Slot.zoneHours.Holds record.zoneHours piece
  minutes : ∃ piece, fields[6]? = some piece ∧ Slot.zoneMinutes.Holds record.zoneMinutes piece

theorem zoneRead (read : Zda.read talker text = .ok record) : ZoneRead (text.splitOn ',') record := by
  obtain ⟨⟨time, day, month, year, hours, minutes, _⟩, filled, rfl⟩ := zdaRead.mp read
  obtain ⟨pieces, split, holds⟩ := closedLayout.mp filled
  match pieces, holds with
  | [_, _, _, _, fifth, sixth], ⟨_, _, _, _, ofHours, ofMinutes, _⟩ =>
    exact ⟨⟨fifth, by rw [split]; rfl, ofHours⟩, ⟨sixth, by rw [split]; rfl, ofMinutes⟩⟩

theorem signedTold {Meant : Bool → Nat → Prop} {negative : Bool} {sign digits : List Char}
    (spelled : SignedText (Fixed 2) Meant (sign ++ digits)) (signs : Sign negative sign)
    (fixed : Fixed 2 digits) : Meant negative (digitsValue digits) := by
  obtain ⟨other, mark, others, same, marks, again, meant⟩ := spelled
  have first := splitSignOf signs (@digitsUnsigned digits [] (fixedSome fixed) fixed.all)
  have second := splitSignOf marks (@digitsUnsigned others [] (fixedSome again) again.all)
  rw [List.append_nil] at first second
  rw [same, second] at first
  cases first
  exact meant

theorem hoursTold {value : Option Int} {negative : Bool} {sign hours : List Char}
    (holds : Slot.zoneHours.Holds value (sign ++ hours)) (signs : Sign negative sign)
    (hour : Fixed 2 hours) : value = some (signed negative (digitsValue hours)) := by
  cases value with
  | none => exact absurd (List.append_eq_nil_iff.mp holds.1).2 (fixedSome hour)
  | some value =>
    have spelled : ZoneHoursText value (sign ++ hours) := holds
    exact congrArg some (signedTold spelled signs hour).2.symm

theorem minutesTold {value : Option Nat} {negative : Bool} {sign minutes : List Char}
    (holds : Slot.zoneMinutes.Holds value (sign ++ minutes)) (signs : Sign negative sign)
    (minute : Fixed 2 minutes) : value = some (digitsValue minutes) := by
  cases value with
  | none => exact absurd (List.append_eq_nil_iff.mp holds.1).2 (fixedSome minute)
  | some value =>
    have spelled : ZoneMinutesText value (sign ++ minutes) := holds
    exact congrArg some (signedTold spelled signs minute).2.symm

theorem zoneTold {negative : Bool} {hours minutes : Nat} (read : ZoneRead fields record)
    (sent : ZoneSent fields negative hours minutes) :
    record.zoneHours = some (signed negative hours) ∧ record.zoneMinutes.getD 0 = minutes := by
  obtain ⟨⟨fifth, atFifth, ofHours⟩, sixth, atSixth, ofMinutes⟩ := read
  cases sent with
  | hours inHours signs hour inMinutes =>
    cases atFifth.symm.trans inHours
    cases atSixth.symm.trans inMinutes
    exact ⟨hoursTold ofHours signs hour, by rw [blankHolds ofMinutes]; rfl⟩
  | both inHours signs hour inMinutes marks minute =>
    cases atFifth.symm.trans inHours
    cases atSixth.symm.trans inMinutes
    exact ⟨hoursTold ofHours signs hour, by rw [minutesTold ofMinutes marks minute]; rfl⟩

theorem zoneSent (read : ZoneRead fields record) (some : fields[5]? ≠ some []) :
    ∃ negative hours minutes, ZoneSent fields negative hours minutes := by
  obtain ⟨⟨fifth, atFifth, ofHours⟩, sixth, atSixth, ofMinutes⟩ := read
  cases hour : record.zoneHours with
  | none =>
    rw [hour] at ofHours
    exact absurd (ofHours.1 ▸ atFifth) some
  | some value =>
    rw [hour] at ofHours
    obtain ⟨negative, sign, digits, rfl, signs, fixed, _⟩ := ofHours
    cases minute : record.zoneMinutes with
    | none =>
      rw [minute] at ofMinutes
      exact ⟨_, _, _, .hours atFifth signs fixed (ofMinutes.1 ▸ atSixth)⟩
    | some value =>
      rw [minute] at ofMinutes
      obtain ⟨_, mark, others, rfl, marks, again, _⟩ := ofMinutes
      exact ⟨_, _, _, .both atFifth signs fixed atSixth marks again⟩

theorem zoneUnsent (read : ZoneRead fields record) (blank : fields[5]? = some []) :
    record.zoneHours = none := by
  obtain ⟨⟨fifth, atFifth, ofHours⟩, _⟩ := read
  cases atFifth.symm.trans blank
  exact blankHolds ofHours

theorem zoneSmall {negative : Bool} {hours minutes : Nat}
    (sent : ZoneSent fields negative hours minutes) : hours < 100 ∧ minutes < 100 := by
  have small {digits : List Char} (fixed : Fixed 2 digits) : digitsValue digits < 100 := by
    have bound := digitsBound fixed.all
    rwa [fixed.length] at bound
  cases sent with
  | hours _ _ hour _ => exact ⟨small hour, by decide⟩
  | both _ _ hour _ _ minute => exact ⟨small hour, small minute⟩

end Fields

section Lines

variable {clock : Clock} {line : List Char} {record : Zda} {update : Update} {fix : TimeFix}

/-- The offset that a line gives with its time. Without hours it is the clock's. With them no clock
matters, and it is what the fields say, but that the sign of no hours at all is no sign. -/
theorem zoneSignNeedsHours (told : ofLine line = .zda record)
    (given : extract clock (ofLine line) = .ok update) (timed : update.time = some fix) :
    ∃ fields, (∀ others, FieldsOf line others ↔ others = fields) ∧
      (fields[5]? = some [] → fix.offsetHours = clock.offsetHours fix.utc) ∧
      (fields[5]? ≠ some [] → (∀ other, extract other (ofLine line) = .ok update) ∧
        ∃ negative hours minutes, ZoneSent fields negative hours minutes) ∧
      ∀ negative hours minutes, ZoneSent fields negative hours minutes →
        fix.offsetHours = zoneValue (negative && hours != 0) hours minutes ∧
        (∃ units, Rounded hours minutes units ∧
          fix.offsetHours = .finite (negative && hours != 0) units) ∧
        (fix.offsetHours = zoneValue negative hours minutes ↔
          ¬ (negative = true ∧ hours = 0 ∧ minutes ≠ 0)) := by
  obtain ⟨body, kind, recorded⟩ := recordedLine told (by simp) (by simp)
  have fieldsOf := recordedFields recorded
  cases recordedAs recorded with
  | zda came =>
    have read := zoneRead came
    rw [told] at given
    obtain ⟨time, clocked, day, onDay, month, inMonth, year, inYear, utc, valid, rfl⟩ := ofZdaOk.mp given
    cases timed
    refine ⟨_, fun others => ⟨fun other => fieldsUnique other fieldsOf, fun same => same ▸ fieldsOf⟩,
      fun blank => ?_, fun some => ⟨fun other => ?_, zoneSent read some⟩, fun negative hours minutes sent => ?_⟩
    · simp only [zdaOffset, zoneUnsent read blank]
    · obtain ⟨negative, hours, minutes, sent⟩ := zoneSent read some
      rw [told]
      refine ofZdaOk.mpr ⟨_, clocked, _, onDay, _, inMonth, _, inYear, utc, valid, ?_⟩
      simp only [zdaOffset, (zoneTold read sent).1]
    · obtain ⟨few, short⟩ := zoneSmall sent
      have offset : zdaOffset clock record utc = zoneValue (negative && hours != 0) hours minutes := by
        obtain ⟨hour, minute⟩ := zoneTold read sent
        simp only [zdaOffset, hour, zoneOffsetSigned, minute]
      obtain ⟨units, rounded, value⟩ := zoneValueUnits few short
      refine ⟨offset, ⟨units, rounded, ?_⟩, by rw [offset]; exact zoneSignKept negative few short⟩
      rw [offset, value]
      cases hours <;> simp

theorem zoneSignOfFiveHours :
    let line := "$GPZDA,120000,15,01,2024,-05,30".toList
    ∃ update fix fields, extract (.fixed ⟨0, 0⟩ .zero) (ofLine line) = .ok update ∧
      update.time = some fix ∧ FieldsOf line fields ∧ ZoneSent fields true 5 30 ∧
      fix.offsetHours = zoneValue true 5 30 := by
  intro line
  have told : ofLine line =
      .zda ⟨.gps, some ⟨12, 0, 0, 0⟩, some 15, some 1, some 2024, some (-5), some 30⟩ := by
    decide +kernel
  have given : extract (.fixed ⟨0, 0⟩ .zero) (ofLine line) =
      .ok ⟨none, some ⟨⟨1705320000, 0⟩, zoneOffset (-5) (some 30)⟩, none⟩ := by
    decide +kernel
  have fieldsOf := fieldsBare line.tail (by decide +kernel)
  obtain ⟨fields, only, _, _, offset⟩ := zoneSignNeedsHours told given rfl
  obtain rfl := (only _).mp fieldsOf
  have hour : Fixed 2 ['0', '5'] := ⟨rfl, List.all_eq_true.mp rfl⟩
  have minute : Fixed 2 ['3', '0'] := ⟨rfl, List.all_eq_true.mp rfl⟩
  have sent : ZoneSent ((line.tail.drop 5).splitOn ',') true 5 30 :=
    .both (by decide +kernel) .minus hour (by decide +kernel) .none minute
  exact ⟨_, _, _, given, rfl, fieldsOf, sent, ((offset _ _ _ sent).2.2).mpr (by decide)⟩

theorem zoneSignOfNoHours :
    let line := "$GPZDA,120000,15,01,2024,-00,30".toList
    ∃ update fix fields, extract (.fixed ⟨0, 0⟩ .zero) (ofLine line) = .ok update ∧
      update.time = some fix ∧ FieldsOf line fields ∧ ZoneSent fields true 0 30 ∧
      fix.offsetHours = zoneValue false 0 30 ∧ fix.offsetHours ≠ zoneValue true 0 30 := by
  intro line
  have given : extract (.fixed ⟨0, 0⟩ .zero) (ofLine line) =
      .ok ⟨none, some ⟨⟨1705320000, 0⟩, zoneOffset 0 (some 30)⟩, none⟩ := by
    decide +kernel
  have hour : Fixed 2 ['0', '0'] := ⟨rfl, List.all_eq_true.mp rfl⟩
  have minute : Fixed 2 ['3', '0'] := ⟨rfl, List.all_eq_true.mp rfl⟩
  have sent : ZoneSent ((line.tail.drop 5).splitOn ',') true 0 30 :=
    .both (by decide +kernel) .minus hour (by decide +kernel) .none minute
  have east : zoneOffset 0 (some 30) = zoneValue false 0 30 := zoneOffsetSigned true 0 (some 30)
  have kept := @zoneSignKept 0 30 true (by decide) (by decide)
  have lost : zoneValue false 0 30 ≠ zoneValue true 0 30 := by simpa using kept
  rw [east] at given
  exact ⟨_, _, _, given, rfl, fieldsBare line.tail (by decide +kernel), sent, by dsimp only,
    by dsimp only; exact lost⟩

end Lines

end NmeaReceiver.Fix
