import NmeaReceiver.Proofs.Decimal.Nearest
import NmeaReceiver.Proofs.Sentence.Classification
import NmeaReceiver.Proofs.Sentence.Fields

/-! The places that lines tell. An angle is read only if it is no number below zero and none above
its limit, and whatever record it stands in, that holds of the place. -/
namespace NmeaReceiver.Sentence
open NmeaReceiver.Decimal
open NmeaReceiver.Fix (bindOk pureOk)

section Signs

variable {x y : Binary64} {n d units : Nat} {negative : Bool}

theorem ofQuotientCases (negative : Bool) (n d : Nat) :
    Binary64.ofQuotient negative n d = .finite negative (Binary64.nearestUnits n d) ∨
      Binary64.ofQuotient negative n d = .infinite negative ∧ n ≠ 0 := by
  unfold Binary64.ofQuotient
  dsimp only
  split
  · exact .inl rfl
  · rename_i large
    refine .inr ⟨rfl, ?_⟩
    rintro rfl
    have none : Binary64.nearestUnits 0 d = 0 := by simp [Binary64.nearestUnits, roundDiv]
    rw [none] at large
    exact large (twoToPositive 2098)

theorem zeroLeFinite : Binary64.zero.le (.finite negative units) = true ↔ (negative = true → units = 0) := by
  cases negative with
  | false => simp [Binary64.zero, Binary64.le, Binary64.signedUnits]
  | true =>
    simp only [Binary64.zero, Binary64.le, Binary64.signedUnits, decide_eq_true_iff, if_true,
      Bool.false_eq_true, if_false, true_implies]
    omega

theorem zeroLeOfQuotient (n d : Nat) : Binary64.zero.le (.ofQuotient false n d) = true := by
  rcases ofQuotientCases false n d with same | ⟨same, _⟩
  · rw [same, zeroLeFinite]
    exact nofun
  · rw [same]
    rfl

theorem zeroLeDivNat (above : Binary64.zero.le x = true) : Binary64.zero.le (x.divNat d) = true := by
  cases x with
  | nan => cases above
  | infinite negative => exact above
  | finite negative units =>
    have least := zeroLeFinite.mp above
    change Binary64.zero.le (.ofQuotient negative units d) = true
    cases negative with
    | false => exact zeroLeOfQuotient units d
    | true =>
      obtain rfl := least rfl
      rcases ofQuotientCases true 0 d with same | ⟨_, other⟩
      · rw [same, zeroLeFinite]
        intro _
        simp [Binary64.nearestUnits, roundDiv]
      · exact absurd rfl other

theorem addAboveZero (n d : Nat) (above : Binary64.zero.le y = true) :
    (Binary64.ofQuotient false n d).add y = .infinite false ∨
      ∃ sum, (Binary64.ofQuotient false n d).add y = .ofQuotient false sum 1 := by
  have least : ∀ t, Binary64.zero.le (.infinite t) = true → t = false := by
    intro t bound
    simpa [Binary64.zero, Binary64.le] using bound
  rcases ofQuotientCases false n d with same | ⟨same, _⟩ <;> rw [same]
  · cases y with
    | nan => cases above
    | infinite t =>
      rw [least t above]
      exact .inl rfl
    | finite t b =>
      refine .inr ⟨Binary64.nearestUnits n d + b, ?_⟩
      cases t with
      | false =>
        have positive : ¬ ((Binary64.nearestUnits n d : Int) + b < 0) := by omega
        have size : ((Binary64.nearestUnits n d : Int) + b).natAbs = Binary64.nearestUnits n d + b := by
          omega
        simp [Binary64.add, Binary64.signedUnits, positive, size]
      | true =>
        obtain rfl := zeroLeFinite.mp above rfl
        have positive : ¬ ((Binary64.nearestUnits n d : Int) < 0) := by omega
        simp [Binary64.add, Binary64.signedUnits, positive]
  · cases y with
    | nan => cases above
    | infinite t =>
      rw [least t above]
      exact .inl rfl
    | finite t b => exact .inl rfl

end Signs

def Angle (limit : Nat) (angle : Binary64) : Prop :=
  ∃ units, angle = .finite false units ∧ Representable units ∧ units ≤ limit * Binary64.unitsInOne

theorem angleBelow {limit : Nat} (small : limit < twoTo 53) {degrees : Nat} {part : Binary64}
    (above : Binary64.zero.le part = true)
    (below : ((Binary64.ofNat degrees).add part).le (.ofNat limit) = true) :
    Angle limit ((Binary64.ofNat degrees).add part) := by
  rw [Binary64.ofNatExact small] at below
  rcases addAboveZero (degrees * Binary64.unitsInOne) 1 above with sum | ⟨n, sum⟩
  · rw [Binary64.ofNat, sum] at below
    cases below
  · rw [Binary64.ofNat, sum] at below ⊢
    rcases ofQuotientCases false n 1 with same | ⟨same, _⟩
    · rw [same] at below ⊢
      refine ⟨_, rfl, Binary64.nearestRepresentable Nat.one_pos, ?_⟩
      simp only [Binary64.le, Binary64.signedUnits, decide_eq_true_iff, Bool.false_eq_true,
        if_false] at below
      exact_mod_cast below
    · rw [same] at below
      cases below

theorem readDegreesAngle {width limit : Nat} (small : limit < twoTo 53) {text rest : List Char}
    {angle : Binary64} (found : readDegrees width limit text = .found angle rest) :
    Angle limit angle := by
  unfold readDegrees at found
  cases run : digitRun? width text with
  | none => rw [run] at found; cases found
  | some taken =>
    rw [run] at found
    dsimp only at found
    cases part : readNumber taken.2 with
    | absent => rw [part] at found; cases found
    | broken left => rw [part] at found; cases found
    | found minutes left =>
      rw [part] at found
      dsimp only at found
      split at found
      · rename_i range
        obtain ⟨above, _⟩ := (Bool.and_eq_true _ _).mp range
        split at found
        · rename_i below
          rw [← (Reading.found.inj found).1]
          exact angleBelow small (zeroLeDivNat above) below
        · cases found
      · cases found

def Slot.Within : (slot : Slot) → slot.Value → Prop
  | .latitude, angle => Angle 90 angle
  | .longitude, angle => Angle 180 angle
  | _, _ => True

def Within : (slots : List Slot) → Contents slots → Prop
  | [], _ => True
  | slot :: slots, contents => (∀ value ∈ contents.1, slot.Within value) ∧ Within slots contents.2

theorem slotWithin {slot : Slot} {text rest : List Char} {value : slot.Value}
    (found : slot.read text = .found value rest) : slot.Within value := by
  cases slot with
  | latitude => exact readDegreesAngle (by decide) found
  | longitude => exact readDegreesAngle (by decide) found
  | _ => trivial

theorem readSlotWithin {slot : Slot} {text rest : List Char} {value : Option slot.Value}
    (read : readSlot slot text = .ok (value, rest)) : ∀ found ∈ value, slot.Within found := by
  unfold readSlot at read
  cases came : slot.read text with
  | found value left =>
    rw [came] at read
    cases read
    rintro _ ⟨⟩
    exact slotWithin came
  | broken left => rw [came] at read; cases read
  | absent =>
    rw [came] at read
    dsimp only at read
    split at read
    · cases read
    · cases read
      exact nofun

theorem readSlotsWithin {slots : List Slot} {text rest : List Char} {contents : Contents slots}
    (read : readSlots slots text = .ok (contents, rest)) : Within slots contents := by
  induction slots generalizing text with
  | nil => trivial
  | cons slot slots ih =>
    simp only [readSlots, bindOk, pureOk] at read
    obtain ⟨_, _, ⟨value, next⟩, first, ⟨values, left⟩, others, same⟩ := read
    cases same
    exact ⟨readSlotWithin first, ih others⟩

def Directed (limit : Nat) (angle : Binary64) : Prop :=
  ∃ negative units, angle = .finite negative units ∧ Representable units ∧
    units ≤ limit * Binary64.unitsInOne

structure OnEarth (place : Coordinates) : Prop where
  latitude : Directed 90 place.latitude
  longitude : Directed 180 place.longitude

theorem angleDirected {limit : Nat} {angle : Binary64} (within : Angle limit angle)
    (positive : Bool) : Directed limit (directed positive angle) := by
  obtain ⟨units, rfl, representable, below⟩ := within
  cases positive with
  | true => exact ⟨false, units, rfl, representable, below⟩
  | false => exact ⟨true, units, rfl, representable, below⟩

theorem coordinatesOnEarth {latitude longitude : Option Binary64} {north east : Option Bool}
    {place : Coordinates} (made : Coordinates.of? latitude north longitude east = some place)
    (first : ∀ angle ∈ latitude, Angle 90 angle) (second : ∀ angle ∈ longitude, Angle 180 angle) :
    OnEarth place := by
  cases north <;> cases latitude <;> cases east <;> cases longitude <;> try cases made
  exact ⟨angleDirected (first _ rfl) _, angleDirected (second _ rfl) _⟩

variable {talker : Talker} {text line : List Char} {place : Coordinates}

theorem rmcOnEarth {record : Rmc} (read : Rmc.read talker text = .ok record)
    (told : record.position = some place) : OnEarth place := by
  obtain ⟨⟨⟨time, status, lat, ns, lon, ew, speed, course, date, _⟩, rest⟩, filled, same⟩ :=
    bindOk.mp read
  obtain ⟨_, _, latitude, _, longitude, _⟩ := readSlotsWithin filled
  rw [pureOk.mp same] at told
  exact coordinatesOnEarth told latitude longitude

theorem ggaOnEarth {record : Gga} (read : Gga.read talker text = .ok record)
    (told : record.position = some place) : OnEarth place := by
  obtain ⟨⟨⟨time, lat, ns, lon, ew, quality, satellites, hdop, altitude, unit, separation, _⟩, rest⟩,
    filled, same⟩ := bindOk.mp read
  obtain ⟨_, latitude, _, longitude, _⟩ := readSlotsWithin filled
  rw [pureOk.mp same] at told
  exact coordinatesOnEarth told latitude longitude

def placeIn (line : List Char) : Option Coordinates :=
  match ofLine line with
  | .rmc record => record.position
  | .gga record => record.position
  | _ => none

theorem placeOnEarth (told : placeIn line = some place) : OnEarth place := by
  have classed := ofLineClassed (trimStrips line)
  unfold placeIn at told
  generalize ofLine line = sentence at classed told
  cases classed with
  | framing _ => cases told
  | nonPrintable _ _ => cases told
  | checksum _ _ _ => cases told
  | address _ _ => cases told
  | unrecognized _ _ _ => cases told
  | @known body kind sentence whole addressed named ofKind =>
    cases ofKind with
    | fields stops => cases told
    | record read =>
      cases kind with
      | rmc =>
        obtain ⟨record, accepted, rfl⟩ := mapOk.mp read
        exact rmcOnEarth accepted told
      | gga =>
        obtain ⟨record, accepted, rfl⟩ := mapOk.mp read
        exact ggaOnEarth accepted told
      | gsa =>
        obtain ⟨record, _, rfl⟩ := mapOk.mp read
        cases told
      | zda =>
        obtain ⟨record, _, rfl⟩ := mapOk.mp read
        cases told

end NmeaReceiver.Sentence
