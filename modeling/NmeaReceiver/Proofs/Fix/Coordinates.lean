import NmeaReceiver.Proofs.Fix.Coherence
import NmeaReceiver.Proofs.Sentence.Angles

/-! The place a fix holds. A longitude goes around once: whatever a line tells becomes its value
modulo a full turn, rounded once, and a westerly one so small that the rounding closes the turn
becomes zero. So no fix is ever off the globe, and the longitude it holds has no sign. -/
namespace NmeaReceiver.Fix.Coordinates
open NmeaReceiver.Decimal NmeaReceiver.Sentence
open NmeaReceiver.Fix.Coherence (serveAll)

def fullTurn : Nat := 360 * Binary64.unitsInOne

def residue (negative : Bool) (units : Nat) : Nat :=
  (Binary64.signedUnits negative units % (fullTurn : Int)).toNat

variable {units : Nat} {longitude : Binary64}

theorem turnExact : Binary64.ofNat 360 = .finite false fullTurn := Binary64.ofNatExact (by decide)

theorem turnPositive : 0 < fullTurn := Nat.mul_pos (by decide) Binary64.unitsPositive

theorem turnRepresentable : Representable fullTurn := Binary64.wholeRepresentable (by decide)

theorem turnInRange : fullTurn < Binary64.unitsLimit := Binary64.wholeInRange (by decide)

theorem residueZero (negative : Bool) : residue negative 0 = 0 := by
  have none : Binary64.signedUnits negative 0 = 0 := by cases negative <;> rfl
  rw [residue, none, Int.zero_emod, Int.toNat_zero]

theorem residueEast (within : units < fullTurn) : residue false units = units := by
  unfold residue Binary64.signedUnits
  rw [if_neg (by decide), Int.emod_eq_of_lt (by omega) (by omega), Int.toNat_natCast]

theorem residueWest (some : 0 < units) (within : units ≤ fullTurn) :
    residue true units = fullTurn - units := by
  have turned : (-(units : Int)) % (fullTurn : Int) = fullTurn - units := by
    rw [← Int.add_emod_right, Int.emod_eq_of_lt (by omega) (by omega)]
    omega
  unfold residue Binary64.signedUnits
  rw [if_pos rfl, turned]
  omega

theorem closesTurn (within : units ≤ fullTurn) :
    (if (Binary64.finite false units).isZero || (Binary64.ofNat 360).le (.finite false units)
      then Binary64.zero else .finite false units) = .finite false (units % fullTurn) := by
  have closed : (Binary64.ofNat 360).le (.finite false units) = decide (fullTurn ≤ units) := by
    rw [turnExact]
    simp only [Binary64.le, Binary64.signedUnits, Bool.false_eq_true, if_false, Int.ofNat_le]
  rw [closed]
  rcases Nat.lt_or_eq_of_le within with less | whole
  · rw [Nat.mod_eq_of_lt less]
    cases units with
    | zero => rfl
    | succ n => simp [Binary64.isZero, Nat.not_le.mpr less]
  · simp [Binary64.zero, whole]

theorem normalizeEast (within : units < fullTurn) :
    normalizeLongitude (.finite false units) = .finite false units := by
  have signless : (Binary64.finite false units).lt .zero = false := by
    simp [Binary64.lt, Binary64.zero, Binary64.signedUnits]
  have closed := closesTurn (Nat.le_of_lt within)
  rw [Nat.mod_eq_of_lt within] at closed
  unfold normalizeLongitude
  rw [signless]
  exact closed

theorem addTurn (within : units ≤ fullTurn) :
    Binary64.nearestUnits (fullTurn - units) 1 ≤ fullTurn ∧
      (Binary64.finite true units).add (.ofNat 360) =
        .finite false (Binary64.nearestUnits (fullTurn - units) 1) := by
  have most := Binary64.nearestLe (Binary64.nearestNearest (fullTurn - units) Nat.one_pos)
    (Nat.sub_le _ _) turnRepresentable
  refine ⟨most, ?_⟩
  have exact : Binary64.signedUnits true units + Binary64.signedUnits false fullTurn =
      ((fullTurn - units : Nat) : Int) := by
    simp only [Binary64.signedUnits, if_true, Bool.false_eq_true, if_false]
    omega
  have range := Nat.lt_of_le_of_lt most turnInRange
  rw [turnExact, Binary64.add, exact, Int.natAbs_natCast]
  have signless : (if ((fullTurn - units : Nat) : Int) = 0 then true && false
      else decide (((fullTurn - units : Nat) : Int) < 0)) = false := by
    split
    · rfl
    · exact decide_eq_false (by omega)
  simp only [signless, Binary64.ofQuotient, if_pos range]

theorem normalizeWest (some : 0 < units) (within : units ≤ fullTurn) :
    normalizeLongitude (.finite true units) =
      .finite false (Binary64.nearestUnits (fullTurn - units) 1 % fullTurn) := by
  have signed : (Binary64.finite true units).lt .zero = true := by
    simp [Binary64.lt, Binary64.zero, Binary64.signedUnits, some]
  obtain ⟨most, sum⟩ := addTurn within
  unfold normalizeLongitude
  rw [signed, if_pos rfl, sum]
  exact closesTurn most

theorem normalizeZero (negative : Bool) :
    normalizeLongitude (.finite negative 0) = .finite false 0 := by
  cases negative <;> rfl

structure Turned (longitude : Binary64) (negative : Bool) (units : Nat) : Prop where
  told : longitude = .finite negative units
  modulo : normalizeLongitude longitude =
    .finite false (Binary64.nearestUnits (residue negative units) 1 % fullTurn)
  rounding : Nearest (residue negative units) 1 (Binary64.nearestUnits (residue negative units) 1)
  again : normalizeLongitude (normalizeLongitude longitude) = normalizeLongitude longitude

theorem directedTurned (directed : Directed 180 longitude) :
    ∃ negative units, Turned longitude negative units := by
  obtain ⟨negative, units, told, representable, below⟩ := directed
  have within : units < fullTurn := by
    have positive := Binary64.unitsPositive
    unfold fullTurn
    omega
  have modulo : normalizeLongitude longitude =
      .finite false (Binary64.nearestUnits (residue negative units) 1 % fullTurn) := by
    have kept : Binary64.nearestUnits units 1 = units :=
      Binary64.nearestExact (Binary64.nearestNearest units Nat.one_pos) representable
    rw [told]
    rcases Nat.eq_zero_or_pos units with rfl | some
    · rw [residueZero, kept, Nat.zero_mod, normalizeZero]
    · cases negative with
      | false => rw [residueEast within, kept, Nat.mod_eq_of_lt within, normalizeEast within]
      | true =>
        rw [residueWest some (Nat.le_of_lt within), normalizeWest some (Nat.le_of_lt within)]
  refine ⟨negative, units, told, modulo, Binary64.nearestNearest _ Nat.one_pos, ?_⟩
  rw [modulo, normalizeEast (Nat.mod_lt _ turnPositive)]

structure OnGlobe (s : State) : Prop where
  latitude : ∀ angle ∈ s.latitude,
    ∃ negative units, angle = .finite negative units ∧ units ≤ 90 * Binary64.unitsInOne
  longitude : ∀ angle ∈ s.longitude, ∃ units, angle = .finite false units ∧ units < fullTurn

variable {clock : Clock} {line : List Char} {update : Update} {position : Position} {s : State}

theorem updatePlace (found : updateIn clock line = some update)
    (told : update.position = some position) :
    ∃ place, placeIn line = some place ∧ position.latitude = place.latitude ∧
      position.longitude = normalizeLongitude place.longitude := by
  have extracted := extractExtracted (updateInSome.mp found)
  unfold placeIn
  generalize ofLine line = sentence at extracted
  cases extracted with
  | rmc active known timed dated valid =>
    rw [← Option.some.inj told]
    exact ⟨_, known, rfl, rfl⟩
  | gga fixed known timed valid =>
    rw [← Option.some.inj told]
    exact ⟨_, known, rfl, rfl⟩
  | gsa => cases told
  | zda => cases told

theorem applyOnGlobe (stays : OnGlobe s) (found : updateIn clock line = some update) :
    OnGlobe (s.apply update) := by
  cases told : update.position with
  | none =>
    constructor
    case latitude => simpa [told] using stays.latitude
    case longitude => simpa [told] using stays.longitude
  | some position =>
    obtain ⟨place, known, north, east⟩ := updatePlace found told
    have onEarth := placeOnEarth known
    constructor
    case latitude =>
      have written : (s.apply update).latitude = some place.latitude := by simp [told, north]
      obtain ⟨negative, units, same, _, below⟩ := onEarth.latitude
      intro angle held
      rw [written, Option.mem_some_iff] at held
      exact ⟨negative, units, held ▸ same, below⟩
    case longitude =>
      have written : (s.apply update).longitude = some (normalizeLongitude place.longitude) := by
        simp [told, east]
      obtain ⟨_, _, turned⟩ := directedTurned onEarth.longitude
      intro angle held
      rw [written, Option.mem_some_iff] at held
      exact ⟨_, held ▸ turned.modulo, Nat.mod_lt _ turnPositive⟩

theorem linesKeepOnGlobe :
    (∀ requests, OnGlobe (serveAll requests)) ∧
    ∀ line place, placeIn line = some place →
      ∃ negative units, Turned place.longitude negative units := by
  constructor
  · refine Coherence.serveAllKeeps ⟨nofun, nofun⟩ ?_ ?_
    · exact fun s stays => ⟨stays.latitude, stays.longitude⟩
    · exact fun clock line update s found stays => applyOnGlobe stays found
  · intro line place known
    exact directedTurned (placeOnEarth known).longitude

-- So little west that the rounded sum closes the turn.
example : (placeIn "$GPGGA,000000,0000.00,N,00000.000000000000001,W,1,,,,,,,,".toList).map
    (fun place => normalizeLongitude place.longitude) = some (.finite false 0) := by
  decide +kernel

end NmeaReceiver.Fix.Coordinates
