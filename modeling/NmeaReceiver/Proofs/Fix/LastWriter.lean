import NmeaReceiver.Proofs.Fix.Apply
import NmeaReceiver.Proofs.Fix.Extraction

/-! The values of a fix told by the lines alone: each category is what the last line that carries
it tells. Latitude and longitude come from one line, and so do the instant and its offset. An
elevation comes with some positions only; a position without one keeps the one before. Lines that
carry nothing may be struck out. -/
namespace NmeaReceiver.Fix
open NmeaReceiver.Calendar NmeaReceiver.Decimal

structure Values where
  latitude : Option Binary64
  longitude : Option Binary64
  elevation : Option Binary64
  utc : Option Instant
  offsetHours : Option Binary64
  status : Option Status
  deriving DecidableEq, Repr

def State.values (s : State) : Values :=
  ⟨s.latitude, s.longitude, s.elevation, s.utc, s.offsetHours, s.status⟩

def lastTold {α β : Type} (tells : α → Option β) (items : List α) : Option β :=
  (items.filterMap tells).getLast?

theorem lastToldSnoc {α β : Type} (tells : α → Option β) (items : List α) (item : α) :
    lastTold tells (items ++ [item]) = (tells item).or (lastTold tells items) := by
  unfold lastTold
  rw [List.filterMap_append, List.getLast?_append]
  cases said : tells item <;> simp [said]

theorem lastToldFilter {α β : Type} (tells : α → Option β) (keep : α → Bool) (items : List α)
    (silent : ∀ item, keep item = false → tells item = none) :
    lastTold tells (items.filter keep) = lastTold tells items := by
  unfold lastTold
  rw [List.filterMap_filter]
  congr 2
  funext item
  cases kept : keep item with
  | false => simp [silent item kept]
  | true => simp

theorem lastToldSome {α β : Type} {tells : α → Option β} {items : List α}
    (told : items.all (fun item => (tells item).isNone) = false) :
    ∃ value, lastTold tells items = some value := by
  cases last : lastTold tells items with
  | some value => exact ⟨value, rfl⟩
  | none =>
    unfold lastTold at last
    rw [List.getLast?_eq_none_iff, List.filterMap_eq_nil_iff] at last
    have silent : items.all (fun item => (tells item).isNone) = true := by simpa using last
    rw [silent] at told
    cases told

variable (clock : Clock)

def updateIn (line : List Char) : Option Update := (extract clock (Sentence.ofLine line)).toOption

def positionIn (line : List Char) : Option Position := (updateIn clock line).bind (·.position)

def elevationIn (line : List Char) : Option Binary64 := (positionIn clock line).bind (·.elevation)

def timeIn (line : List Char) : Option TimeFix := (updateIn clock line).bind (·.time)

-- Of all sentences only GSA tells the kind of fix, and it always does.
def statusIn (line : List Char) : Option Status :=
  match Sentence.ofLine line with
  | .gsa record => some (statusOf record.fixType)
  | _ => none

def lastWritten (lines : List (List Char)) : Values :=
  let position := lastTold (positionIn clock) lines
  let time := lastTold (timeIn clock) lines
  { latitude := position.map (·.latitude)
    longitude := position.map (·.longitude)
    elevation := lastTold (elevationIn clock) lines
    utc := time.map (·.utc)
    offsetHours := time.map (·.offsetHours)
    status := lastTold statusIn lines }

def carries (line : List Char) : Bool := (updateIn clock line).isSome

variable {clock} {line : List Char}

theorem updateInSome {update : Update} :
    updateIn clock line = some update ↔ extract clock (Sentence.ofLine line) = .ok update := by
  unfold updateIn
  cases extract clock (Sentence.ofLine line) <;> simp [Except.toOption]

theorem updateStatus {update : Update} (found : updateIn clock line = some update) :
    statusIn line = update.status := by
  have told := extractExtracted (updateInSome.mp found)
  unfold statusIn
  generalize Sentence.ofLine line = sentence at told
  cases told with
  | rmc => rfl
  | gga => rfl
  | gsa => rfl
  | zda => rfl

theorem noUpdateStatus (missing : updateIn clock line = none) : statusIn line = none := by
  unfold statusIn
  cases sentence : Sentence.ofLine line with
  | gsa record => simp [updateIn, sentence, extract, Except.toOption] at missing
  | _ => rfl

theorem ingestUpdate (s : State) :
    s.ingest clock line = match updateIn clock line with
      | some update => s.apply update
      | none => s := by
  unfold State.ingest updateIn
  cases extract clock (Sentence.ofLine line) <;> rfl

theorem carriesNone : carries clock line = false ↔ updateIn clock line = none := by
  simp [carries]

theorem ingestValues {s : State} {lines : List (List Char)}
    (written : s.values = lastWritten clock lines) (line : List Char) :
    (s.ingest clock line).values = lastWritten clock (lines ++ [line]) := by
  unfold lastWritten State.values at written
  obtain ⟨latitude, longitude, elevation, utc, offsetHours, status⟩ := Values.mk.inj written
  rw [ingestUpdate, lastWritten]
  simp only [lastToldSnoc]
  cases found : updateIn clock line with
  | none =>
    have position : positionIn clock line = none := by simp [positionIn, found]
    have time : timeIn clock line = none := by simp [timeIn, found]
    have height : elevationIn clock line = none := by simp [elevationIn, position]
    simp only [position, time, height, noUpdateStatus found, Option.none_or]
    exact written
  | some update =>
    have position : positionIn clock line = update.position := by simp [positionIn, found]
    have time : timeIn clock line = update.time := by simp [timeIn, found]
    have height : elevationIn clock line = update.position.bind (·.elevation) := by
      simp [elevationIn, position]
    simp only [State.values, State.applyLatitude, State.applyLongitude, State.applyElevation,
      State.applyUtc, State.applyOffsetHours, State.applyFixStatus, latitude, longitude,
      elevation, utc, offsetHours, status, position, time, height, updateStatus found, Option.map_or]

theorem foldIngestValues {s : State} {lines : List (List Char)}
    (written : s.values = lastWritten clock lines) (more : List (List Char)) :
    (more.foldl (State.ingest clock) s).values = lastWritten clock (lines ++ more) := by
  induction more generalizing s lines with
  | nil => rw [List.append_nil]; exact written
  | cons line more ih =>
    rw [List.foldl_cons, List.append_cons]
    exact ih (ingestValues written line)

theorem lastWrittenFilter (lines : List (List Char)) :
    lastWritten clock (lines.filter (carries clock)) = lastWritten clock lines := by
  have silent : ∀ line, carries clock line = false →
      positionIn clock line = none ∧ elevationIn clock line = none ∧ timeIn clock line = none ∧
      statusIn line = none := by
    intro line nothing
    have missing := carriesNone.mp nothing
    have position : positionIn clock line = none := by simp [positionIn, missing]
    exact ⟨position, by simp [elevationIn, position], by simp [timeIn, missing],
      noUpdateStatus missing⟩
  unfold lastWritten
  rw [lastToldFilter _ _ _ fun line nothing => (silent line nothing).1,
    lastToldFilter _ _ _ fun line nothing => (silent line nothing).2.1,
    lastToldFilter _ _ _ fun line nothing => (silent line nothing).2.2.1,
    lastToldFilter _ _ _ fun line nothing => (silent line nothing).2.2.2]

end NmeaReceiver.Fix
