import NmeaReceiver.Fix.Extract
import NmeaReceiver.Proofs.Sentence.Classification
import NmeaReceiver.Proofs.Sentence.Fields

/-! The lines that give a record: where in the line its body stands, and which fields it was read
from. The body is the run of printable characters without `*` after the first `$`. -/
namespace NmeaReceiver.Sentence
open NmeaReceiver.Calendar
open NmeaReceiver.Fix (extract)

structure Recorded (line body : List Char) (kind : Kind) (sentence : Sentence) : Prop where
  whole : Whole (trimLineEnd line) body
  addressed : Addressed body
  named : (body.drop 2).take 3 = kind.name.toList
  read : recordOf (.ofCode (body.take 2)) (body.drop 5) kind = .ok sentence

variable {line body : List Char} {kind : Kind} {sentence : Sentence}

theorem recordedLine (told : ofLine line = sentence) (valid : ∀ refusal, sentence ≠ .invalid refusal)
    (known : ∀ other, sentence ≠ .unrecognized other) :
    ∃ body kind, Recorded line body kind sentence := by
  have classed := ofLineClassed (trimStrips line)
  rw [told] at classed
  cases classed with
  | framing _ => exact absurd rfl (valid _)
  | nonPrintable _ _ => exact absurd rfl (valid _)
  | checksum _ _ _ => exact absurd rfl (valid _)
  | address _ _ => exact absurd rfl (valid _)
  | unrecognized _ _ _ => exact absurd rfl (known _)
  | @known body kind _ whole addressed named ofKind =>
    cases ofKind with
    | fields _ => exact absurd rfl (valid _)
    | record read => exact ⟨body, kind, whole, addressed, named, read⟩

theorem extractedRecorded {clock : Fix.Clock} {update : Fix.Update}
    (told : extract clock (ofLine line) = .ok update) :
    ∃ body kind, Recorded line body kind (ofLine line) := by
  cases sentence : ofLine line with
  | unrecognized other => simp [sentence, extract] at told
  | invalid refusal => simp [sentence, extract] at told
  | _ => exact recordedLine sentence (by simp) (by simp)

inductive ReadAs (talker : Talker) (text : List Char) : Kind → Sentence → Prop where
  | rmc {record : Rmc} (read : Rmc.read talker text = .ok record) : ReadAs talker text .rmc (.rmc record)
  | gga {record : Gga} (read : Gga.read talker text = .ok record) : ReadAs talker text .gga (.gga record)
  | gsa {record : Gsa} (read : Gsa.read talker text = .ok record) : ReadAs talker text .gsa (.gsa record)
  | zda {record : Zda} (read : Zda.read talker text = .ok record) : ReadAs talker text .zda (.zda record)

theorem recordedAs (recorded : Recorded line body kind sentence) :
    ReadAs (.ofCode (body.take 2)) (body.drop 5) kind sentence := by
  have read := recorded.read
  cases kind with
  | rmc =>
    obtain ⟨record, came, rfl⟩ := mapOk.mp read
    exact .rmc came
  | gga =>
    obtain ⟨record, came, rfl⟩ := mapOk.mp read
    exact .gga came
  | gsa =>
    obtain ⟨record, came, rfl⟩ := mapOk.mp read
    exact .gsa came
  | zda =>
    obtain ⟨record, came, rfl⟩ := mapOk.mp read
    exact .zda came

def isBodyChar (c : Char) : Bool := isPrintable c && c != '*'

structure Placed (line body : List Char) (noise after : List Char) : Prop where
  parts : line = noise ++ '$' :: (body ++ after)
  ahead : '$' ∉ noise
  inside : ∀ c ∈ body, isBodyChar c = true
  ends : ∀ c ∈ after.head?, isBodyChar c = false

theorem bodyChars (printable : Printable body) (whole : '*' ∉ body) :
    ∀ c ∈ body, isBodyChar c = true := by
  intro c member
  have shown := List.all_eq_true.mp (printableIff.mpr printable) c member
  simp [isBodyChar, shown, starFree whole c member]

theorem lineEndStops {ends : List Char} (only : LineEnds ends) :
    ∀ c ∈ ends.head?, isBodyChar c = false := by
  intro c first
  rcases only c (List.mem_of_mem_head? first) with same | same <;> rw [same] <;> rfl

theorem recordedPlaced (recorded : Recorded line body kind sentence) :
    ∃ noise after, Placed line body noise after := by
  obtain ⟨⟨given, framed, _⟩, printable⟩ := recorded.whole
  obtain ⟨ends, parts, only⟩ := (trimStrips line).parts
  generalize trimLineEnd line = text at framed parts
  cases framed with
  | @plain noise _ ahead whole =>
    exact ⟨noise, ends, by simp [parts], ahead, bodyChars printable whole, lineEndStops only⟩
  | @summed noise _ digits _ ahead whole spelled =>
    exact ⟨noise, '*' :: digits ++ ends, by simp [parts], ahead, bodyChars printable whole,
      by simp [isBodyChar]⟩

theorem placedUnique {noise other text rest : List Char} (ahead : '$' ∉ noise) (before : '$' ∉ other)
    (same : noise ++ '$' :: text = other ++ '$' :: rest) : noise = other ∧ text = rest := by
  have texts : '$' :: text = '$' :: rest := by
    have dropped := congrArg (List.dropWhile (· != '$')) same
    rw [skipNoise ahead, skipNoise before] at dropped
    simpa using dropped
  rw [texts] at same
  exact ⟨List.append_cancel_right same, (List.cons.inj texts).2⟩

theorem runTaken {run after : List Char} {keeps : Char → Bool} (inside : ∀ c ∈ run, keeps c = true)
    (ends : ∀ c ∈ after.head?, keeps c = false) : (run ++ after).takeWhile keeps = run := by
  rw [List.takeWhile_append_of_pos inside]
  cases after with
  | nil => simp
  | cons c rest => simp [ends c rfl]

theorem placedBody {line body other noise after ahead rest : List Char}
    (placed : Placed line body noise after) (again : Placed line other ahead rest) : body = other := by
  obtain ⟨_, same⟩ := placedUnique placed.ahead again.ahead (placed.parts.symm.trans again.parts)
  have taken := congrArg (List.takeWhile isBodyChar) same
  rwa [runTaken placed.inside placed.ends, runTaken again.inside again.ends] at taken

def FieldsOf (line : List Char) (fields : List (List Char)) : Prop :=
  ∃ body noise after, Placed line body noise after ∧ fields = (body.drop 5).splitOn ','

theorem recordedFields (recorded : Recorded line body kind sentence) :
    FieldsOf line ((body.drop 5).splitOn ',') := by
  obtain ⟨noise, after, placed⟩ := recordedPlaced recorded
  exact ⟨body, noise, after, placed, rfl⟩

theorem fieldsBare (body : List Char) (inside : body.all isBodyChar = true) :
    FieldsOf ('$' :: body) ((body.drop 5).splitOn ',') :=
  ⟨body, [], [], ⟨by simp, by simp, List.all_eq_true.mp inside, by simp⟩, rfl⟩

theorem fieldsUnique {fields others : List (List Char)} (first : FieldsOf line fields)
    (second : FieldsOf line others) : fields = others := by
  obtain ⟨_, _, _, placed, rfl⟩ := first
  obtain ⟨_, _, _, again, rfl⟩ := second
  rw [placedBody placed again]

def placeSlots : List Slot := [.latitude, .northSouth, .longitude, .eastWest]

def placeOf : Contents placeSlots → Option Coordinates
  | (latitude, north, longitude, east, _) => Coordinates.of? latitude north longitude east

structure Tells (fields : List (List Char)) (first : Nat) (time : Option TimeOfDay)
    (position : Option Coordinates) : Prop where
  clocked : ∃ text, fields[1]? = some text ∧ Slot.time.Holds time text
  placed : ∃ contents, Filled placeSlots contents ((fields.drop first).take 4) ∧
    position = placeOf contents

theorem rmcTells {talker : Talker} {text : List Char} {r : Rmc} (read : Rmc.read talker text = .ok r) :
    Tells (text.splitOn ',') 3 r.time r.position := by
  obtain ⟨⟨time, status, latitude, north, longitude, east, others⟩, date, rest, filled, rfl⟩ :=
    rmcRead.mp read
  obtain ⟨after, front, _⟩ := lastRead.mp filled
  obtain ⟨tail, _, rfl, fields, split, holds⟩ := openLayout.mp front
  match fields, holds with
  | a :: b :: c :: d :: e :: f :: more, ⟨clocked, _, third, fourth, fifth, sixth, _⟩ =>
    rw [split]
    exact ⟨⟨a, rfl, clocked⟩, (latitude, north, longitude, east, ()),
      ⟨third, fourth, fifth, sixth, rfl⟩, rfl⟩

theorem ggaTells {talker : Talker} {text : List Char} {g : Gga} (read : Gga.read talker text = .ok g) :
    Tells (text.splitOn ',') 2 g.time g.position := by
  obtain ⟨⟨time, latitude, north, longitude, east, others⟩, separation, rest, filled, rfl⟩ :=
    ggaRead.mp read
  obtain ⟨after, front, _⟩ := lastRead.mp filled
  obtain ⟨tail, _, rfl, fields, split, holds⟩ := openLayout.mp front
  match fields, holds with
  | a :: b :: c :: d :: e :: more, ⟨clocked, second, third, fourth, fifth, _⟩ =>
    rw [split]
    exact ⟨⟨a, rfl, clocked⟩, (latitude, north, longitude, east, ()),
      ⟨second, third, fourth, fifth, rfl⟩, rfl⟩

end NmeaReceiver.Sentence
