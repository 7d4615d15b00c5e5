import NmeaReceiver.Proofs.Fix.Handshake
import NmeaReceiver.Proofs.Fix.LastWriter

/-! What lines and polls can make of a fix. A sentence that tells a position tells a time with it, so
a state that waits for a time waits for a position too, and the values come in a fixed order: no
place without an instant, no elevation without a place. Updates of any other making do not keep
this. -/
namespace NmeaReceiver.Fix.Coherence

-- Each line is read under a clock of its own.
inductive Request where
  | poll
  | ingest (clock : Clock) (line : List Char)

def serve (s : State) : Request → State
  | .poll => s.requestPoll.2
  | .ingest clock line => s.ingest clock line

def serveAll (requests : List Request) : State := requests.foldl serve .empty

structure Coherent (s : State) : Prop where
  waits : s.timePending = true → s.locationPending = true
  placed : s.latitude.isSome ↔ s.longitude.isSome
  timed : s.utc.isSome ↔ s.offsetHours.isSome
  dated : s.latitude.isSome → s.utc.isSome
  raised : s.elevation.isSome → s.latitude.isSome

def Timed (update : Update) : Prop := update.position.isSome → update.time.isSome

variable {clock : Clock} {update : Update} {s : State}

theorem serveAllKeeps {holds : State → Prop} (begins : holds .empty)
    (polled : ∀ s, holds s → holds { s with locationPending := true, timePending := true })
    (told : ∀ clock line update s, updateIn clock line = some update → holds s →
      holds (s.apply update)) (requests : List Request) : holds (serveAll requests) := by
  induction requests using List.reverseRecOn with
  | nil => exact begins
  | append_singleton requests request ih =>
    rw [serveAll, List.foldl_append]
    change holds (serve (serveAll requests) request)
    cases request with
    | poll =>
      rw [serve]
      cases accepted : (serveAll requests).requestPoll.1 with
      | false => exact (State.requestPollBusy accepted).symm ▸ ih
      | true => exact (Handshake.requestPollTakes accepted).symm ▸ polled _ ih
    | ingest clock line =>
      rw [serve, ingestUpdate]
      cases found : updateIn clock line with
      | none => exact ih
      | some update => exact told clock line update _ found ih

theorem updateTimed {line : List Char} (found : updateIn clock line = some update) :
    Timed update := by
  have told := extractExtracted (updateInSome.mp found)
  generalize Sentence.ofLine line = sentence at told
  cases told with
  | rmc => exact fun _ => rfl
  | gga => exact fun _ => rfl
  | gsa => exact nofun
  | zda => exact nofun

theorem applyCoherent (coherent : Coherent s) (timed : Timed update) :
    Coherent (s.apply update) := by
  unfold Timed at timed
  cases position : update.position with
  | none =>
    constructor
    case waits => simpa [position] using fun waits _ => coherent.waits waits
    case placed => simpa [position] using coherent.placed
    case timed => simpa using or_congr_right coherent.timed
    case dated => simpa [position] using fun placed => Or.inr (coherent.dated placed)
    case raised => simpa [position] using coherent.raised
  | some place =>
    obtain ⟨time, told⟩ := Option.isSome_iff_exists.mp (timed (by rw [position]; rfl))
    constructor <;> simp [position, told]

theorem emptyCoherent : Coherent .empty := by
  constructor <;> simp [State.empty]

theorem linesKeepCoherent :
    (∀ requests, Coherent (serveAll requests)) ∧
    ∃ calls : List (Handshake.Call Unit),
      (Handshake.Shared.serveAll calls).state.timePending = true ∧
      (Handshake.Shared.serveAll calls).state.locationPending = false := by
  constructor
  · refine serveAllKeeps emptyCoherent ?_ ?_
    · intro s coherent
      exact ⟨fun _ => rfl, coherent.placed, coherent.timed, coherent.dated, coherent.raised⟩
    · intro clock line update s found coherent
      exact applyCoherent coherent (updateTimed found)
  · exact ⟨[.poll (), .apply ⟨some ⟨.zero, .zero, none⟩, none, none⟩], rfl, rfl⟩

end NmeaReceiver.Fix.Coherence
