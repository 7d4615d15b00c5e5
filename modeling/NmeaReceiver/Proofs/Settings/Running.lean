import NmeaReceiver.Proofs.Link.Counter
import NmeaReceiver.Settings.Basic

/-! Which settings a receiver can run with. A file is only checked for its form and for one way to
reach the receiver; three of its numbers pass unchecked to what they stop or overflow. -/
namespace NmeaReceiver.Settings
open NmeaReceiver.Link NmeaReceiver.Settings.Document

theorem loadOk {file : Except Host.Fault (List UInt8)} {settings : Settings} :
    load file = .ok settings ↔
      ∃ octets text, file = .ok octets ∧ Text.Utf8.decode? octets = some text ∧
        (Document.ofText? text).bind ofEntries? = some settings ∧
        ∃ transport, settings.receiver.transport = .ok transport := by
  constructor
  · intro loaded
    have reached := loadTransport loaded
    cases file with
    | error fault => cases loaded
    | ok octets =>
      rw [load] at loaded
      cases decoded : Text.Utf8.decode? octets with
      | none => rw [decoded] at loaded; cases loaded
      | some text =>
        rw [decoded] at loaded
        simp only [ofText] at loaded
        cases read : (Document.ofText? text).bind ofEntries? with
        | none => rw [read] at loaded; cases loaded
        | some found =>
          simp only [read] at loaded
          split at loaded
          · cases loaded
            exact ⟨octets, text, rfl, decoded, read, reached⟩
          · cases loaded
  · rintro ⟨octets, text, rfl, decoded, read, transport, reached⟩
    simp only [load, decoded, ofText, read, reached]

theorem optionalRead {α : Type} {read : Value → Option α} {found : Option Value} {a : α}
    (told : optional read found = some (some a)) : ∃ value, read value = some a := by
  cases found with
  | none => cases told
  | some value =>
    simp only [optional, Option.map_eq_some_iff, Option.some.injEq] at told
    obtain ⟨_, came, rfl⟩ := told
    exact ⟨value, came⟩

theorem thresholdBound {value : Value} {reconnect : Reconnect} {threshold : Nat}
    (read : Reconnect.read? value = some reconnect)
    (told : reconnect.timeoutThreshold = some threshold) : threshold ≤ max32 := by
  simp only [Reconnect.read?, bind, Option.bind_eq_some_iff] at read
  obtain ⟨fields, _, read⟩ := read
  split at read
  · simp only [Option.bind_eq_some_iff] at read
    obtain ⟨_, _, limit, limited, _, _, _, _, _, _, same⟩ := read
    cases Option.some.inj same
    cases told
    obtain ⟨value, came⟩ := optionalRead limited
    exact naturalBound came
  · cases read

theorem reconnectRead {value : Value} {receiver : Receiver} {reconnect : Reconnect}
    (read : Receiver.read? value = some receiver) (told : receiver.reconnect = some reconnect) :
    ∃ value, Reconnect.read? value = some reconnect := by
  simp only [Receiver.read?, bind, Option.bind_eq_some_iff] at read
  obtain ⟨fields, _, read⟩ := read
  split at read
  · simp only [Option.bind_eq_some_iff] at read
    obtain ⟨_, _, _, _, _, _, again, came, _, _, _, _, same⟩ := read
    cases Option.some.inj same
    cases told
    exact optionalRead came
  · cases read

theorem receiverRead {entries : Entries} {settings : Settings}
    (read : ofEntries? entries = some settings) :
    ∃ value, Receiver.read? value = some settings.receiver := by
  simp only [ofEntries?, bind, Option.bind_eq_some_iff] at read
  obtain ⟨fields, _, read⟩ := read
  split at read
  · simp only [Option.bind_eq_some_iff] at read
    obtain ⟨_, _, value, _, receiver, came, same⟩ := read
    cases Option.some.inj same
    exact ⟨value, came⟩
  · cases read

def Receiver.threshold? (r : Receiver) : Option Nat := r.reconnect.bind (·.timeoutThreshold)

theorem loadedThreshold {file : Except Host.Fault (List UInt8)} {settings : Settings}
    (loaded : load file = .ok settings) {threshold : Nat}
    (told : settings.receiver.threshold? = some threshold) : threshold < 2 ^ 32 := by
  obtain ⟨_, _, _, _, read, _⟩ := loadOk.mp loaded
  obtain ⟨entries, _, found⟩ := Option.bind_eq_some_iff.mp read
  obtain ⟨_, receiver⟩ := receiverRead found
  obtain ⟨reconnect, renews, told⟩ := Option.bind_eq_some_iff.mp told
  obtain ⟨_, reconnects⟩ := reconnectRead receiver renews
  have bound := thresholdBound reconnects told
  exact Nat.lt_of_le_of_lt bound (by decide)

def highestThreshold : Nat := 2 ^ 32 - 3

structure Runs (r : Receiver) : Prop where
  polls : r.interval ≠ 0
  counts : CountsSafely r.policy
  reads : ∀ length, (Line.cut r.lineLimit []).1 ≠ .tooLong length

theorem pollsIff (r : Receiver) : r.interval ≠ 0 ↔ r.pollInterval ≠ some 0 := by
  unfold Receiver.interval
  cases r.pollInterval <;> simp [Receiver.standardPollInterval]

theorem readsIff (r : Receiver) :
    (∀ length, (Line.cut r.lineLimit []).1 ≠ .tooLong length) ↔ r.maxLineLength ≠ some 0 := by
  unfold Receiver.lineLimit
  cases r.maxLineLength with
  | none => simp [Line.cut, Line.standardLimit]
  | some limit => cases limit <;> simp [Line.cut]

theorem cutNothing (buffer : Line.Octets) : ∃ length, Line.cut 0 buffer = (.tooLong length, buffer) := by
  unfold Line.cut
  split <;> simp

theorem policyThreshold {r : Receiver} (bounded : ∀ threshold ∈ r.threshold?, threshold < 2 ^ 32) :
    r.policy.timeoutThreshold.toNat =
      r.threshold?.getD Policy.standard.timeoutThreshold.toNat := by
  unfold Receiver.policy
  unfold Receiver.threshold? at *
  cases renews : r.reconnect with
  | none => rfl
  | some reconnect =>
    cases told : reconnect.timeoutThreshold with
    | none => simp [told]
    | some threshold =>
      have whole : (UInt32.ofNat threshold).toNat = threshold :=
        Nat.mod_eq_of_lt (bounded threshold (by simp [renews, told]))
      simp [told, whole]

theorem countsIff {r : Receiver} (bounded : ∀ threshold ∈ r.threshold?, threshold < 2 ^ 32) :
    CountsSafely r.policy ↔ ∀ threshold ∈ r.threshold?, threshold ≤ highestThreshold := by
  rw [countsSafelyIff, policyThreshold bounded]
  cases r.threshold? with
  | none => simp [Policy.standard]
  | some threshold =>
    simp only [Option.getD_some, Option.mem_some_iff, forall_eq', highestThreshold]
    omega

theorem loadedRuns {file : Except Host.Fault (List UInt8)} {settings : Settings}
    (loaded : load file = .ok settings) :
    (Runs settings.receiver ↔
      settings.receiver.pollInterval ≠ some 0 ∧ settings.receiver.maxLineLength ≠ some 0 ∧
      ∀ threshold ∈ settings.receiver.threshold?, threshold ≤ highestThreshold) ∧
    (settings.receiver.maxLineLength = some 0 →
      ∀ buffer, ∃ length, Line.cut settings.receiver.lineLimit buffer = (.tooLong length, buffer)) := by
  have polls := pollsIff settings.receiver
  have reads := readsIff settings.receiver
  have counts := countsIff fun _ told => loadedThreshold loaded told
  refine ⟨⟨fun runs => ?_, ?_⟩, fun none => ?_⟩
  · exact ⟨polls.mp runs.polls, reads.mp runs.reads, counts.mp runs.counts⟩
  · rintro ⟨some, long, low⟩
    exact ⟨polls.mpr some, counts.mpr low, reads.mpr long⟩
  · rw [Receiver.lineLimit, none]
    exact cutNothing

def ascii (text : String) : List UInt8 := text.toList.map fun c => UInt8.ofNat c.toNat

def network (pollInterval : Option Nat) : Settings :=
  ⟨none, ⟨none, pollInterval, none, none, none, some ⟨none, none⟩⟩⟩

theorem loadedRunsTuned :
    let text := "[gps]\npoll_interval = 250\nmax_line_length = 120\n" ++
      "[gps.reconnect]\ntimeout_threshold = 4294967293\n[gps.tcp]\n"
    let tuned : Settings :=
      ⟨none, ⟨none, some 250, some 120, some ⟨none, some 4294967293, none, none, none⟩, none,
        some ⟨none, none⟩⟩⟩
    load (.ok (ascii text)) = .ok tuned ∧ Runs tuned.receiver := by
  intro text tuned
  have loaded : load (.ok (ascii text)) = .ok tuned :=
    loadOk.mpr ⟨_, text.toList, rfl, by decide +kernel, by decide +kernel, _, rfl⟩
  have low : ∀ threshold ∈ tuned.receiver.threshold?, threshold ≤ highestThreshold := by
    intro threshold told
    cases told
    exact Nat.le_refl _
  exact ⟨loaded, (loadedRuns loaded).1.mpr ⟨nofun, nofun, low⟩⟩

theorem loadedNeverPolls :
    ¬ ∀ (file : Except Host.Fault (List UInt8)) (settings : Settings),
      load file = .ok settings → Runs settings.receiver := by
  intro claim
  let text := "[gps]\npoll_interval = 0\n[gps.tcp]\n"
  have loaded : load (.ok (ascii text)) = .ok (network (some 0)) :=
    loadOk.mpr ⟨_, text.toList, rfl, by decide +kernel, by decide +kernel, _, rfl⟩
  exact (claim _ _ loaded).polls rfl

end NmeaReceiver.Settings
