import NmeaReceiver.Proofs.Link.Exposed
import NmeaReceiver.Proofs.Link.Watched

/-! How a supervisor of a stream gets over the loss of its connection. On its own it reconnects
neither after an error nor after a connect that failed: it is the stream that refuses the next read,
and a refused read reconnects. So every loss costs one read in vain at most, whatever the
supervisor was asked to do before. -/
namespace NmeaReceiver.Supervisor
open NmeaReceiver.Link
open NmeaReceiver.Link.Exposed (Sound Rested)
open NmeaReceiver.Link.Deed (barren)

section Refusals

variable {σ : Type} [Link σ]

structure Recovers (s : Supervisor σ) : Prop where
  retries : s.readLine.1 = .retry
  timeouts : s.readLine.2.timeouts = 0
  reconnects : s.readLine.2.reconnects = s.reconnects + 1
  calls : s.readLine.2.calls =
    ⟨s.afterRead.now + waited s.policy.refusedCooldown, .connect, .reconnecting⟩ ::
      ⟨s.afterRead.now, .disconnect, s.state⟩ ::
        ⟨s.now, .read s.policy.readTimeout, s.state⟩ :: s.calls
  now : s.readLine.2.now =
    s.afterRead.now + waited s.policy.refusedCooldown + waited s.afterRead.redial.delay

theorem refusedRecovers {s : Supervisor σ} (came : s.outcome = .refused) : Recovers s := by
  have renewed := reconnectRenews s.afterRead s.policy.refusedCooldown
  constructor <;> rw [readLineRefused came]
  case timeouts => exact renewed.timeouts
  case reconnects => exact renewed.reconnects
  case calls => exact reconnectCalls s.afterRead s.policy.refusedCooldown
  case now => exact renewed.now

end Refusals

variable {s : Supervisor Exposed}

theorem deadRecovers (unbroken : s.link.reception.Unbroken) (dead : ¬ s.link.reception.Live) :
    Recovers s := refusedRecovers (Exposed.deadRefused s.policy.readTimeout unbroken dead)

theorem reconnectSound (sound : Sound s.link) (cooldown : Nat) :
    Sound (s.reconnect cooldown).link ∧ Rested (s.reconnect cooldown).link := by
  rw [(reconnectRenews s cooldown).link]
  exact Exposed.connectSound (Exposed.disconnectSound sound)

theorem readLineSound (sound : Sound s.link) (rested : Rested s.link) :
    Sound s.readLine.2.link ∧ Rested s.readLine.2.link := by
  have soundAfter : Sound s.afterRead.link := Exposed.readSound s.policy.readTimeout sound rested
  have restedAfter (other : s.outcome ≠ .refused) : Rested s.afterRead.link :=
    Exposed.readRested s.policy.readTimeout sound other
  cases came : s.outcome with
  | line text =>
    rw [readLineLine came]
    exact ⟨soundAfter, restedAfter (by simp [came])⟩
  | overflow length =>
    rw [readLineOverflow came]
    exact ⟨Exposed.disconnectSound soundAfter,
      Exposed.disconnectRested (restedAfter (by simp [came]))⟩
  | refused =>
    rw [readLineRefused came]
    exact reconnectSound soundAfter s.policy.refusedCooldown
  | failed fault =>
    rw [readLineFailed came]
    exact ⟨soundAfter, restedAfter (by simp [came])⟩
  | timeout =>
    by_cases many : s.policy.timeoutThreshold < s.timeouts
    · rw [readLineExhausted came many]
      exact @reconnectSound s.counted soundAfter s.policy.timeoutCooldown
    · rw [readLineTimeout came many]
      exact ⟨soundAfter, restedAfter (by simp [came])⟩

theorem handshakeSound (lines : Nat) (sound : Sound s.link) (rested : Rested s.link)
    (stands : barren s.link.journal = none) :
    Sound (s.handshake lines).2.link ∧ Rested (s.handshake lines).2.link := by
  -- Only a line is followed by another read, and after a line the connection still stands.
  induction lines generalizing s with
  | zero => exact ⟨sound, rested⟩
  | succ lines ih =>
    have soundAfter : Sound s.afterRead.link := Exposed.readSound s.policy.readTimeout sound rested
    obtain ⟨restedAfter, standsAfter⟩ := Exposed.readStanding s.policy.readTimeout stands
    change Rested s.afterRead.link at restedAfter
    change s.outcome.goesOn = true → barren s.afterRead.link.journal = none at standsAfter
    by_cases told : ∃ text, s.outcome = .line text
    · obtain ⟨text, came⟩ := told
      cases nmea : Sentence.isNmea text with
      | true =>
        rw [handshakeGreeted came nmea]
        exact ⟨soundAfter, restedAfter⟩
      | false =>
        rw [handshakeSkips came nmea]
        exact ih soundAfter restedAfter (standsAfter (by rw [came]; rfl))
    · rw [handshakeFails fun text came => told ⟨text, came⟩]
      exact ⟨soundAfter, restedAfter⟩

theorem attemptSound (sound : Sound s.link) :
    Sound s.attempt.2.link ∧ Rested s.attempt.2.link := by
  obtain ⟨soundAfter, restedAfter⟩ := Exposed.connectSound sound
  cases answer : (Link.connect s.link).value with
  | error fault =>
    rw [attemptUnconnected answer]
    exact ⟨soundAfter, restedAfter⟩
  | ok value =>
    have stands : barren s.dialled.link.journal = none := by
      have counted := Exposed.connectBarren s.link
      rw [answer] at counted
      exact counted
    have greets := @handshakeSound s.dialled handshakeLines soundAfter restedAfter stands
    cases greeted : s.dialled.handshake handshakeLines with
    | mk result t =>
      rw [greeted] at greets
      cases result with
      | ok value =>
        rw [attemptOpened answer greeted]
        exact greets
      | error failure =>
        rw [attemptDropped answer greeted]
        exact ⟨Exposed.disconnectSound greets.1, Exposed.disconnectRested greets.2⟩

theorem openWithinSound (again : Nat → Bool) (bound failures : Nat) (sound : Sound s.link) :
    Sound (s.openWithin again bound failures).2.link ∧
      Rested (s.openWithin again bound failures).2.link := by
  induction bound generalizing s failures with
  | zero => exact attemptSound sound
  | succ bound ih =>
    have tried := attemptSound sound
    unfold openWithin
    cases attempted : s.attempt with
    | mk result t =>
      rw [attempted] at tried
      cases result with
      | ok value => exact tried
      | error failure =>
        dsimp only
        split
        · exact ih (failures + 1) tried.1
        · exact tried

theorem performSound (sound : Sound s.link) (rested : Rested s.link) (operation : Operation) :
    Sound (s.perform operation).link ∧ Rested (s.perform operation).link := by
  cases operation with
  | tryOpen again bound => exact openWithinSound again bound 0 sound
  | readLine => exact readLineSound sound rested
  | reconnect cooldown => exact reconnectSound sound cooldown
  | disconnect => exact ⟨Exposed.disconnectSound sound, Exposed.disconnectRested rested⟩

theorem performAllSound (sound : Sound s.link) (rested : Rested s.link)
    (operations : List Operation) :
    Sound (s.performAll operations).link ∧ Rested (s.performAll operations).link := by
  induction operations generalizing s with
  | nil => exact ⟨sound, rested⟩
  | cons operation operations ih =>
    obtain ⟨soundAfter, restedAfter⟩ := performSound sound rested operation
    exact ih soundAfter restedAfter

theorem ebbingRecovers {segments : Nat} (ebbing : s.link.reception.Ebbing segments)
    (silent : ∀ moment ∈ s.link.moments, moment.Silent) :
    ∃ n ≤ segments + 1,
      (∃ length, (s.readTimes n).readLine.1 = .overflow length) ∨ Recovers (s.readTimes n) := by
  -- A line leaves fewer segments; an error leaves none to read, and the read after it is refused.
  induction segments using Nat.strongRecOn generalizing s with
  | ind segments ih =>
    have ebbs := Exposed.readEbbs s.policy.readTimeout ebbing silent
    change Reception.Ebbs segments s.outcome s.afterRead.link.reception at ebbs
    have hush : ∀ moment ∈ s.afterRead.link.moments, moment.Silent :=
      fun moment member => silent moment (List.mem_of_mem_tail member)
    generalize came : s.outcome = outcome at ebbs
    generalize left : s.afterRead.link.reception = after at ebbs
    cases ebbs with
    | overflow length =>
      refine ⟨0, Nat.zero_le _, .inl ⟨length, ?_⟩⟩
      rw [readTimes, readLineOverflow came]
    | refused => exact ⟨0, Nat.zero_le _, .inr (refusedRecovers came)⟩
    | failed fault unbroken dead =>
      have next : s.readTimes 1 = s.afterRead := congrArg Prod.snd (readLineFailed came)
      subst left
      refine ⟨1, Nat.le_add_left _ _, .inr ?_⟩
      rw [next]
      exact deadRecovers unbroken dead
    | @line text fewer _ less later =>
      have next : s.readLine.2.link = s.afterRead.link := by rw [readLineLine came]
      obtain ⟨n, within, met⟩ := @ih fewer less s.readLine.2 (next ▸ left ▸ later) (next ▸ hush)
      exact ⟨n + 1, by omega, met⟩

/-- What holds of a supervised stream at any time: without a reader, or with one that has failed,
the next read reconnects; no second read is made in vain; and a wire that has ended is left. -/
structure Recovering (s : Supervisor Exposed) : Prop where
  spent : s.link.reception.Spent → Recovers s
  lost : ∀ earlier deed since, s.link.journal = earlier ++ deed :: since →
    deed.breaks = true → Deed.Idle since → Recovers s
  unopened : Deed.Idle s.link.journal → Recovers s
  sparing : ∀ earlier deed between later, s.link.journal = earlier ++ deed :: (between ++ later) →
    deed.breaks = true → Deed.Idle between → between.countP Deed.isRead ≤ 1
  unopenedSparing : ∀ between later, s.link.journal = between ++ later → Deed.Idle between →
    between.countP Deed.isRead ≤ 1
  leaves : s.link.reception.stream.wire.ending ≠ none → (∀ moment ∈ s.link.moments, moment.Silent) →
    ∃ n ≤ s.link.reception.left + 1,
      (∃ length, (s.readTimes n).readLine.1 = .overflow length) ∨ Recovers (s.readTimes n)

theorem soundRecovering (sound : Sound s.link) : Recovering s where
  spent spent := deadRecovers sound.unbroken (Reception.spentDead spent)
  lost earlier deed since parts breaks idle := by
    obtain ⟨n, counted⟩ := Deed.brokenBarren earlier breaks idle
    rw [← parts] at counted
    exact deadRecovers sound.unbroken (sound.down _ counted)
  unopened idle := deadRecovers sound.unbroken (sound.down _ (Deed.idleBarren idle))
  sparing earlier deed between later parts breaks idle := by
    obtain ⟨n, counted⟩ := Deed.brokenBarren earlier breaks idle
    rw [← List.cons_append, ← List.append_assoc] at parts
    exact Nat.le_trans (Nat.le_add_left _ n) (sound.sparing _ later parts _ counted)
  unopenedSparing between later parts idle :=
    sound.sparing between later parts _ (Deed.idleBarren idle)
  leaves closing silent := ebbingRecovers ⟨sound.unbroken, closing, Nat.le_refl _⟩ silent

theorem streamsRecover (limit : Nat) (meeting : Meeting) (moments : List Moment) (policy : Policy)
    (operations : List Operation) :
    Recovering ((Supervisor.new (Exposed.fresh limit meeting moments) policy).performAll operations) := by
  obtain ⟨sound, rested⟩ := Exposed.freshSound limit meeting moments
  exact soundRecovering (performAllSound sound rested operations).1

-- A far end that closes within its second line.
example : ((Supervisor.new (Exposed.fresh 82 (.greeted [65, 10, 66])
      [.quiet, .quiet, .quiet, ⟨[.ending .closed], [], 0⟩]) .standard).performAll
      (List.replicate 4 .readLine)).link.journal =
    [Deed.read .refused, .disconnect, .connect (.ok ()), .read (.line ['A']),
      .read (.failed (.other Line.unfinishedMessage)), .read .refused, .disconnect,
      .connect (.ok ())] := by
  cbv

end NmeaReceiver.Supervisor
