import NmeaReceiver.Proofs.Link.WholeLines

/-! A stream as the link of a supervisor while the far end goes its own way: each call has its moment,
which says what arrives before it and, if it is a read, while it waits. The link keeps a journal of
its calls and what came of them. Read off the journal is how many reads there have been since the
connection was lost; a stream that has lost it refuses to read. -/
namespace NmeaReceiver.Link
open NmeaReceiver.Line

structure Moment where
  before : List Arrival
  during : List Arrival
  delay : Nat

def Moment.quiet : Moment := ⟨[], [], 0⟩

def Moment.Silent (moment : Moment) : Prop :=
  ∀ arrival ∈ moment.before ++ moment.during, arrival.sent = []

def Outcome.goesOn : Outcome → Bool
  | .line _ | .timeout => true
  | _ => false

inductive Deed where
  | connect (result : Except Fault Unit)
  | disconnect
  | read (outcome : Outcome)

namespace Deed

def isConnect : Deed → Bool
  | .connect _ => true
  | _ => false

def isRead : Deed → Bool
  | .read _ => true
  | _ => false

def breaks : Deed → Bool
  | .connect result => !result.toBool
  | .disconnect => true
  | .read outcome => !outcome.goesOn

/-- Counts the reads since the connection was lost; while one stands there is no count. -/
def count : Option Nat → Deed → Option Nat
  | _, .connect result => if result.toBool then none else some 0
  | none, .disconnect => some 0
  | none, .read outcome => if outcome.goesOn then none else some 0
  | some n, .disconnect => some n
  | some n, .read _ => some (n + 1)

def barren (deeds : List Deed) : Option Nat := deeds.foldl count (some 0)

def Idle (deeds : List Deed) : Prop := ∀ deed ∈ deeds, deed.isConnect = false

def Sparing (deeds : List Deed) : Prop :=
  ∀ earlier later, deeds = earlier ++ later → ∀ n ∈ barren earlier, n ≤ 1

variable {deeds : List Deed} {deed : Deed}

theorem barrenSnoc (deeds : List Deed) (deed : Deed) :
    barren (deeds ++ [deed]) = count (barren deeds) deed := by
  rw [barren, List.foldl_append]
  rfl

theorem countConnect {before : Option Nat} {result : Except Fault Unit} {n : Nat}
    (lost : n ∈ count before (.connect result)) : n = 0 ∧ result.toBool = false := by
  rw [count] at lost
  split at lost
  · cases lost
  · rename_i failed
    cases lost
    exact ⟨rfl, Bool.eq_false_iff.mpr failed⟩

theorem countStanding {outcome : Outcome} {n : Nat} (lost : n ∈ count none (.read outcome)) :
    n = 0 ∧ outcome.goesOn = false := by
  rw [count] at lost
  split at lost
  · cases lost
  · rename_i stops
    cases lost
    exact ⟨rfl, Bool.eq_false_iff.mpr stops⟩

theorem countBreaks (before : Option Nat) (breaks : deed.breaks = true) :
    ∃ n, count before deed = some n := by
  cases deed with
  | connect result => exact ⟨0, by simpa [Deed.breaks, count] using breaks⟩
  | disconnect => cases before <;> exact ⟨_, rfl⟩
  | read outcome =>
    cases before with
    | none => exact ⟨0, by simpa [Deed.breaks, count] using breaks⟩
    | some n => exact ⟨_, rfl⟩

theorem idleCount (idle : Idle deeds) (n : Nat) :
    deeds.foldl count (some n) = some (n + deeds.countP isRead) := by
  induction deeds generalizing n with
  | nil => rfl
  | cons deed deeds ih =>
    have later := ih fun other member => idle other (List.mem_cons_of_mem _ member)
    cases deed with
    | connect result => cases idle _ List.mem_cons_self
    | disconnect => exact later n
    | read outcome =>
      rw [List.foldl_cons, count, later, List.countP_cons_of_pos rfl]
      congr 1
      omega

theorem idleBarren (idle : Idle deeds) : barren deeds = some (deeds.countP isRead) := by
  rw [barren, idleCount idle, Nat.zero_add]

theorem brokenBarren (earlier : List Deed) (breaks : deed.breaks = true) (idle : Idle deeds) :
    ∃ n, barren (earlier ++ deed :: deeds) = some (n + deeds.countP isRead) := by
  obtain ⟨n, counted⟩ := countBreaks (barren earlier) breaks
  refine ⟨n, ?_⟩
  rw [barren, List.foldl_append, List.foldl_cons]
  change List.foldl count (count (barren earlier) deed) deeds = _
  rw [counted, idleCount idle]

theorem sparingSnoc (sparing : Sparing deeds) (last : ∀ n ∈ barren (deeds ++ [deed]), n ≤ 1) :
    Sparing (deeds ++ [deed]) := by
  intro earlier later parts
  rcases List.eq_nil_or_concat later with rfl | ⟨middle, end_, rfl⟩
  · rw [List.append_nil] at parts
    exact parts ▸ last
  · rw [List.concat_eq_append, ← List.append_assoc] at parts
    exact sparing earlier middle (List.append_inj_left' parts rfl)

end Deed

namespace Reception

variable {limit : Nat} {cuts : List Octets} {buffer : Octets} {r : Reception}

section Losses

def Spent (r : Reception) : Prop :=
  r.stream.reader = none ∨ ∃ reader, r.stream.reader = some reader ∧ reader.stage = .failed

theorem spentDead (spent : r.Spent) : ¬ r.Live := by
  rintro ⟨reader, connected, running⟩
  rcases spent with absent | ⟨other, same, failed⟩
  · rw [connected] at absent
    cases absent
  · rw [connected] at same
    cases same
    rw [running] at failed
    cases failed

theorem arrivalsReader (r : Reception) (arrivals : List Arrival) :
    (arrivals.foldl arrive r).stream.reader = r.stream.reader := by
  induction arrivals generalizing r with
  | nil => rfl
  | cons arrival arrivals ih => exact (ih (r.arrive arrival)).trans (arriveReader r arrival)

theorem arrivalsDead (dead : ¬ r.Live) (arrivals : List Arrival) :
    ¬ (arrivals.foldl arrive r).Live := by
  unfold Live
  rw [arrivalsReader]
  exact dead

theorem disconnectDead (r : Reception) : ¬ r.disconnect.Live := by
  rintro ⟨reader, ⟨⟩, running⟩

theorem connectDead (failed : r.stream.connect.1.toBool = false) : ¬ r.connect.Live := by
  unfold Live connect
  unfold Stream.connect at failed ⊢
  cases meeting : r.stream.meeting with
  | refused fault => rintro ⟨reader, ⟨⟩, running⟩
  | greeted octets => rw [meeting] at failed; cases failed
  | standing => rw [meeting] at failed; cases failed

theorem pollStops (live : r.Live) (stops : r.poll.1.goesOn = false) : ¬ r.poll.2.Live := by
  obtain ⟨reader, connected, running⟩ := live
  obtain ⟨parts, split, -, limitKept, speaks⟩ := pollPolled running r.stream.wire
  unfold Live
  simp only [poll, Stream.read, connected] at stops ⊢
  generalize reader.poll r.stream.wire = answer at speaks stops ⊢
  obtain ⟨said, ⟨limitAfter, kept, stage⟩, ⟨unread, ending⟩⟩ := answer
  dsimp only at speaks stops ⊢
  generalize reader.buffer ++ parts = held at speaks
  cases speaks with
  | line clean short => cases stops
  | nothing clean short goesOn => cases stops
  | tooLong length clean long seen => rintro ⟨_, ⟨⟩, ⟨⟩⟩
  | unfinished clean short filled closed => rintro ⟨_, ⟨⟩, ⟨⟩⟩
  | ended positive closed => rintro ⟨_, ⟨⟩, _⟩
  | reset clean short broken => rintro ⟨_, ⟨⟩, ⟨⟩⟩

theorem readStops (intact : Intact limit cuts buffer r) (during : List Arrival)
    (stops : (r.read during).1.goesOn = false) : ¬ (r.read during).2.Live := by
  by_cases live : r.Live
  · obtain ⟨_, later, middle, _, _, _, lives, _, answers, _⟩ := readPolls intact live during
    rw [answers] at stops ⊢
    exact arrivalsDead (pollStops lives stops) later
  · rw [deadRead intact live]
    exact arrivalsDead (disconnectDead r) during

end Losses

section Ebb

def left (r : Reception) : Nat := ((ended r.offered).drop r.lines.length).length

def Unbroken (r : Reception) : Prop := ∃ limit cuts buffer, Intact limit cuts buffer r

structure Ebbing (segments : Nat) (r : Reception) : Prop where
  unbroken : r.Unbroken
  closing : r.stream.wire.ending ≠ none
  left : r.left ≤ segments

inductive Ebbs (segments : Nat) : Outcome → Reception → Prop where
  | line (text : List Char) {fewer : Nat} {after : Reception} (less : fewer < segments)
      (ebbing : Ebbing fewer after) : Ebbs segments (.line text) after
  | overflow (length : Nat) (after : Reception) : Ebbs segments (.overflow length) after
  | refused (after : Reception) : Ebbs segments .refused after
  | failed (fault : Fault) {after : Reception} (unbroken : after.Unbroken) (dead : ¬ after.Live) :
      Ebbs segments (.failed fault) after

variable {segments : Nat} {outcome : Outcome} {arrivals : List Arrival}

theorem unbrokenArrivals (unbroken : r.Unbroken) (arrivals : List Arrival) :
    (arrivals.foldl arrive r).Unbroken := by
  obtain ⟨limit, cuts, buffer, intact⟩ := unbroken
  exact ⟨limit, cuts, buffer, arrivalsIntact intact arrivals⟩

theorem arriveEbbing (ebbing : Ebbing segments r) {arrival : Arrival}
    (silent : arrival.sent = []) : Ebbing segments (r.arrive arrival) := by
  obtain ⟨unbroken, closing, bound⟩ := ebbing
  refine ⟨unbrokenArrivals unbroken [arrival], ?_, Nat.le_trans ?_ bound⟩
  · cases arrival with
    | ending how => exact Option.some_ne_none how
    | unplugged => exact Option.some_ne_none Ending.closed
    | octets sent => exact closing
    | meeting next => exact closing
  · unfold left
    cases arrival with
    | octets sent =>
      have nothing : sent = [] := silent
      subst nothing
      simp only [arrive, List.append_nil]
      exact Nat.le_refl _
    | unplugged =>
      obtain ⟨limit, cuts, buffer, intact⟩ := unbroken
      simp only [arrive, List.length_drop, intact.offered]
      exact Nat.sub_le_sub_right (endedGrows _ _) _
    | ending how => exact Nat.le_refl _
    | meeting next => exact Nat.le_refl _

theorem arrivalsEbbing (ebbing : Ebbing segments r)
    (silent : ∀ arrival ∈ arrivals, arrival.sent = []) :
    Ebbing segments (arrivals.foldl arrive r) := by
  induction arrivals generalizing r with
  | nil => exact ebbing
  | cons arrival arrivals ih =>
    exact ih (arriveEbbing ebbing (silent arrival List.mem_cons_self))
      fun other member => silent other (List.mem_cons_of_mem _ member)

theorem arrivalsEbbs (ebbs : Ebbs segments outcome r)
    (silent : ∀ arrival ∈ arrivals, arrival.sent = []) :
    Ebbs segments outcome (arrivals.foldl arrive r) := by
  cases ebbs with
  | line text less ebbing => exact .line text less (arrivalsEbbing ebbing silent)
  | overflow length => exact .overflow length _
  | refused => exact .refused _
  | failed fault unbroken dead =>
    exact .failed fault (unbrokenArrivals unbroken arrivals) (arrivalsDead dead arrivals)

theorem lineLeft {text : List Char} (told : r.poll.1 = .line text) (some : 0 < r.left) :
    r.poll.2.left < r.left := by
  have given : r.poll.2.lines = r.lines ++ r.poll.1.lines := rfl
  rw [told] at given
  unfold left at some ⊢
  rw [given, pollOffered]
  simp only [Outcome.lines, List.length_append, List.length_drop, List.length_singleton] at some ⊢
  omega

theorem pollEbbs (ebbing : Ebbing segments r) (live : r.Live) :
    Ebbs segments r.poll.1 r.poll.2 := by
  obtain ⟨⟨limit, cuts, buffer, intact⟩, closing, bound⟩ := ebbing
  have answers := pollAnswers intact live
  have fails (stops : r.poll.1.goesOn = false) : r.poll.2.Unbroken ∧ ¬ r.poll.2.Live := by
    obtain ⟨_, _, next⟩ := pollIntact intact
    exact ⟨⟨limit, _, _, next⟩, pollStops live stops⟩
  have count : ((ended r.offered).drop r.lines.length).length = r.left := rfl
  generalize told : r.poll.1 = outcome at answers fails
  generalize (ended r.offered).drop r.lines.length = ahead at answers count
  generalize unended r.offered = rest at answers
  cases answers with
  | line short =>
    obtain ⟨_, _, _, next, _⟩ := pollLine intact live told
    have less := lineLeft told (count ▸ Nat.succ_pos _)
    exact .line _ (Nat.lt_of_lt_of_le less bound)
      ⟨⟨limit, _, _, next⟩, pollEnding r ▸ closing, Nat.le_refl _⟩
  | tooLong length long => exact .overflow length _
  | restTooLong length long seen => exact .overflow length _
  | timeout short goesOn => exact absurd goesOn closing
  | unfinished short filled closed => exact .failed _ (fails rfl).1 (fails rfl).2
  | ended positive closed => exact .refused _
  | reset short broken => exact .failed _ (fails rfl).1 (fails rfl).2

theorem readAtOnce (answers : r.poll.1 ≠ .timeout) (during : List Arrival) :
    r.read during = (r.poll.1, during.foldl arrive r.poll.2) := by
  cases during with
  | nil => rfl
  | cons arrival later =>
    rw [read]
    generalize r.poll = polled at answers
    obtain ⟨outcome, after⟩ := polled
    cases outcome with
    | timeout => exact absurd rfl answers
    | _ => rfl

theorem readEbbs (ebbing : Ebbing segments r) {during : List Arrival}
    (silent : ∀ arrival ∈ during, arrival.sent = []) :
    Ebbs segments (r.read during).1 (r.read during).2 := by
  by_cases live : r.Live
  · have ebbs := pollEbbs ebbing live
    have answers : r.poll.1 ≠ .timeout := by
      intro waits
      rw [waits] at ebbs
      cases ebbs
    rw [readAtOnce answers]
    exact arrivalsEbbs ebbs silent
  · obtain ⟨_, _, _, intact⟩ := ebbing.unbroken
    rw [deadRead intact live]
    exact .refused _

end Ebb

end Reception

structure Exposed where
  reception : Reception
  moments : List Moment
  journal : List Deed

namespace Exposed
open Deed (barren Sparing)

def fresh (limit : Nat) (meeting : Meeting) (moments : List Moment) : Exposed :=
  ⟨.fresh limit meeting, moments, []⟩

def moment (e : Exposed) : Moment := e.moments.headD .quiet

def met (e : Exposed) : Reception := e.moment.before.foldl Reception.arrive e.reception

def next (e : Exposed) (reception : Reception) (deed : Deed) : Exposed :=
  ⟨reception, e.moments.tail, e.journal ++ [deed]⟩

instance : Link Exposed where
  connect e :=
    let result := e.met.stream.connect.1
    ⟨result, e.moment.delay, e.next e.met.connect (.connect result)⟩
  disconnect e := { e with reception := e.reception.disconnect, journal := e.journal ++ [.disconnect] }
  read timeout e :=
    let (outcome, reception) := e.met.read e.moment.during
    ⟨outcome, if outcome = .timeout then timeout else e.moment.delay,
      e.next reception (.read outcome)⟩

structure Sound (e : Exposed) : Prop where
  unbroken : e.reception.Unbroken
  down : ∀ n ∈ barren e.journal, ¬ e.reception.Live
  sparing : Sparing e.journal

def Rested (e : Exposed) : Prop := ∀ n ∈ barren e.journal, n = 0

variable {e : Exposed} {n : Nat} (timeout : Nat)

theorem quietStream (quiet : e.moments = []) :
    Link.connect e.reception.stream =
      ⟨(Link.connect e).value, (Link.connect e).delay, (Link.connect e).link.reception.stream⟩ ∧
    Link.disconnect e.reception.stream = (Link.disconnect e).reception.stream ∧
    ∀ timeout, Link.read timeout e.reception.stream = ⟨(Link.read timeout e).value,
      (Link.read timeout e).delay, (Link.read timeout e).link.reception.stream⟩ := by
  have same : e.moment = .quiet := by rw [moment, quiet]; rfl
  have met : e.met = e.reception := by rw [Exposed.met, same]; rfl
  refine ⟨?_, rfl, fun timeout => ?_⟩
  · simp only [Link.connect, met, same]
    rfl
  · simp only [Link.read, met, same]
    rfl

theorem metUnbroken (unbroken : e.reception.Unbroken) : e.met.Unbroken :=
  Reception.unbrokenArrivals unbroken e.moment.before

theorem freshSound (limit : Nat) (meeting : Meeting) (moments : List Moment) :
    Sound (fresh limit meeting moments) ∧ Rested (fresh limit meeting moments) := by
  refine ⟨⟨⟨limit, [], [], Reception.freshIntact limit meeting⟩, ?_, ?_⟩, ?_⟩
  · rintro n - ⟨reader, ⟨⟩, running⟩
  · intro earlier later parts
    obtain ⟨rfl, rfl⟩ := List.append_eq_nil_iff.mp parts.symm
    rintro n ⟨⟩
    exact Nat.zero_le 1
  · rintro n ⟨⟩
    rfl

theorem connectBarren (e : Exposed) :
    barren (Link.connect e).link.journal =
      Deed.count (barren e.journal) (.connect (Link.connect e).value) :=
  Deed.barrenSnoc e.journal _

theorem connectLost (lost : n ∈ barren (Link.connect e).link.journal) :
    n = 0 ∧ (Link.connect e).value.toBool = false := by
  rw [connectBarren] at lost
  exact Deed.countConnect lost

theorem connectSound (sound : Sound e) :
    Sound (Link.connect e).link ∧ Rested (Link.connect e).link := by
  obtain ⟨limit, cuts, buffer, intact⟩ := metUnbroken sound.unbroken
  refine ⟨⟨⟨limit, [], [], Reception.connectIntact intact⟩, ?_, ?_⟩, ?_⟩
  · exact fun n lost => Reception.connectDead (connectLost lost).2
  · refine Deed.sparingSnoc sound.sparing fun n lost => ?_
    rw [(connectLost lost).1]
    exact Nat.zero_le 1
  · exact fun n lost => (connectLost lost).1

theorem disconnectBarren (e : Exposed) :
    barren (Link.disconnect e).journal = some ((barren e.journal).getD 0) := by
  refine (Deed.barrenSnoc e.journal .disconnect).trans ?_
  cases barren e.journal <;> rfl

theorem disconnectLost (lost : n ∈ barren (Link.disconnect e).journal) :
    n = 0 ∨ n ∈ barren e.journal := by
  rw [disconnectBarren] at lost
  cases lost
  cases barren e.journal with
  | none => exact .inl rfl
  | some n => exact .inr rfl

theorem disconnectSound (sound : Sound e) : Sound (Link.disconnect e) := by
  obtain ⟨limit, cuts, buffer, intact⟩ := sound.unbroken
  refine ⟨⟨limit, cuts, buffer, Reception.disconnectIntact intact⟩, ?_, ?_⟩
  · exact fun _ _ => Reception.disconnectDead e.reception
  · refine Deed.sparingSnoc sound.sparing fun n lost => ?_
    rcases disconnectLost lost with rfl | before
    · exact Nat.zero_le 1
    · exact sound.sparing e.journal [] (List.append_nil _).symm n before

theorem disconnectRested (rested : Rested e) : Rested (Link.disconnect e) := by
  intro n lost
  rcases disconnectLost lost with none | before
  · exact none
  · exact rested n before

theorem readBarren (e : Exposed) :
    barren (Link.read timeout e).link.journal =
      Deed.count (barren e.journal) (.read (Link.read timeout e).value) :=
  Deed.barrenSnoc e.journal _

theorem deadRefused (unbroken : e.reception.Unbroken) (dead : ¬ e.reception.Live) :
    (Link.read timeout e).value = .refused := by
  obtain ⟨limit, cuts, buffer, intact⟩ := metUnbroken unbroken
  have still := Reception.arrivalsDead dead e.moment.before
  exact congrArg Prod.fst (Reception.deadRead intact still e.moment.during)

theorem readStanding (stands : barren e.journal = none) :
    Rested (Link.read timeout e).link ∧ ((Link.read timeout e).value.goesOn = true →
      barren (Link.read timeout e).link.journal = none) := by
  unfold Rested
  rw [readBarren, stands]
  exact ⟨fun n lost => (Deed.countStanding lost).1, fun goesOn => if_pos goesOn⟩

theorem readRested (sound : Sound e) (other : (Link.read timeout e).value ≠ .refused) :
    Rested (Link.read timeout e).link := by
  cases before : barren e.journal with
  | none => exact (readStanding timeout before).1
  | some m => exact absurd (deadRefused timeout sound.unbroken (sound.down m before)) other

theorem readLost (sound : Sound e) (rested : Rested e)
    (lost : n ∈ barren (Link.read timeout e).link.journal) :
    n ≤ 1 ∧ (Link.read timeout e).value.goesOn = false := by
  rw [readBarren] at lost
  cases before : barren e.journal with
  | none =>
    rw [before] at lost
    obtain ⟨none, stops⟩ := Deed.countStanding lost
    exact ⟨none ▸ Nat.zero_le 1, stops⟩
  | some m =>
    -- Without a connection this is the one read in vain, and it is refused.
    rw [before, rested m before] at lost
    cases lost
    refine ⟨Nat.le_refl 1, ?_⟩
    rw [deadRefused timeout sound.unbroken (sound.down m before)]
    rfl

theorem readSound (sound : Sound e) (rested : Rested e) : Sound (Link.read timeout e).link := by
  obtain ⟨limit, cuts, buffer, intact⟩ := metUnbroken sound.unbroken
  obtain ⟨cutsAfter, kept, next⟩ := Reception.stepIntact intact (.read e.moment.during)
  refine ⟨⟨limit, cutsAfter, kept, next⟩, ?_, ?_⟩
  · intro n lost
    exact Reception.readStops intact e.moment.during (readLost timeout sound rested lost).2
  · exact Deed.sparingSnoc sound.sparing fun n lost => (readLost timeout sound rested lost).1

theorem readEbbs {segments : Nat} (ebbing : e.reception.Ebbing segments)
    (silent : ∀ moment ∈ e.moments, moment.Silent) :
    Reception.Ebbs segments (Link.read timeout e).value (Link.read timeout e).link.reception := by
  have hush : e.moment.Silent := by
    unfold moment
    cases moments : e.moments with
    | nil => exact nofun
    | cons first later => exact silent first (moments ▸ List.mem_cons_self)
  have before := Reception.arrivalsEbbing ebbing
    fun arrival member => hush arrival (List.mem_append_left _ member)
  exact Reception.readEbbs before fun arrival member => hush arrival (List.mem_append_right _ member)

end Exposed
end NmeaReceiver.Link
