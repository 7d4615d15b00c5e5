import NmeaReceiver.Link.Stream
import NmeaReceiver.Proofs.Link.Calls
import NmeaReceiver.Proofs.Link.Watched

/-! How a link is opened: what one attempt asks of it and leaves, and which attempt an opening ends
with. An opening may go on for ever, so what it returns is what it comes to whenever enough attempts
are allowed. -/
namespace NmeaReceiver
open NmeaReceiver.Link

namespace Link

/-- A handshake skips lines of other kinds up to a sentence, to a read that brings no line, or to
the last of the lines it may take. -/
inductive Greets (lines : Nat) : List Outcome → Except OpenFailure Unit → Prop
  | sentence {skipped : List (List Char)} {text : List Char} (few : skipped.length < lines)
      (others : ∀ line ∈ skipped, Sentence.isNmea line = false) (nmea : Sentence.isNmea text = true) :
      Greets lines (skipped.map .line ++ [.line text]) (.ok ())
  | broken {skipped : List (List Char)} {outcome : Outcome} (few : skipped.length < lines)
      (others : ∀ line ∈ skipped, Sentence.isNmea line = false)
      (none : ∀ text, outcome ≠ .line text) :
      Greets lines (skipped.map .line ++ [outcome]) (.error (.read outcome))
  | foreign {skipped : List (List Char)} (all : skipped.length = lines)
      (others : ∀ line ∈ skipped, Sentence.isNmea line = false) :
      Greets lines (skipped.map .line) (.error .notNmea)

theorem greetsSkips {lines : Nat} {heard : List Outcome} {result : Except OpenFailure Unit}
    {text : List Char} (other : Sentence.isNmea text = false) (greets : Greets lines heard result) :
    Greets (lines + 1) (.line text :: heard) result := by
  cases greets with
  | @sentence skipped last few others nmea =>
    have longer : (text :: skipped).length < lines + 1 := Nat.succ_lt_succ few
    exact .sentence longer (by simpa [other] using others) nmea
  | @broken skipped outcome few others none =>
    have longer : (text :: skipped).length < lines + 1 := Nat.succ_lt_succ few
    exact .broken longer (by simpa [other] using others) none
  | @foreign skipped all others =>
    have longer : (text :: skipped).length = lines + 1 := congrArg (· + 1) all
    exact .foreign longer (by simpa [other] using others)

theorem greetsReads {lines : Nat} {heard : List Outcome} {result : Except OpenFailure Unit}
    (greets : Greets (lines + 1) heard result) : 1 ≤ heard.length ∧ heard.length ≤ lines + 1 := by
  cases greets with
  | sentence few others nmea => simp; omega
  | broken few others none => simp; omega
  | foreign all others => simp; omega

theorem greetsConnected {lines : Nat} {heard : List Outcome} {fault : Fault} :
    ¬ Greets lines heard (.error (.connect fault)) := nofun

variable {σ : Type} [Link σ]

def act (link : σ) : Action → σ
  | .connect => (Link.connect link).link
  | .disconnect => Link.disconnect link
  | .read timeout => (Link.read timeout link).link

def Hears (timeout : Nat) : σ → List Outcome → Prop
  | _, [] => True
  | link, outcome :: later =>
    (Link.read timeout link).value = outcome ∧ Hears timeout (Link.read timeout link).link later

structure Stands (up : σ → Bool) : Prop where
  connect : ∀ link, up (Link.connect link).link = (Link.connect link).value.toBool
  disconnect : ∀ link, up (Link.disconnect link) = false
  read : ∀ timeout link text, (Link.read timeout link).value = .line text →
    up (Link.read timeout link).link = up link

theorem watchedStands : Stands (Watched.up : Watched σ → Bool) :=
  ⟨fun _ => rfl, fun _ => rfl, fun _ _ _ _ => rfl⟩

theorem streamStands : Stands fun stream : Stream => stream.reader.isSome where
  connect stream := by
    change stream.connect.2.reader.isSome = stream.connect.1.toBool
    unfold Stream.connect
    cases stream.meeting <;> rfl
  disconnect stream := rfl
  read timeout stream text came := by
    change stream.read.1 = .line text at came
    change stream.read.2.reader.isSome = stream.reader.isSome
    unfold Stream.read at came ⊢
    cases connected : stream.reader with
    | none => simp [connected]
    | some reader =>
      rw [connected] at came
      dsimp only at came ⊢
      cases said : (reader.poll stream.wire).1 <;> simp_all

theorem standsHearing {up : σ → Bool} (stands : Stands up) {timeout : Nat} {link : σ}
    {lines : List (List Char)} (hears : Hears timeout link (lines.map .line)) :
    up ((List.replicate lines.length (.read timeout)).foldl act link) = up link := by
  induction lines generalizing link with
  | nil => rfl
  | cons text lines ih =>
    obtain ⟨came, later⟩ := hears
    exact (ih later).trans (stands.read timeout link text came)

end Link

namespace Supervisor

variable {σ : Type} [Link σ]

structure Quiet (s t : Supervisor σ) (actions : List Action) : Prop where
  link : t.link = actions.foldl Link.act s.link
  policy : t.policy = s.policy
  state : t.state = s.state
  timeouts : t.timeouts = s.timeouts
  reconnects : t.reconnects = s.reconnects
  published : t.published = s.published
  calls : ∃ calls, t.calls = calls ++ s.calls ∧ (calls.map (·.action)).reverse = actions ∧
    ∀ call ∈ calls, call.state = s.state

theorem quietAlone (s : Supervisor σ) : Quiet s s [] :=
  ⟨rfl, rfl, rfl, rfl, rfl, rfl, [], rfl, rfl, by simp⟩

theorem quietTrans {s t u : Supervisor σ} {first later : List Action} (before : Quiet s t first)
    (after : Quiet t u later) : Quiet s u (first ++ later) where
  link := by rw [after.link, before.link, List.foldl_append]
  policy := after.policy.trans before.policy
  state := after.state.trans before.state
  timeouts := after.timeouts.trans before.timeouts
  reconnects := after.reconnects.trans before.reconnects
  published := after.published.trans before.published
  calls := by
    obtain ⟨old, oldCalls, oldActions, oldStates⟩ := before.calls
    obtain ⟨new, newCalls, newActions, newStates⟩ := after.calls
    refine ⟨new ++ old, ?_, ?_, ?_⟩
    · rw [newCalls, oldCalls, List.append_assoc]
    · rw [List.map_append, List.reverse_append, oldActions, newActions]
    · rw [before.state] at newStates
      exact List.forall_mem_append.mpr ⟨newStates, oldStates⟩

theorem quietOnce {s t : Supervisor σ} {action : Action} (link : t.link = Link.act s.link action)
    (calls : t.calls = ⟨s.now, action, s.state⟩ :: s.calls)
    (rest : (t.policy, t.state, t.timeouts, t.reconnects, t.published) =
      (s.policy, s.state, s.timeouts, s.reconnects, s.published)) : Quiet s t [action] := by
  simp only [Prod.mk.injEq] at rest
  obtain ⟨policy, state, timeouts, reconnects, published⟩ := rest
  exact ⟨link, policy, state, timeouts, reconnects, published, [⟨s.now, action, s.state⟩], calls, rfl,
    by simp⟩

theorem dialledQuiet (s : Supervisor σ) : Quiet s s.dialled [.connect] := quietOnce rfl rfl rfl

theorem afterReadQuiet (s : Supervisor σ) : Quiet s s.afterRead [.read s.policy.readTimeout] :=
  quietOnce rfl rfl rfl

theorem dropConnectionQuiet (s : Supervisor σ) : Quiet s s.dropConnection [.disconnect] :=
  quietOnce rfl rfl rfl

def readings (s : Supervisor σ) (heard : List Outcome) : List Action :=
  List.replicate heard.length (.read s.policy.readTimeout)

theorem handshakeGreets (s : Supervisor σ) (lines : Nat) :
    ∃ heard, Hears s.policy.readTimeout s.link heard ∧ Greets lines heard (s.handshake lines).1 ∧
      Quiet s (s.handshake lines).2 (s.readings heard) := by
  induction lines generalizing s with
  | zero => exact ⟨[], trivial, @Greets.foreign 0 [] rfl (by simp), quietAlone s⟩
  | succ lines ih =>
    by_cases told : ∃ text, s.outcome = .line text
    · obtain ⟨text, came⟩ := told
      cases nmea : Sentence.isNmea text with
      | true =>
        rw [handshakeGreeted came nmea]
        exact ⟨[.line text], ⟨came, trivial⟩,
          @Greets.sentence _ [] text (Nat.succ_pos lines) (by simp) nmea, afterReadQuiet s⟩
      | false =>
        obtain ⟨heard, hears, greets, quiet⟩ := ih s.afterRead
        rw [handshakeSkips came nmea]
        exact ⟨.line text :: heard, ⟨came, hears⟩, greetsSkips nmea greets,
          quietTrans (afterReadQuiet s) quiet⟩
    · have none : ∀ text, s.outcome ≠ .line text := fun text came => told ⟨text, came⟩
      rw [handshakeFails none]
      exact ⟨[s.outcome], ⟨rfl, trivial⟩,
        @Greets.broken _ [] s.outcome (Nat.succ_pos lines) (by simp) none, afterReadQuiet s⟩

inductive Attempted (s : Supervisor σ) : List Action → Except OpenFailure Unit × Supervisor σ → Prop
  | unconnected {fault : Fault} {t : Supervisor σ}
      (fails : (Link.connect s.link).value = .error fault) (quiet : Quiet s t [.connect]) :
      Attempted s [.connect] (.error (.connect fault), t)
  | opened {heard : List Outcome} {t : Supervisor σ}
      (connects : (Link.connect s.link).value = .ok ())
      (hears : Hears s.policy.readTimeout (Link.connect s.link).link heard)
      (greets : Greets 3 heard (.ok ())) (quiet : Quiet s t (.connect :: s.readings heard)) :
      Attempted s (.connect :: s.readings heard) (.ok (), { t with timeouts := 0 }.publish .connected)
  | dropped {heard : List Outcome} {failure : OpenFailure} {t : Supervisor σ}
      (connects : (Link.connect s.link).value = .ok ())
      (hears : Hears s.policy.readTimeout (Link.connect s.link).link heard)
      (greets : Greets 3 heard (.error failure))
      (quiet : Quiet s t (.connect :: (s.readings heard ++ [.disconnect]))) :
      Attempted s (.connect :: (s.readings heard ++ [.disconnect])) (.error failure, t)

theorem attemptAttempted (s : Supervisor σ) : ∃ actions, s.Attempted actions s.attempt := by
  cases answer : (Link.connect s.link).value with
  | error fault =>
    rw [attemptUnconnected answer]
    exact ⟨_, .unconnected answer (dialledQuiet s)⟩
  | ok value =>
    obtain ⟨heard, hears, greets, listens⟩ := handshakeGreets s.dialled handshakeLines
    cases spoken : s.dialled.handshake handshakeLines with
    | mk result t =>
      rw [spoken] at greets listens
      have quiet : Quiet s t (.connect :: s.readings heard) := quietTrans (dialledQuiet s) listens
      cases result with
      | ok value =>
        rw [attemptOpened answer spoken]
        exact ⟨_, .opened answer hears greets quiet⟩
      | error failure =>
        rw [attemptDropped answer spoken]
        exact ⟨_, .dropped answer hears greets (quietTrans quiet (dropConnectionQuiet t))⟩

structure Sparing (actions : List Action) (result : Except OpenFailure Unit) : Prop where
  connects : actions.count .connect = 1
  unconnected : ∀ fault, result = .error (.connect fault) → actions = [.connect]
  reads : (∀ fault, result ≠ .error (.connect fault)) →
    1 ≤ actions.countP Action.isRead ∧ actions.countP Action.isRead ≤ 3
  disconnects : (∀ fault, result ≠ .error (.connect fault)) →
    actions.count .disconnect = if result.toBool then 0 else 1

omit [Link σ] in
theorem readingsCounted (s : Supervisor σ) (heard : List Outcome) :
    (s.readings heard).count .connect = 0 ∧ (s.readings heard).count .disconnect = 0 ∧
      (s.readings heard).countP Action.isRead = heard.length := by
  simp [readings, List.count_replicate, List.countP_replicate, Action.isRead]

theorem attemptedSparing {s : Supervisor σ} {actions : List Action}
    {answer : Except OpenFailure Unit × Supervisor σ} (attempted : s.Attempted actions answer) :
    Sparing actions answer.1 := by
  cases attempted with
  | unconnected fails quiet =>
    exact ⟨rfl, fun _ _ => rfl, fun other => absurd rfl (other _), fun other => absurd rfl (other _)⟩
  | @opened heard t connects hears greets quiet =>
    obtain ⟨connecting, disconnecting, reading⟩ := readingsCounted s heard
    have few := greetsReads greets
    exact ⟨by simp [connecting], nofun, fun _ => by simpa [reading, Action.isRead] using few,
      fun _ => by simp [disconnecting, Except.toBool]⟩
  | @dropped heard failure t connects hears greets quiet =>
    obtain ⟨connecting, disconnecting, reading⟩ := readingsCounted s heard
    have few := greetsReads greets
    refine ⟨by simp [connecting], ?_, fun _ => by simpa [reading, Action.isRead] using few,
      fun _ => by simp [disconnecting, Except.toBool]⟩
    rintro fault same
    cases same
    exact absurd greets greetsConnected

structure Connects (s t : Supervisor σ) : Prop where
  policy : t.policy = s.policy
  state : t.state = .connected
  timeouts : t.timeouts = 0
  reconnects : t.reconnects = s.reconnects
  published : t.published = s.published + 1

def Leaves (s : Supervisor σ) (answer : Except OpenFailure Unit × Supervisor σ) : Prop :=
  match answer.1 with
  | .ok () => Connects s answer.2
  | .error _ => ∃ actions, Quiet s answer.2 actions

theorem attemptLeaves (s : Supervisor σ) : s.Leaves s.attempt := by
  obtain ⟨actions, attempted⟩ := attemptAttempted s
  generalize s.attempt = answer at attempted ⊢
  cases attempted with
  | unconnected fails quiet => exact ⟨_, quiet⟩
  | dropped connects hears greets quiet => exact ⟨_, quiet⟩
  | opened connects hears greets quiet =>
    exact ⟨quiet.policy, rfl, rfl, quiet.reconnects, congrArg (· + 1) quiet.published⟩

theorem quietLeaves {s t : Supervisor σ} {actions : List Action}
    {answer : Except OpenFailure Unit × Supervisor σ} (quiet : Quiet s t actions)
    (leaves : t.Leaves answer) : s.Leaves answer := by
  obtain ⟨result, u⟩ := answer
  cases result with
  | ok value =>
    obtain ⟨policy, state, timeouts, reconnects, published⟩ := leaves
    exact ⟨policy.trans quiet.policy, state, timeouts, reconnects.trans quiet.reconnects,
      quiet.published ▸ published⟩
  | error failure =>
    obtain ⟨later, still⟩ := leaves
    exact ⟨actions ++ later, quietTrans quiet still⟩

theorem attemptedStands {up : σ → Bool} (stands : Stands up) {s : Supervisor σ}
    {actions : List Action} {answer : Except OpenFailure Unit × Supervisor σ}
    (attempted : s.Attempted actions answer) : up answer.2.link = answer.1.toBool := by
  have connected := stands.connect s.link
  cases attempted with
  | unconnected fails quiet =>
    rw [fails] at connected
    rw [quiet.link]
    exact connected
  | @opened heard t connects hears greets quiet =>
    rw [connects] at connected
    have spoke : ∃ lines : List (List Char), heard = lines.map .line := by
      cases greets with
      | @sentence skipped text few others nmea => exact ⟨skipped ++ [text], by simp⟩
    obtain ⟨lines, rfl⟩ := spoke
    have kept := standsHearing stands hears
    simp only [publish, quiet.link, readings, List.length_map, List.foldl_cons]
    exact kept.trans connected
  | @dropped heard failure t connects hears greets quiet =>
    rw [quiet.link, List.foldl_cons, List.foldl_append]
    exact stands.disconnect _

def attempts : Nat → Supervisor σ → Supervisor σ
  | 0, s => s
  | n + 1, s => attempts n s.attempt.2

theorem attemptsSucc (n : Nat) (s : Supervisor σ) :
    s.attempts (n + 1) = (s.attempts n).attempt.2 := by
  induction n generalizing s with
  | zero => rfl
  | succ n ih => exact ih s.attempt.2

def Reaches (again : Nat → Bool) (s : Supervisor σ) (n : Nat) : Prop :=
  ∀ k < n, (s.attempts k).attempt.1.toBool = false ∧ again k = true

def Ends (again : Nat → Bool) (s : Supervisor σ) (n : Nat) : Prop :=
  s.Reaches again n ∧ ((s.attempts n).attempt.1.toBool = true ∨ again n = false)

def Returns (again : Nat → Bool) (s : Supervisor σ)
    (answer : Except OpenFailure Unit × Supervisor σ) : Prop :=
  ∃ bound, ∀ more, bound ≤ more → s.openWithin again more 0 = answer

variable {again : Nat → Bool} {s : Supervisor σ}

theorem succeeds {result : Except OpenFailure Unit} : result.toBool = true ↔ result = .ok () := by
  cases result <;> simp [Except.toBool]

theorem openWithinStops {bound failures : Nat}
    (stops : s.attempt.1.toBool = true ∨ again failures = false) :
    s.openWithin again bound failures = s.attempt := by
  cases bound with
  | zero => rfl
  | succ bound =>
    rw [openWithin]
    cases attempted : s.attempt with
    | mk result t =>
      cases result with
      | ok value => rfl
      | error failure =>
        have last : again failures = false := by simpa [attempted, Except.toBool] using stops
        simp [last]

theorem openWithinGoesOn {bound failures : Nat} (fails : s.attempt.1.toBool = false)
    (another : again failures = true) :
    s.openWithin again (bound + 1) failures = s.attempt.2.openWithin again bound (failures + 1) := by
  rw [openWithin]
  cases attempted : s.attempt with
  | mk result t =>
    rw [attempted] at fails
    cases result with
    | ok value => cases fails
    | error failure => simp [another]

theorem attemptQuiet (s : Supervisor σ) (fails : s.attempt.1.toBool = false) :
    ∃ actions, Quiet s s.attempt.2 actions ∧ actions.count .connect = 1 := by
  obtain ⟨actions, attempted⟩ := attemptAttempted s
  have once := (attemptedSparing attempted).connects
  generalize s.attempt = answer at attempted fails ⊢
  cases attempted with
  | unconnected refuses quiet => exact ⟨_, quiet, once⟩
  | opened connects hears greets quiet => cases fails
  | dropped connects hears greets quiet => exact ⟨_, quiet, once⟩

theorem openWithinLeaves (again : Nat → Bool) (bound failures : Nat) (s : Supervisor σ) :
    s.Leaves (s.openWithin again bound failures) := by
  induction bound generalizing s failures with
  | zero => exact attemptLeaves s
  | succ bound ih =>
    have leaves := attemptLeaves s
    by_cases stops : s.attempt.1.toBool = true ∨ again failures = false
    · rwa [openWithinStops stops]
    · simp only [not_or, Bool.not_eq_true, Bool.not_eq_false] at stops
      obtain ⟨fails, another⟩ := stops
      obtain ⟨actions, quiet, _⟩ := attemptQuiet s fails
      rw [openWithinGoesOn fails another]
      exact quietLeaves quiet (ih (failures + 1) s.attempt.2)

theorem reachesSucc {n : Nat} : s.Reaches again (n + 1) ↔
    s.Reaches again n ∧ (s.attempts n).attempt.1.toBool = false ∧ again n = true :=
  Nat.forall_lt_succ_right

theorem openWithinReaches {n : Nat} (reaches : s.Reaches again n) (more : Nat) :
    s.openWithin again (n + more) 0 = (s.attempts n).openWithin again more n := by
  induction n generalizing more with
  | zero => rw [Nat.zero_add]; rfl
  | succ n ih =>
    obtain ⟨before, fails, another⟩ := reachesSucc.mp reaches
    rw [Nat.add_right_comm, Nat.add_assoc, ih before, openWithinGoesOn fails another, attemptsSucc]

theorem endsReturns {n : Nat} (ends : s.Ends again n) : s.Returns again (s.attempts n).attempt := by
  refine ⟨n, fun more enough => ?_⟩
  obtain ⟨rest, rfl⟩ := Nat.exists_eq_add_of_le enough
  rw [openWithinReaches ends.1, openWithinStops ends.2]

theorem returnsUnique {first second : Except OpenFailure Unit × Supervisor σ}
    (one : s.Returns again first) (other : s.Returns again second) : first = second := by
  obtain ⟨bound, returns⟩ := one
  obtain ⟨limit, answers⟩ := other
  rw [← returns _ (Nat.le_max_left bound limit), ← answers _ (Nat.le_max_right bound limit)]

theorem reachesAll (endless : ∀ n, ¬ s.Ends again n) (n : Nat) : s.Reaches again n := by
  induction n with
  | zero => exact fun _ absurd => by cases absurd
  | succ n ih =>
    have goesOn := endless n
    simp only [Ends, ih, true_and, not_or, Bool.not_eq_true, Bool.not_eq_false] at goesOn
    exact reachesSucc.mpr ⟨ih, goesOn⟩

theorem reachesQuiet {n : Nat} (reaches : s.Reaches again n) :
    ∃ actions, Quiet s (s.attempts n) actions ∧ actions.count .connect = n := by
  induction n with
  | zero => exact ⟨[], quietAlone s, rfl⟩
  | succ n ih =>
    obtain ⟨before, fails, _⟩ := reachesSucc.mp reaches
    obtain ⟨actions, quiet, dials⟩ := ih before
    obtain ⟨last, still, once⟩ := attemptQuiet (s.attempts n) fails
    rw [attemptsSucc]
    exact ⟨actions ++ last, quietTrans quiet still, by rw [List.count_append, dials, once]⟩

theorem callsGrow {s : Supervisor σ} (fails : s.attempt.1.toBool = false) :
    s.calls.length < s.attempt.2.calls.length := by
  obtain ⟨actions, quiet, once⟩ := attemptQuiet s fails
  obtain ⟨calls, made, same, _⟩ := quiet.calls
  have some : 0 < calls.length := by
    rw [← List.length_map (f := (·.action)), ← List.length_reverse, same]
    exact Nat.lt_of_lt_of_le (Nat.zero_lt_of_lt (once ▸ Nat.zero_lt_one)) List.count_le_length
  rw [made, List.length_append]
  omega

theorem returnsEnds {answer : Except OpenFailure Unit × Supervisor σ}
    (returns : s.Returns again answer) : ∃ n, s.Ends again n ∧ (s.attempts n).attempt = answer := by
  by_cases some : ∃ n, s.Ends again n
  · obtain ⟨n, ends⟩ := some
    exact ⟨n, ends, returnsUnique (endsReturns ends) returns⟩
  · -- An endless opening has made more calls whenever it is allowed more attempts.
    have reaches := reachesAll (not_exists.mp some)
    obtain ⟨bound, stays⟩ := returns
    have whole (n : Nat) : s.openWithin again n 0 = (s.attempts n).attempt :=
      openWithinReaches (reaches n) 0
    have same : (s.attempts bound).attempt = (s.attempts (bound + 1)).attempt := by
      rw [← whole, ← whole, stays bound (Nat.le_refl bound), stays _ (Nat.le_succ bound)]
    have grows := callsGrow (reachesSucc.mp (reaches (bound + 2))).2.1
    rw [← same, ← attemptsSucc] at grows
    exact absurd grows (Nat.lt_irrefl _)

theorem returnsLeaves {answer : Except OpenFailure Unit × Supervisor σ}
    (returns : s.Returns again answer) : s.Leaves answer := by
  obtain ⟨bound, answers⟩ := returns
  rw [← answers bound (Nat.le_refl bound)]
  exact openWithinLeaves again bound 0 s

theorem returnsStands {up : σ → Bool} (stands : Stands up)
    {answer : Except OpenFailure Unit × Supervisor σ} (returns : s.Returns again answer) :
    up answer.2.link = true ↔ answer.1 = .ok () := by
  obtain ⟨n, _, rfl⟩ := returnsEnds returns
  obtain ⟨actions, attempted⟩ := attemptAttempted (s.attempts n)
  rw [attemptedStands stands attempted, succeeds]

theorem unwatchedReturns {w : Supervisor (Watched σ)}
    {answer : Except OpenFailure Unit × Supervisor (Watched σ)} (returns : w.Returns again answer) :
    w.unwatched.Returns again (answer.1, answer.2.unwatched) := by
  obtain ⟨bound, answers⟩ := returns
  refine ⟨bound, fun more enough => ?_⟩
  rw [unwatchedOpenWithin, answers more enough]

/-- An opening ends with its first attempt that succeeds, or with the last that was to be made. Up to
there nothing of the supervisor has changed but its link and the log of the calls. -/
theorem openingEndsAtFirstSuccess (again : Nat → Bool) (s : Supervisor σ) :
    (∀ answer, s.Returns again answer ↔
      ∃ n, s.Reaches again n ∧ (s.attempts n).attempt = answer ∧
        (answer.1 = .ok () ∨ again n = false)) ∧
    (∀ n, s.Reaches again n →
      (∃ actions, Quiet s (s.attempts n) actions ∧ actions.count .connect = n) ∧
      ∃ actions, (s.attempts n).Attempted actions (s.attempts n).attempt ∧
        Sparing actions (s.attempts n).attempt.1) ∧
    (∀ t, s.Returns again (.ok (), t) → Connects s t) ∧
    (∀ failure t, s.Returns again (.error failure, t) → ∃ actions, Quiet s t actions) ∧
    (∀ up : σ → Bool, Stands up → ∀ answer, s.Returns again answer →
      (up answer.2.link = true ↔ answer.1 = .ok ())) ∧
    ∀ w : Supervisor (Watched σ), w.unwatched = s → ∀ answer, w.Returns again answer →
      s.Returns again (answer.1, answer.2.unwatched) ∧
        (answer.2.link.up = true ↔ answer.1 = .ok ()) := by
  have attempted (n : Nat) : ∃ actions, (s.attempts n).Attempted actions (s.attempts n).attempt :=
    attemptAttempted (s.attempts n)
  refine ⟨fun answer => ⟨fun returns => ?_, ?_⟩, ?_, ?_, ?_, ?_, ?_⟩
  · obtain ⟨n, ⟨reaches, stops⟩, rfl⟩ := returnsEnds returns
    exact ⟨n, reaches, rfl, by rwa [← succeeds]⟩
  · rintro ⟨n, reaches, rfl, stops⟩
    exact endsReturns ⟨reaches, by rwa [succeeds]⟩
  · intro n reaches
    obtain ⟨actions, tried⟩ := attempted n
    exact ⟨reachesQuiet reaches, actions, tried, attemptedSparing tried⟩
  · exact fun t returns => returnsLeaves returns
  · exact fun failure t returns => returnsLeaves returns
  · exact fun up stands answer => returnsStands stands
  · rintro w rfl answer returns
    exact ⟨unwatchedReturns returns, returnsStands watchedStands returns⟩

end Supervisor
end NmeaReceiver
