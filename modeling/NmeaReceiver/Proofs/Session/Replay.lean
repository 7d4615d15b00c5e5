import NmeaReceiver.Proofs.Session.Delivery

/-! Sessions that deliver the same updates end with the same values: polls, failed reads, reconnects
and lines without an update leave no trace in them. A session left to tick reads its whole script
unless a line is too long, so what leaves no trace may be struck out of a script beforehand. -/
namespace NmeaReceiver.Session
open NmeaReceiver.Link NmeaReceiver.Fix NmeaReceiver.Decimal

def Leads (s t : Session Script) (lines : List (List Char)) : Prop :=
  ∃ ticks, s.run (List.replicate ticks .tick) = t ∧ s.delivered (List.replicate ticks .tick) = lines

theorem Leads.stay (s : Session Script) : Leads s s [] := ⟨0, rfl, rfl⟩

theorem Leads.tick (s : Session Script) : Leads s s.tick s.underway :=
  ⟨1, rfl, List.append_nil _⟩

theorem Leads.trans {s t u : Session Script} {lines more : List (List Char)}
    (first : Leads s t lines) (second : Leads t u more) : Leads s u (lines ++ more) := by
  obtain ⟨n, rfl, rfl⟩ := first
  obtain ⟨m, rfl, rfl⟩ := second
  refine ⟨n + m, ?_, ?_⟩
  · rw [← List.replicate_append_replicate, runAppend]
  · rw [← List.replicate_append_replicate, deliveredAppend]

structure Idle (s : Session Script) (reads : List (Cue Outcome)) : Prop where
  phase : s.phase = .ready
  free : s.cancelled = false
  reads : s.supervisor.link.reads = reads

theorem coolReturns (s : Session Script) (supervisor : Supervisor Script) (cooldown : Nat)
    (free : s.cancelled = false) :
    ∃ t, Leads (s.cool supervisor cooldown) t [] ∧ Idle t supervisor.link.reads := by
  let cooling := s.cool supervisor cooldown
  have dialling : Leads cooling cooling.tick [] := Leads.tick cooling
  have answered : Leads cooling.tick cooling.tick.tick [] := Leads.tick cooling.tick
  refine ⟨cooling.tick.tick, dialling.trans answered, rfl, free, ?_⟩
  have kept : cooling.tick.supervisor.link.reads = supervisor.link.reads :=
    beginConnectReads _
  rw [← kept]
  change ((cooling.tick.moveTo _).supervisor.endReconnect _).link.reads = _
  rw [(Supervisor.endReconnectKeeps _ _).1]
  rfl

theorem settledReturns {s t : Session Script} {outcome : Outcome} (settled : Settled s outcome t)
    (free : s.cancelled = false) (fits : ∀ length, outcome ≠ .overflow length) :
    ∃ u, Leads t u [] ∧ Idle u s.supervisor.link.reads := by
  cases settled with
  | line text => exact ⟨_, Leads.stay _, rfl, free, rfl⟩
  | overflow length => exact absurd rfl (fits length)
  | failed fault => exact ⟨_, Leads.stay _, rfl, free, rfl⟩
  | patient few => exact ⟨_, Leads.stay _, rfl, free, rfl⟩
  | exhausted many => exact coolReturns s _ _ free
  | refused => exact coolReturns s _ _ free

theorem idleBegins {s t : Session Script} {cue : Cue Outcome} {rest : List (Cue Outcome)}
    (idle : Idle s (cue :: rest)) (ticked : Ticked s t) :
    (∃ due, t.phase = .reading cue.value due) ∧ t.cancelled = false ∧
      t.supervisor.link.reads = rest := by
  cases ticked with
  | begun phase free =>
    have answer := scriptRead s.supervisor.policy.readTimeout idle.reads
    have came : s.supervisor.beginRead.1 = cue.value := congrArg (·.value) answer
    have left : s.supervisor.beginRead.2.2.link.reads = rest := congrArg (·.link.reads) answer
    exact ⟨⟨_, congrArg (Phase.reading · _) came⟩, free, left⟩
  | stopped phase asked => rw [idle.free] at asked; cases asked
  | settled phase settled => rw [idle.phase] at phase; cases phase
  | dialled phase => rw [idle.phase] at phase; cases phase
  | answered phase => rw [idle.phase] at phase; cases phase
  | finished phase => rw [idle.phase] at phase; cases phase

theorem idleReads {s : Session Script} {cue : Cue Outcome} {rest : List (Cue Outcome)}
    (idle : Idle s (cue :: rest)) (fits : ∀ length, cue.value ≠ .overflow length) :
    ∃ t, Leads s t (textOf cue.value).toList ∧ Idle t rest := by
  obtain ⟨⟨due, reading⟩, free, reads⟩ := idleBegins idle (tickCases s)
  have begun : Leads s s.tick [] := by
    have nothing : s.underway = [] := by simp only [underway, idle.phase]
    exact nothing ▸ Leads.tick s
  have came : Leads s.tick s.tick.tick (textOf cue.value).toList := by
    have line : s.tick.underway = (textOf cue.value).toList := by simp only [underway, reading]
    exact line ▸ Leads.tick s.tick
  have settles : s.tick.tick = (s.tick.moveTo due).settle cue.value := by
    rw [tick, reading]
  obtain ⟨t, returned, after⟩ := settledReturns (settleCases (s.tick.moveTo due) cue.value) free fits
  rw [← settles] at returned
  refine ⟨t, ?_, after.phase, after.free, after.reads.trans reads⟩
  have whole := (begun.trans came).trans returned
  rwa [List.append_nil, List.nil_append] at whole

theorem idleReadsAll {s : Session Script} {cues : List (Cue Outcome)} (idle : Idle s cues)
    (fits : ∀ cue ∈ cues, ∀ length, cue.value ≠ .overflow length) :
    ∃ t, Leads s t (linesOf cues) ∧ Idle t [] := by
  induction cues generalizing s with
  | nil => exact ⟨s, Leads.stay s, idle⟩
  | cons cue cues ih =>
    obtain ⟨t, first, after⟩ := idleReads idle (fits cue List.mem_cons_self)
    obtain ⟨u, others, done⟩ := ih after fun other member => fits other (List.mem_cons_of_mem _ member)
    exact ⟨u, linesOfCons cue cues ▸ first.trans others, done⟩

theorem startReads (supervisor : Supervisor Script) (clock : Clock)
    (fits : ∀ cue ∈ supervisor.link.reads, ∀ length, cue.value ≠ .overflow length) :
    ∃ ticks, (start supervisor clock).delivered (List.replicate ticks .tick) =
      linesOf supervisor.link.reads := by
  have idle : Idle (start supervisor clock) supervisor.link.reads := ⟨rfl, rfl, rfl⟩
  obtain ⟨_, ⟨ticks, _, lines⟩, _⟩ := idleReadsAll idle fits
  exact ⟨ticks, lines⟩

theorem startValues {σ : Type} [Link σ] (supervisor : Supervisor σ) (clock : Clock)
    (actions : List Action) :
    ((start supervisor clock).run actions).fix.values =
      lastWritten clock ((start supervisor clock).delivered actions) :=
  runWrites (start supervisor clock) actions [] rfl

theorem stepQuiet {σ : Type} [Link σ] {s : Session σ} {action : Action} {seen : List (List Char)}
    (written : s.fix.values = lastWritten s.clock seen)
    (quiet : ∀ line ∈ s.handed action, carries s.clock line = false) :
    (s.step action).fix.values = s.fix.values := by
  have nothing : (s.handed action).filter (carries s.clock) = [] := by
    rw [List.filter_eq_nil_iff]
    intro line member carried
    rw [quiet line member] at carried
    cases carried
  have after := foldIngestValues written (s.handed action)
  rw [(stepWrites s action).values, after, written, ← lastWrittenFilter (seen ++ _),
    List.filter_append, nothing, List.append_nil, lastWrittenFilter]

theorem valuesOfLastLines (supervisor : Supervisor Script) (clock : Clock) (actions : List Action) :
    let first := start supervisor clock
    let last := first.run actions
    let lines := first.delivered actions
    linesOf supervisor.link.reads = lines ++ last.ahead ∧
    last.fix.values = lastWritten clock lines ∧
    (∀ action, (∀ line ∈ last.handed action, carries clock line = false) →
      (last.step action).fix.values = last.fix.values) ∧
    (∀ (other : Supervisor Script) (others : List Action),
      ((start other clock).delivered others).filter (carries clock) = lines.filter (carries clock) →
      ((start other clock).run others).fix.values = last.fix.values) ∧
    ∀ other : Supervisor Script,
      (∀ cue ∈ other.link.reads, ∀ length, cue.value ≠ .overflow length) →
      (linesOf other.link.reads).filter (carries clock) = lines.filter (carries clock) →
      ∃ ticks, let ticking := List.replicate ticks Action.tick
        (start other clock).delivered ticking = linesOf other.link.reads ∧
        ((start other clock).run ticking).fix.values = last.fix.values := by
  intro first last lines
  have values : last.fix.values = lastWritten clock lines := startValues supervisor clock actions
  have kept : last.clock = clock := runClock first actions
  have same : ∀ (other : Supervisor Script) (others : List Action),
      ((start other clock).delivered others).filter (carries clock) = lines.filter (carries clock) →
      ((start other clock).run others).fix.values = last.fix.values := by
    intro other others carried
    rw [startValues, values, ← lastWrittenFilter, carried, lastWrittenFilter]
  refine ⟨runAhead first actions, values, ?_, same, ?_⟩
  · intro action quiet
    rw [← kept] at values quiet
    exact stepQuiet values quiet
  · intro other fits carried
    obtain ⟨ticks, delivered⟩ := startReads other clock fits
    exact ⟨ticks, delivered, same other _ (delivered.symm ▸ carried)⟩

theorem valuesOfTwoSentences :
    let clock : Clock := .fixed ⟨0, 0⟩ .zero
    let noise := "$GPXYZ,1".toList
    let day := "$GPZDA,120000,15,01,2024,,".toList
    let kind := "$GPGSA,A,3,,,,,,,,,,,,,,,".toList
    let reads : List (Cue Outcome) := [⟨.line noise, 0⟩, ⟨.line day, 10⟩, ⟨.timeout, 3000⟩,
      ⟨.refused, 0⟩, ⟨.line kind, 0⟩, ⟨.failed (.other "framing"), 0⟩]
    let supervisor : Supervisor Script := .new ⟨reads, [⟨some (.other "down"), 5⟩]⟩ .standard
    let plain : Supervisor Script := .new ⟨[⟨.line day, 0⟩, ⟨.line kind, 0⟩], []⟩ .standard
    let actions := List.replicate 5 Action.tick ++ [.poll, .subscribe] ++ .replicate 10 .tick
    let last := (start supervisor clock).run actions
    last.fix.values = ⟨none, none, none, some ⟨1705320000, 0⟩, some .zero, some .fix3D⟩ ∧
    (∀ cue ∈ plain.link.reads, ∀ length, cue.value ≠ .overflow length) ∧
    (linesOf plain.link.reads).filter (carries clock) =
      ((start supervisor clock).delivered actions).filter (carries clock) ∧
    ∃ ticks, let ticking := List.replicate ticks Action.tick
      (start plain clock).delivered ticking = [day, kind] ∧
      ((start plain clock).run ticking).fix.values = last.fix.values := by
  intro clock noise day kind reads supervisor plain actions last
  obtain ⟨_, values, _, _, struck⟩ := valuesOfLastLines supervisor clock actions
  have fits : ∀ cue ∈ plain.link.reads, ∀ length, cue.value ≠ .overflow length := by
    simp [plain, Supervisor.new]
  have same : (linesOf plain.link.reads).filter (carries clock) =
      ((start supervisor clock).delivered actions).filter (carries clock) := by decide +kernel
  exact ⟨values.trans (by decide +kernel), fits, same, struck plain fits same⟩

end NmeaReceiver.Session
