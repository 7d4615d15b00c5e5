import NmeaReceiver.Proofs.Session.Rounds

/-! How a session ends. One tick ends it: that tick closes the link and then sends the event to
those who have subscribed by then. Nothing but subscriptions without an event comes after it. -/
namespace NmeaReceiver.Session
open NmeaReceiver.Link

variable {σ : Type}

def Running (s : Session σ) : Prop := ∀ why, s.phase ≠ .ended why

variable [Link σ]

structure Closes (s sent : Session σ) (why : Termination) : Prop where
  ends : s.tick = sent.finish why
  closed : sent.supervisor.state = .disconnected
  fix : sent.fix = s.fix
  inboxes : sent.inboxes = s.inboxes
  asked : why = .requested → s.cancelled = true
  silent : s.underway = []

theorem tickedCloses {s t : Session σ} {why : Termination} (ticked : Ticked s t) (same : s.tick = t)
    (running : s.Running) (ended : t.phase = .ended why) : ∃ sent, Closes s sent why := by
  cases ticked with
  | stopped phase asked =>
    cases ended
    exact ⟨_, same, rfl, rfl, rfl, fun _ => asked, by simp only [underway, phase]⟩
  | settled phase settled =>
    cases settled with
    | overflow length =>
      cases ended
      have silent : s.underway = [] := by simp only [underway, phase, textOf, Option.toList]
      exact ⟨_, same, rfl, rfl, rfl, (fun requested => by cases requested), silent⟩
    | line text => cases ended
    | failed fault => cases ended
    | patient few => cases ended
    | exhausted many => cases ended
    | refused => cases ended
  | begun phase free => cases ended
  | dialled phase => cases ended
  | answered phase => cases ended
  | @finished before phase => exact absurd phase (running before)

theorem endedStep {s : Session σ} {why : Termination} (ended : s.phase = .ended why)
    (action : Action) :
    (s.step action).phase = .ended why ∧ (s.step action).supervisor = s.supervisor ∧
      (s.step action).inboxes = s.inboxes ++ List.replicate ([action].count .subscribe) [] := by
  cases action with
  | tick =>
    have still : s.step .tick = s := by
      change s.tick = s
      rw [tick, ended]
    rw [still]
    exact ⟨ended, rfl, (List.append_nil _).symm⟩
  | poll => exact ⟨ended, rfl, (List.append_nil _).symm⟩
  | subscribe => exact ⟨ended, rfl, rfl⟩
  | disconnect => exact ⟨ended, rfl, (List.append_nil _).symm⟩

theorem endedRun {s : Session σ} {why : Termination} (ended : s.phase = .ended why)
    (actions : List Action) :
    (s.run actions).phase = .ended why ∧ (s.run actions).supervisor = s.supervisor ∧
      (s.run actions).inboxes = s.inboxes ++ List.replicate (actions.count .subscribe) [] := by
  induction actions generalizing s with
  | nil => exact ⟨ended, rfl, (List.append_nil _).symm⟩
  | cons action actions ih =>
    obtain ⟨stays, kept, grown⟩ := endedStep ended action
    obtain ⟨phase, supervisor, inboxes⟩ := ih stays
    refine ⟨phase, supervisor.trans kept, ?_⟩
    have counted : (action :: actions).count .subscribe =
        [action].count .subscribe + actions.count .subscribe := @List.count_append _ _ _ [action] _
    rw [counted, ← List.replicate_append_replicate, ← List.append_assoc, ← grown]
    exact inboxes

theorem runEnds {first : Session σ} {why : Termination} (running : first.Running)
    (actions : List Action) (ended : (first.run actions).phase = .ended why) :
    ∃ before after, actions = before ++ .tick :: after ∧ (first.run before).Running ∧
      (first.run before).tick.phase = .ended why := by
  induction actions using List.reverseRecOn with
  | nil => exact absurd ended (running why)
  | append_singleton actions action ih =>
    rw [runAppend] at ended
    by_cases already : (first.run actions).Running
    · have ticks : action = .tick := by
        by_contra quiet
        exact already why ((quietStep (first.run actions) quiet).1.symm.trans ended)
      subst ticks
      exact ⟨actions, [], rfl, already, ended⟩
    · obtain ⟨other, closed⟩ := not_forall_not.mp already
      have same : other = why :=
        Phase.ended.inj ((endedStep closed action).1.symm.trans ended)
      obtain ⟨before, after, rfl, earlier, ends⟩ := ih (same ▸ closed)
      exact ⟨before, after ++ [action], by simp, earlier, ends⟩

theorem runningBefore {s : Session σ} {actions : List Action} (running : (s.run actions).Running) :
    s.Running := fun why ended => running why (endedRun ended actions).1

theorem runningStepInboxes {s : Session σ} {action : Action} (running : (s.step action).Running) :
    (s.step action).inboxes = s.inboxes ++ List.replicate ([action].count .subscribe) [] := by
  cases action with
  | poll => exact (List.append_nil _).symm
  | subscribe => rfl
  | disconnect => exact (List.append_nil _).symm
  | tick =>
    change s.tick.inboxes = s.inboxes ++ []
    rw [List.append_nil]
    generalize same : s.tick = t
    change s.tick.Running at running
    rw [same] at running
    cases same ▸ tickCases s with
    | stopped phase asked => exact absurd rfl (running .requested)
    | settled phase settled =>
      cases settled with
      | overflow length => exact absurd rfl (running .overflow)
      | _ => rfl
    | _ => rfl

theorem runningInboxes {first : Session σ} (actions : List Action)
    (running : (first.run actions).Running) :
    (first.run actions).inboxes = first.inboxes ++ List.replicate (actions.count .subscribe) [] := by
  induction actions using List.reverseRecOn with
  | nil => exact (List.append_nil _).symm
  | append_singleton actions action ih =>
    rw [runAppend] at running ⊢
    have grown := ih (runningBefore running)
    rw [List.count_append, ← List.replicate_append_replicate, ← List.append_assoc, ← grown]
    exact runningStepInboxes running

theorem stepCancelled (s : Session σ) (action : Action) :
    (s.step action).cancelled = (s.cancelled || action == .disconnect) := by
  cases action with
  | poll => exact (Bool.or_false _).symm
  | subscribe => exact (Bool.or_false _).symm
  | disconnect => exact (Bool.or_true _).symm
  | tick =>
    change s.tick.cancelled = (s.cancelled || false)
    rw [Bool.or_false]
    generalize same : s.tick = t
    cases same ▸ tickCases s with
    | settled phase settled => cases settled <;> rfl
    | _ => rfl

theorem runCancelled (s : Session σ) (actions : List Action) :
    (s.run actions).cancelled = (s.cancelled || actions.contains .disconnect) := by
  induction actions generalizing s with
  | nil => exact (Bool.or_false _).symm
  | cons action actions ih =>
    change ((s.step action).run actions).cancelled = _
    rw [ih, stepCancelled, List.contains_cons, Bool.or_assoc]
    congr 2
    exact Bool.beq_comm ..

end NmeaReceiver.Session
