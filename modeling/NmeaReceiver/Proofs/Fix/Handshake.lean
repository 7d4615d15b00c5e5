import Mathlib.Data.List.Induction
import NmeaReceiver.Proofs.Fix.Apply

/-! Polls of one state by any number of callers, in any order with the updates applied to it. Every
list of calls is one way in which what the callers do may interleave; the history keeps each answer
and each update in the order in which the state met them. The pending flags are told by the
history: a poll was accepted, and nothing has answered it since. -/
namespace NmeaReceiver.Fix.Handshake

inductive Call (κ : Type) where
  | poll (caller : κ)
  | apply (update : Update)

inductive Event (κ : Type) where
  | answered (caller : κ) (accepted : Bool)
  | applied (update : Update)

structure Shared (κ : Type) where
  history : List (Event κ)
  state : State

namespace Shared

variable {κ : Type}

def fresh : Shared κ := ⟨[], .empty⟩

def serve (s : Shared κ) : Call κ → Shared κ
  | .poll caller => ⟨s.history ++ [.answered caller s.state.requestPoll.1], s.state.requestPoll.2⟩
  | .apply update => ⟨s.history ++ [.applied update], s.state.apply update⟩

def serveAll (calls : List (Call κ)) : Shared κ := calls.foldl serve fresh

end Shared

variable {κ : Type}

/-- A poll was accepted, and since the last such no update has carried what is asked about. -/
def Unanswered (carries : Update → Bool) (history : List (Event κ)) : Prop :=
  ∃ before caller since, history = before ++ .answered caller true :: since ∧
    (∀ other, .answered other true ∉ since) ∧
    ∀ update, .applied update ∈ since → carries update = false

theorem serveAllSnoc (calls : List (Call κ)) (call : Call κ) :
    Shared.serveAll (calls ++ [call]) = (Shared.serveAll calls).serve call := by
  simp [Shared.serveAll, List.foldl_append]

theorem unansweredAccepted (carries : Update → Bool) (history : List (Event κ)) (caller : κ) :
    Unanswered carries (history ++ [.answered caller true]) :=
  ⟨history, caller, [], rfl, by simp, by simp⟩

theorem unansweredSnoc (carries : Update → Bool) (history : List (Event κ)) {event : Event κ}
    (other : ∀ caller, event ≠ .answered caller true) :
    Unanswered carries (history ++ [event]) ↔
      Unanswered carries history ∧ ∀ update, event = .applied update → carries update = false := by
  constructor
  · rintro ⟨before, caller, since, same, last, quiet⟩
    rcases List.eq_nil_or_concat since with rfl | ⟨since, final, rfl⟩
    · obtain ⟨_, ends⟩ := List.append_inj' same rfl
      exact absurd (List.singleton_inj.mp ends) (other caller)
    · rw [List.concat_eq_append, ← List.cons_append, ← List.append_assoc] at same
      obtain ⟨rfl, ends⟩ := List.append_inj' same rfl
      obtain rfl := List.singleton_inj.mp ends
      refine ⟨⟨before, caller, since, rfl, ?_, ?_⟩, ?_⟩
      · intro next member
        exact last next (by simp [member])
      · intro update member
        exact quiet update (by simp [member])
      · rintro update rfl
        exact quiet update (by simp)
  · rintro ⟨⟨before, caller, since, rfl, last, quiet⟩, silent⟩
    refine ⟨before, caller, since ++ [event], by simp, ?_, ?_⟩
    · intro next member
      rcases List.mem_append.mp member with old | new
      · exact last next old
      · exact other next (List.mem_singleton.mp new).symm
    · intro update member
      rcases List.mem_append.mp member with old | new
      · exact quiet update old
      · exact silent update (List.mem_singleton.mp new).symm

theorem unansweredQuiet (carries : Update → Bool) (before : List (Event κ)) (caller : κ)
    (between : List (Event κ)) (quiet : ∀ update, .applied update ∈ between → carries update = false) :
    Unanswered carries (before ++ .answered caller true :: between) := by
  induction between using List.reverseRecOn with
  | nil => exact unansweredAccepted carries before caller
  | append_singleton between event ih =>
    have earlier := ih (fun update member => quiet update (List.mem_append_left _ member))
    rw [← List.cons_append, ← List.append_assoc]
    by_cases again : ∃ other, event = .answered other true
    · obtain ⟨other, rfl⟩ := again
      exact unansweredAccepted carries _ other
    · rw [unansweredSnoc carries _ (fun other same => again ⟨other, same⟩)]
      refine ⟨earlier, ?_⟩
      rintro update rfl
      exact quiet update (by simp)

structure Waits (flag : State → Bool) (carries : Update → Bool) : Prop where
  fresh : flag .empty = false
  free : ∀ s : State, s.requestPoll.1 = true → flag s = false
  raised : ∀ s : State, s.requestPoll.1 = true → flag s.requestPoll.2 = true
  cleared : ∀ (s : State) (update : Update), flag (s.apply update) = (flag s && !carries update)

theorem requestPollTakes {s : State} (accepted : s.requestPoll.1 = true) :
    s.requestPoll.2 = { s with locationPending := true, timePending := true } := by
  unfold State.requestPoll at accepted ⊢
  cases waiting : s.waiting with
  | true => simp [waiting] at accepted
  | false => rfl

theorem locationWaits : Waits (·.locationPending) (·.position.isSome) where
  fresh := rfl
  free s accepted := ((State.requestPollAccepted s).mp accepted).1
  raised s accepted := by rw [requestPollTakes accepted]
  cleared s update := by simp

theorem timeWaits : Waits (·.timePending) (·.time.isSome) where
  fresh := rfl
  free s accepted := ((State.requestPollAccepted s).mp accepted).2
  raised s accepted := by rw [requestPollTakes accepted]
  cleared s update := by simp

variable {flag : State → Bool} {carries : Update → Bool}

theorem flagFollowsHistory (waits : Waits flag carries) (calls : List (Call κ)) :
    flag (Shared.serveAll calls).state = true ↔
      Unanswered carries (Shared.serveAll calls).history := by
  induction calls using List.reverseRecOn with
  | nil =>
    have nothing : ¬ Unanswered carries ([] : List (Event κ)) := by
      rintro ⟨before, caller, since, same, _⟩
      simp at same
    exact ⟨fun up => by simp [Shared.serveAll, Shared.fresh, waits.fresh] at up, fun up => absurd up nothing⟩
  | append_singleton calls call ih =>
    rw [serveAllSnoc]
    -- Only an accepted poll starts the history of a flag anew; all else is added to it.
    cases call with
    | poll caller =>
      cases accepted : (Shared.serveAll calls).state.requestPoll.1 with
      | false =>
        simp only [Shared.serve, accepted, State.requestPollBusy accepted]
        rw [unansweredSnoc carries _ (by simp), ih]
        simp
      | true =>
        simp only [Shared.serve, accepted, waits.raised _ accepted, true_iff]
        exact unansweredAccepted carries _ caller
    | apply update =>
      simp only [Shared.serve]
      rw [waits.cleared, unansweredSnoc carries _ (by simp), ← ih]
      simp

theorem serveHistory (s : Shared κ) (call : Call κ) :
    ∃ event, (s.serve call).history = s.history ++ [event] := by
  cases call with
  | poll caller => exact ⟨_, rfl⟩
  | apply update => exact ⟨_, rfl⟩

theorem servedBefore {calls : List (Call κ)} {front back : List (Event κ)} {event : Event κ}
    (parts : (Shared.serveAll calls).history = front ++ event :: back) :
    ∃ earlier call, (Shared.serveAll earlier).history = front ∧
      ((Shared.serveAll earlier).serve call).history = front ++ [event] := by
  induction calls using List.reverseRecOn generalizing back with
  | nil => simp [Shared.serveAll, Shared.fresh] at parts
  | append_singleton calls call ih =>
    rw [serveAllSnoc] at parts
    obtain ⟨final, grown⟩ := serveHistory (Shared.serveAll calls) call
    rw [grown] at parts
    rcases List.eq_nil_or_concat back with rfl | ⟨back, last, rfl⟩
    · obtain ⟨same, ends⟩ := List.append_inj' parts rfl
      obtain rfl := List.singleton_inj.mp ends
      exact ⟨calls, call, same, by rw [grown, same]⟩
    · rw [List.concat_eq_append, ← List.cons_append, ← List.append_assoc] at parts
      exact ih (List.append_inj' parts rfl).1

theorem answeredBetween (waits : Waits flag carries) {calls : List (Call κ)}
    {before between after : List (Event κ)} {first second : κ}
    (parts : (Shared.serveAll calls).history =
      before ++ .answered first true :: between ++ .answered second true :: after) :
    ∃ update, .applied update ∈ between ∧ carries update = true := by
  by_contra none
  have quiet : ∀ update, .applied update ∈ between → carries update = false := by
    intro update member
    by_contra carried
    exact none ⟨update, member, by simpa using carried⟩
  obtain ⟨earlier, call, same, served⟩ := servedBefore parts
  have up := (flagFollowsHistory waits earlier).mpr
    (same ▸ unansweredQuiet carries before first between quiet)
  cases call with
  | poll caller =>
    rw [← same] at served
    have answer := List.singleton_inj.mp (List.append_cancel_left served)
    have accepted : (Shared.serveAll earlier).state.requestPoll.1 = true := by
      injection answer
    rw [waits.free _ accepted] at up
    cases up
  | apply update =>
    rw [← same] at served
    have answer := List.singleton_inj.mp (List.append_cancel_left served)
    cases answer

theorem requestPollFree (s : State) :
    s.requestPoll =
      if s.locationPending = false ∧ s.timePending = false then
        (true, { s with locationPending := true, timePending := true })
      else (false, s) := by
  by_cases free : s.locationPending = false ∧ s.timePending = false
  · simp [State.requestPoll, State.waiting, free]
  · have busy : s.waiting = true := by
      simp only [State.waiting, Bool.or_eq_true]
      by_contra neither
      simp_all
    rw [State.requestPoll, if_pos busy, if_neg free]

theorem pollsAwaitBoth (calls : List (Call κ)) :
    let shared := Shared.serveAll calls
    (shared.state.locationPending = true ↔ Unanswered (·.position.isSome) shared.history) ∧
    (shared.state.timePending = true ↔ Unanswered (·.time.isSome) shared.history) ∧
    (∀ caller, shared.serve (.poll caller) =
      if shared.state.locationPending = false ∧ shared.state.timePending = false then
        ⟨shared.history ++ [.answered caller true],
          { shared.state with locationPending := true, timePending := true }⟩
      else ⟨shared.history ++ [.answered caller false], shared.state⟩) ∧
    ∀ before first between second after,
      shared.history = before ++ .answered first true :: between ++ .answered second true :: after →
      (∃ update, .applied update ∈ between ∧ update.position.isSome = true) ∧
      ∃ update, .applied update ∈ between ∧ update.time.isSome = true := by
  intro shared
  refine ⟨flagFollowsHistory locationWaits calls, flagFollowsHistory timeWaits calls, ?_, ?_⟩
  · intro caller
    rw [Shared.serve, requestPollFree]
    split <;> rfl
  · intro before first between second after parts
    exact ⟨answeredBetween locationWaits parts, answeredBetween timeWaits parts⟩

theorem pollsOfTwoCallers :
    let place : Update := ⟨some ⟨.zero, .zero, none⟩, none, none⟩
    let moment : Update := ⟨none, some ⟨⟨0, 0⟩, .zero⟩, none⟩
    let between : List (Event Nat) := [.applied place, .answered 2 false, .applied moment]
    (Shared.serveAll [.poll 1, .apply place, .poll 2, .apply moment, .poll 2]).history =
      [] ++ .answered 1 true :: between ++ .answered 2 true :: [] ∧
    (∃ update, .applied update ∈ between ∧ update.position.isSome = true) ∧
    ∃ update, .applied update ∈ between ∧ update.time.isSome = true := by
  intro place moment between
  have polls := pollsAwaitBoth
    [.poll 1, .apply place, .poll 2, .apply moment, .poll 2]
  exact ⟨rfl, polls.2.2.2 [] 1 between 2 [] rfl⟩

end NmeaReceiver.Fix.Handshake
