import StreamRelay.Proofs.Run.Order
import StreamRelay.Run.Use

/-!
# What becomes of requests to stop

A request to stop reaches the one who waits for it, or is stored, and several of them may be merged.
It is found again in one of two places, in the store or with the one who waits, and it moves from
the second to the first when that one goes away.

Main statement: whatever is done with a status, a request that nobody has heard of yet is heard of
by the next one who asks, and none is heard of that was not made (`heeded_of_uses`).
-/

namespace StreamRelay

namespace Signal

/-- In how many places there is a notification. -/
def stored (s : Signal) : Nat := s.permit.toNat + (s.waiter == .notified).toNat

/-- A notification stores one permit at most. -/
lemma stored_notify_le (s : Signal) : s.notify.stored ≤ s.stored + 1 := by
  obtain ⟨permit, waiter⟩ := s
  cases waiter <;> cases permit <;> decide

/-- A notification brings no waiter and takes none away. -/
lemma hasWaiter_notify (s : Signal) : s.notify.hasWaiter = s.hasWaiter := by
  obtain ⟨permit, waiter⟩ := s
  cases waiter <;> rfl

/-- A poll that hears the signal takes it, and any other leaves it. -/
lemma stored_poll (s : Signal) : s.poll.2.stored + s.poll.1.toNat = s.stored := by
  obtain ⟨permit, waiter⟩ := s
  cases waiter <;> cases permit <;> rfl

/-- A signal that is there and that a poll does not hear is there afterwards. -/
lemma isArmed_poll {s : Signal} (armed : s.isArmed = true) (missed : s.poll.1 = false) :
    s.poll.2.isArmed = true := by
  obtain ⟨permit, waiter⟩ := s
  cases missed
  exact armed

/-- Who begins to wait and hears the signal takes it, and else leaves it. -/
lemma stored_begin (s : Signal) : s.begin.2.stored + s.begin.1.toNat = s.stored := by
  obtain ⟨permit, waiter⟩ := s
  cases waiter <;> cases permit <;> rfl

/-- A signal that is there and that is not heard at the beginning of a wait is there afterwards. -/
lemma isArmed_begin {s : Signal} (armed : s.isArmed = true) (missed : s.begin.1 = false) :
    s.begin.2.isArmed = true := by
  obtain ⟨permit, waiter⟩ := s
  cases permit with
  | true => cases missed
  | false =>
    cases waiter with
    | absent | waiting => cases armed
    | notified => rfl

/-- Who begins to wait is a waiter unless the signal is there. -/
lemma hasWaiter_begin (s : Signal) : s.begin.2.hasWaiter = !s.begin.1 := by
  obtain ⟨permit, waiter⟩ := s
  cases waiter <;> cases permit <;> rfl

/-- Who gives up a wait stores nothing more than there was. -/
lemma stored_abandon_le (s : Signal) : s.abandon.stored ≤ s.stored := by
  obtain ⟨permit, waiter⟩ := s
  cases waiter <;> cases permit <;> decide

/-- Who asks where nobody waits finds an armed signal, and so does who begins to wait. -/
lemma ready_of_isArmed {s : Signal} (armed : s.isArmed = true) (alone : s.hasWaiter = false) :
    s.poll.1 = true ∧ s.begin.1 = true := by
  obtain ⟨permit, waiter⟩ := s
  cases waiter with
  | absent =>
    have here : permit = true := armed
    subst here
    exact ⟨rfl, rfl⟩
  | waiting | notified => cases alone

end Signal

namespace Status

/-- What was done with a status, each time with what came of it. -/
abbrev Trace := List (Use × Answer)

/-- Does one thing after the other with a status. -/
def uses (s : Status) : List Use → Trace × Status
  | [] => ([], s)
  | u :: us => ((u, (s.use u).1) :: ((s.use u).2.uses us).1, ((s.use u).2.uses us).2)

/-- Whether somebody waits after a use, if it is known whether somebody did before. -/
def keepsWaiter (before : Bool) : Use × Answer → Bool
  | (.wait, .asked ready) => !ready
  | (.askAgain, .asked true) | (.leave, _) => false
  | _ => before

namespace Trace

/-- How often the run was told to stop. -/
def requests (tr : Trace) : Nat := tr.countP (·.1 = .requestShutdown)

/-- How often somebody who asked was told so. -/
def heard (tr : Trace) : Nat := tr.countP (·.2 = .asked true)

/-- Whether the run was told to stop and nobody has heard of it since. -/
def IsOutstanding (tr : Trace) : Prop :=
  ∃ front a back, tr = front ++ (.requestShutdown, a) :: back ∧ ∀ e ∈ back, e.2 ≠ .asked true

/-- Whether somebody waits, as the uses and their answers tell. -/
def hasWaiter (tr : Trace) : Bool := tr.foldl keepsWaiter false

variable (tr : Trace) (u : Use) (a : Answer)

/-- The last use is a request or none. -/
@[simp] lemma requests_concat :
    requests (tr ++ [(u, a)]) = requests tr + if u = .requestShutdown then 1 else 0 := by
  simp [requests, List.countP_cons]

/-- The last use has heard the signal or not. -/
@[simp] lemma heard_concat :
    heard (tr ++ [(u, a)]) = heard tr + if a = .asked true then 1 else 0 := by
  simp [heard, List.countP_cons]

/-- Whether there is a waiter is decided by the last use. -/
@[simp] lemma hasWaiter_concat :
    hasWaiter (tr ++ [(u, a)]) = keepsWaiter (hasWaiter tr) (u, a) := by
  simp [hasWaiter]

variable {tr u a}

/-- A request stays outstanding until somebody hears of it. -/
lemma isOutstanding_of_concat (calm : u ≠ .requestShutdown)
    (out : IsOutstanding (tr ++ [(u, a)])) : IsOutstanding tr ∧ a ≠ .asked true := by
  obtain ⟨front, b, back, whole, silent⟩ := out
  rcases List.eq_nil_or_concat back with rfl | ⟨back, e, rfl⟩
  · obtain ⟨_, last⟩ := List.append_inj' whole rfl
    cases last
    exact absurd rfl calm
  · rw [List.concat_eq_append, ← List.cons_append, ← List.append_assoc] at whole
    obtain ⟨earlier, last⟩ := List.append_inj' whole rfl
    cases last
    rw [List.concat_eq_append] at silent
    exact ⟨⟨front, b, back, earlier, fun e mem => silent e (List.mem_append_left _ mem)⟩,
      silent _ (List.mem_append_right _ (List.mem_singleton_self _))⟩

end Trace

variable {tr tr' : Trace} {s t : Status} {u : Use} {a : Answer} {us : List Use} {i j : Signal}

/-- How a stop signal goes with what was done with the status that it is in. -/
structure Tracks (tr : Trace) (i : Signal) : Prop where
  armed : tr.IsOutstanding → i.isArmed = true
  counted : tr.heard + i.stored ≤ tr.requests
  waiter : i.hasWaiter = tr.hasWaiter

namespace Tracks

/-- A new signal agrees with a trace in which nothing has happened. -/
lemma empty : Tracks [] {} := by
  refine ⟨?armed, Nat.le_refl 0, rfl⟩
  rintro ⟨front, a, back, whole, _⟩
  exact absurd whole (by simp)

/-- A request leaves a signal that agrees with the trace with the request in it. -/
lemma requested (tracks : Tracks tr i) : Tracks (tr ++ [(.requestShutdown, .done)]) i.notify where
  armed := fun _ => Signal.isArmed_notify i
  counted := by
    have le := Signal.stored_notify_le i
    have counted := tracks.counted
    simp only [Trace.heard_concat, Trace.requests_concat, if_true, reduceCtorEq, if_false]
    omega
  waiter := by
    rw [Signal.hasWaiter_notify, tracks.waiter, Trace.hasWaiter_concat]
    rfl

/-- What is no request takes a notification away where it is heard of, and leaves the signal armed
where not. -/
lemma extend (tracks : Tracks tr i) (calm : u ≠ .requestShutdown)
    (armed : a ≠ .asked true → i.isArmed = true → j.isArmed = true)
    (counted : j.stored + (if a = .asked true then 1 else 0) ≤ i.stored)
    (waiter : j.hasWaiter = keepsWaiter i.hasWaiter (u, a)) : Tracks (tr ++ [(u, a)]) j where
  armed := by
    intro out
    obtain ⟨before, unheard⟩ := Trace.isOutstanding_of_concat calm out
    exact armed unheard (tracks.armed before)
  counted := by
    have before := tracks.counted
    rw [Trace.heard_concat, Trace.requests_concat, if_neg calm]
    omega
  waiter := by
    rw [waiter, tracks.waiter, Trace.hasWaiter_concat]

/-- What neither gives the signal nor hears of it leaves it alone. -/
lemma idle (tracks : Tracks tr i) (calm : u ≠ .requestShutdown) (silent : a ≠ .asked true)
    (waiter : keepsWaiter i.hasWaiter (u, a) = i.hasWaiter) : Tracks (tr ++ [(u, a)]) i := by
  refine tracks.extend calm (fun _ armed => armed) ?_ waiter.symm
  rw [if_neg silent]
  exact Nat.le_refl _

/-- A question that loses no signal leaves one that agrees with the trace with the question in it.
-/
lemma asked {ready : Bool} (tracks : Tracks tr i) (calm : u ≠ .requestShutdown)
    (armed : i.isArmed = true → ready = false → j.isArmed = true)
    (counted : j.stored + ready.toNat = i.stored)
    (waiter : j.hasWaiter = keepsWaiter i.hasWaiter (u, .asked ready)) :
    Tracks (tr ++ [(u, .asked ready)]) j := by
  refine tracks.extend calm ?armed ?counted waiter
  case armed =>
    intro unheard before
    refine armed before ?_
    cases ready with
    | false => rfl
    | true => exact absurd rfl unheard
  case counted =>
    rw [← counted]
    cases ready <;> simp

/-- A use leaves a signal that agrees with the trace with this use in it. -/
theorem use (tracks : Tracks tr s.signal) (u : Use) :
    Tracks (tr ++ [(u, (s.use u).1)]) (s.use u).2.signal := by
  cases u with
  | markStopped | markDnsFailure | recordExit e | recordPiece size =>
    exact tracks.idle (by simp) (by simp [Status.use]) rfl
  | requestShutdown => exact tracks.requested
  | ask => exact tracks.asked (by simp) Signal.isArmed_poll (Signal.stored_poll _) rfl
  | wait =>
    exact tracks.asked (by simp) Signal.isArmed_begin (Signal.stored_begin _)
      (Signal.hasWaiter_begin _)
  | askAgain =>
    cases place : s.signal.waiter with
    | absent =>
      have nobody : s.use .askAgain = (.nobody, s) := by simp [Status.use, Signal.repoll, place]
      rw [nobody]
      exact tracks.idle (by simp) (by simp) rfl
    | waiting =>
      have missed : s.use .askAgain = (.asked false, s) := by
        simp [Status.use, Signal.repoll, place]
      rw [missed]
      exact tracks.idle (by simp) (by simp) rfl
    | notified =>
      have found : s.use .askAgain =
          (.asked true, { s with signal := { s.signal with waiter := .absent } }) := by
        simp [Status.use, Signal.repoll, place]
      rw [found]
      refine tracks.asked (by simp) (fun _ missed => Bool.noConfusion missed) ?_ rfl
      simp [Signal.stored, place]
  | leave =>
    refine tracks.extend (by simp) (fun _ armed => Signal.isArmed_abandon armed) ?_ ?_
    · exact Signal.stored_abandon_le s.signal
    · simp [Status.use, keepsWaiter, Signal.hasWaiter]

/-- Whatever uses are made, the signal agrees with their trace. -/
theorem of_uses (tracks : Tracks tr s.signal) (uses : s.uses us = (tr', t)) :
    Tracks (tr ++ tr') t.signal := by
  induction us generalizing tr tr' s with
  | nil =>
    cases uses
    rw [List.append_nil]
    exact tracks
  | cons u us ih =>
    cases uses
    have later := ih (tracks.use u) rfl
    rwa [List.append_assoc] at later

end Tracks

/-- What holds of a status that uses have led to, with what came of each in `tr`. -/
structure Heeded (tr : Trace) (s : Status) : Prop where
  /-- Whether somebody waits follows from what was done. -/
  waiter : s.signal.hasWaiter = tr.hasWaiter
  /-- A request that nobody has heard of is heard of by the one who waits, -/
  again : tr.IsOutstanding → tr.hasWaiter = true → (s.use .askAgain).1 = .asked true
  /-- or where nobody waits by the next one who asks, -/
  next : tr.IsOutstanding → tr.hasWaiter = false →
    ∀ u ∈ [Use.ask, .wait], (s.use u).1 = .asked true
  /-- also when the one who waited for it has gone away without asking. -/
  passed : tr.IsOutstanding → ∀ u ∈ [Use.ask, .wait], ((s.use .leave).2.use u).1 = .asked true
  /-- The worker, who asks again if it waits and else begins to wait, hears of it as well. -/
  worker : tr.IsOutstanding → s.signal.look.1 = true
  /-- Nobody hears of more than what was requested. -/
  bounded : tr.heard ≤ tr.requests

/-- A signal that is there is heard by whoever asks next, if nobody waits for it. -/
lemma ready_of_isArmed (armed : s.signal.isArmed = true) (alone : s.signal.hasWaiter = false) :
    ∀ u ∈ [Use.ask, .wait], (s.use u).1 = .asked true := by
  obtain ⟨polled, begun⟩ := Signal.ready_of_isArmed armed alone
  intro u mem
  rw [List.mem_cons, List.mem_singleton] at mem
  rcases mem with rfl | rfl
  · exact congrArg Answer.asked polled
  · exact congrArg Answer.asked begun

/-- Whatever is done with a status, no request to stop is lost and none is invented. -/
theorem heeded_of_uses (new : s.signal = {}) (uses : s.uses us = (tr, t)) : Heeded tr t := by
  have tracks : Tracks tr t.signal := by
    have empty : Tracks [] s.signal := new ▸ Tracks.empty
    exact empty.of_uses uses
  refine {
    waiter := tracks.waiter
    again := ?again
    next := ?next
    passed := ?passed
    worker := ?worker
    bounded := Nat.le_trans (Nat.le_add_right _ _) tracks.counted
  }
  case again =>
    intro out here
    have armed := tracks.armed out
    rw [← tracks.waiter] at here
    cases place : t.signal.waiter with
    | absent => simp [Signal.hasWaiter, place] at here
    | waiting => simp [Signal.isArmed, place] at armed
    | notified => simp [Status.use, Signal.repoll, place]
  case next =>
    intro out alone
    rw [← tracks.waiter] at alone
    exact ready_of_isArmed (tracks.armed out) alone
  case passed =>
    intro out
    refine ready_of_isArmed (Signal.isArmed_abandon (tracks.armed out)) ?_
    simp [Status.use, Signal.hasWaiter]
  case worker =>
    intro out
    rw [Signal.look_fst]
    exact tracks.armed out

/-- One who waits, two requests, and others who come and go; then one who waits anew, and one more
request. -/
def passedOn : List Use :=
  [.wait, .requestShutdown, .requestShutdown, .ask, .requestShutdown, .wait, .wait, .wait,
    .recordPiece 7, .requestShutdown]

/-- The three requests that were heard of come from the store and from the waiter that went away,
and the last one is still to be heard of. -/
theorem heeded_passedOn :
    ∃ tr t, Status.fresh.signal = {} ∧ Status.fresh.uses passedOn = (tr, t) ∧ Heeded tr t ∧
      tr.map (·.2) = [.asked false, .done, .done, .asked true, .done, .asked true, .asked true,
        .asked false, .counted 1, .done] ∧
      tr.IsOutstanding ∧ tr.hasWaiter = true ∧ tr.heard = 3 ∧ tr.requests = 4 := by
  obtain ⟨⟨tr, t⟩, uses⟩ : ∃ x, Status.fresh.uses passedOn = x := ⟨_, rfl⟩
  have told : (Status.fresh.uses passedOn).1 = tr := congrArg Prod.fst uses
  refine ⟨tr, t, rfl, uses, heeded_of_uses rfl uses, ?_⟩
  rw [← told]
  refine ⟨by decide, ?_, by decide, by decide, by decide⟩
  exact ⟨(Status.fresh.uses passedOn.dropLast).1, .done, [], by decide, by simp⟩

end Status

end StreamRelay
