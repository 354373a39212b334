import StreamRelay.Proofs.Pump.Step
import StreamRelay.Proofs.Run.Order

/-!
# The order of runs and calls

Which runs of a pump can be going on, and what the calls that stop it have done to the runs that
they are aimed at. A step acts upon the runs of a pump in one of three ways: it adds a run, makes a
move of one run, or leaves all of them alone.

Main statements: the effect of every step upon the runs (`Sound.affects`), and that of all runs only
the latest can be going on, whatever steps are made (`Sound.of_steps`).
-/

namespace StreamRelay.Control

attribute [local simp] log setStage

variable {p : Pump} {c c' : Control} {a : Action}

/-! ## What a step changes -/

/-- The move that a step makes in the run with this number. -/
def moveOf (c : Control) (i : Nat) : Action → Option Move
  | .within j m => if j = i then some m else none
  | .advance j => c.calls[j]?.bind (fun k => if k.target = some i then k.stage.move? else none)
  | .start | .startInVain | .reap _ | .stop | .drop | .join _ _ | .expire _ => none

/-- What a call does is done to the run that it is aimed at. -/
lemma moveOf_advance {i j : Nat} {k : Call} (call : c.calls[j]? = some k) :
    c.moveOf i (.advance j) = if k.target = some i then k.stage.move? else none := by
  rw [moveOf, call, Option.bind_some]

section changes

variable {target : Option Nat} {f : Status → Status} {i : Nat} {r : Run}

/-- A change of a status makes no call. -/
@[simp] lemma calls_changeStatus : (c.changeStatus target f).calls = c.calls := by
  cases target <;> rfl

/-- A change of a status takes no handles. -/
@[simp] lemma hasHandles_changeStatus : (c.changeStatus target f).hasHandles = c.hasHandles := by
  cases target <;> rfl

/-- A change of a status does not drop the pump. -/
@[simp] lemma dropped_changeStatus : (c.changeStatus target f).dropped = c.dropped := by
  cases target <;> rfl

/-- The status of a run is changed where the run is. -/
lemma runs_changeStatus (run : c.runs[i]? = some r) :
    (c.changeStatus (some i) f).runs = c.runs.set i { r with status := f r.status } := by
  apply List.ext_getElem?
  intro j
  simp only [changeStatus, List.getElem?_modify, List.getElem?_set]
  by_cases same : i = j
  · subst same
    obtain ⟨bound, rfl⟩ := List.getElem?_eq_some_iff.1 run
    simp [bound]
  · simp [same]

/-- A closed write end makes no call. -/
@[simp] lemma calls_closeWriteEnd : (c.closeWriteEnd target).calls = c.calls := by
  unfold closeWriteEnd
  repeat' split
  all_goals rfl

/-- A closed write end takes no handles. -/
@[simp] lemma hasHandles_closeWriteEnd : (c.closeWriteEnd target).hasHandles = c.hasHandles := by
  unfold closeWriteEnd
  repeat' split
  all_goals rfl

/-- A closed write end does not drop the pump. -/
@[simp] lemma dropped_closeWriteEnd : (c.closeWriteEnd target).dropped = c.dropped := by
  unfold closeWriteEnd
  repeat' split
  all_goals rfl

/-- A closed write end leaves the status alone that the pump has without a run. -/
@[simp] lemma idle_closeWriteEnd : (c.closeWriteEnd target).idle = c.idle := by
  unfold closeWriteEnd
  repeat' split
  all_goals rfl

/-- The write end of a run is closed where the run is. -/
lemma runs_closeWriteEnd (run : c.runs[i]? = some r) :
    (c.closeWriteEnd (some i)).runs =
      c.runs.set i { r with pipe := (r.pipe.tryClose r.phase.holdsWriteEnd).2 } := by
  unfold closeWriteEnd
  simp only [run]
  split <;> rfl

end changes

/-- What a step does to the runs of a pump. -/
inductive Affects (p : Pump) (c : Control) (a : Action) (c' : Control) : Prop where
  /-- It adds one. -/
  | start (first : a = .start) (off : c.status.running = false)
    (runs : c'.runs = c.runs ++ [Run.fresh])
  /-- It makes a move of one. -/
  | move {i : Nat} {m : Move} {r r' : Run} (own : c.moveOf i a = some m)
    (run : c.runs[i]? = some r) (step : r.step p.task m = some r')
    (runs : c'.runs = c.runs.set i r')
  /-- It leaves them alone. -/
  | keep (quiet : ∀ i, c.moveOf i a = none) (runs : c'.runs = c.runs)

/-- What holds of a pump at any time. -/
structure Sound (c : Control) : Prop where
  /-- Calls are aimed at runs that there are. -/
  target : ∀ k ∈ c.calls, ∀ i, k.target = some i → i < c.runs.length
  /-- A call that has cleared the running flag of its target finds it cleared. -/
  told : ∀ k ∈ c.calls, k.stage ≠ .clearing → (c.statusOf k.target).running = false
  /-- Only the latest run is going on. -/
  latest : ∀ i r, c.runs[i]? = some r → r.status.running = true → i + 1 = c.runs.length
  /-- A pump is not going on before its first run. -/
  idle : c.idle.running = false

namespace Sound

/-- A call acts upon the runs by a move of the one that it is aimed at, if it is aimed at one. -/
lemma affects_call (sound : c.Sound) {j : Nat} {k : Call} {m : Move}
    (call : c.calls[j]? = some k) (own : k.stage.move? = some m)
    (aimless : k.target = none → c'.runs = c.runs)
    (moves : ∀ i r, k.target = some i → c.runs[i]? = some r →
      ∃ r', r.step p.task m = some r' ∧ c'.runs = c.runs.set i r') :
    Affects p c (.advance j) c' := by
  cases target : k.target with
  | none =>
    refine .keep (fun i => ?_) (aimless target)
    rw [moveOf_advance call, target]
    rfl
  | some i =>
    have bound := sound.target k (List.mem_of_getElem? call) i target
    have run : c.runs[i]? = some c.runs[i] := List.getElem?_eq_getElem bound
    obtain ⟨r', step, runs⟩ := moves i _ target run
    refine .move (i := i) (m := m) ?_ run step runs
    rw [moveOf_advance call, if_pos target, own]

/-- The status that a call has seen to is that of the run that it is aimed at. -/
lemma off_of_target (sound : c.Sound) {j i : Nat} {k : Call} {r : Run}
    (call : c.calls[j]? = some k) (later : k.stage ≠ .clearing) (target : k.target = some i)
    (run : c.runs[i]? = some r) : r.status.running = false := by
  have off := sound.told k (List.mem_of_getElem? call) later
  rw [target] at off
  simpa [statusOf, run] using off

/-- A call that gives the stop signal makes a move of the run that it is aimed at. -/
lemma affects_notify (sound : c.Sound) {j : Nat} {k : Call} (call : c.calls[j]? = some k)
    (stage : k.stage = .notifying) (runs : c'.runs = (c.changeStatus k.target Status.notify).runs) :
    Affects p c (.advance j) c' := by
  refine sound.affects_call (m := .notify) call (by rw [stage]; rfl) ?_ ?_
  · intro target
    rw [runs, target]
    rfl
  · intro i r target run
    have off := sound.off_of_target call (by rw [stage]; decide) target run
    refine ⟨_, by simp only [Run.step, off]; rfl, ?_⟩
    rw [runs, target, runs_changeStatus run]

/-- Every step affects the runs of a pump in one of the three ways. -/
theorem affects (sound : c.Sound) (step : Goes p c a c') : Affects p c a c' := by
  cases step with
  | start kept off => exact .start rfl off rfl
  | refuse | startInVain | reap | stop | drop | dropIdle | join | expire =>
    exact .keep (fun _ => rfl) rfl
  | clear call stage =>
    refine sound.affects_call (m := .clear) call (by rw [stage]; rfl) ?_ ?_
    · intro target
      rw [target]
      rfl
    · intro i r target run
      refine ⟨_, rfl, ?_⟩
      rw [target]
      exact runs_changeStatus run
  | notifyLast call stage => exact sound.affects_notify call stage rfl
  | notify call stage => exact sound.affects_notify call stage rfl
  | notifyAgain call stage => exact sound.affects_notify call stage rfl
  | close call stage =>
    refine sound.affects_call (m := .tryClose) call (by rw [stage]; rfl) ?_ ?_
    · intro target
      rw [target]
      rfl
    · intro i r target run
      have off := sound.off_of_target call (by rw [stage]; decide) target run
      refine ⟨_, by simp only [Run.step, off]; rfl, ?_⟩
      rw [target]
      exact runs_closeWriteEnd run
  | arrive call stage =>
    refine .keep (fun i => ?_) rfl
    rw [moveOf_advance call, stage]
    exact ite_self _
  | @within i m r r' _ run step =>
    exact .move (i := i) (m := m) (if_pos rfl) run step rfl

end Sound

/-! ## What a step keeps -/

/-- A step makes a move of one run at most. -/
lemma moveOf_of_ne {i j : Nat} {m : Move} (own : c.moveOf i a = some m) (ne : j ≠ i) :
    c.moveOf j a = none := by
  cases a with
  | within k m' =>
    simp only [moveOf, ite_eq_right_iff, reduceCtorEq, imp_false] at own ⊢
    rintro rfl
    rw [if_neg ne] at own
    cases own
  | advance n =>
    obtain ⟨k, call, own⟩ := Option.bind_eq_some_iff.1 own
    rw [moveOf_advance call, if_neg]
    intro target
    rw [target, if_neg (by simpa using ne)] at own
    cases own
  | start | startInVain | reap _ | stop | drop | join _ _ | expire _ => cases own

namespace Affects

/-- What a step does to one run. -/
lemma run (aff : Affects p c a c') {i : Nat} {r : Run} (run : c.runs[i]? = some r) :
    ∃ r', c'.runs[i]? = some r' ∧
      (c.moveOf i a = none ∧ r' = r ∨
        ∃ m, c.moveOf i a = some m ∧ r.step p.task m = some r') := by
  have bound := (List.getElem?_eq_some_iff.1 run).1
  cases aff with
  | start first _ runs =>
    subst first
    exact ⟨r, by rw [runs, List.getElem?_append_left bound, run], .inl ⟨rfl, rfl⟩⟩
  | @move j m s s' own run' step runs =>
    by_cases same : i = j
    · subst same
      rw [run'] at run
      cases run
      exact ⟨s', by rw [runs, List.getElem?_set_self bound], .inr ⟨m, own, step⟩⟩
    · exact ⟨r, by rw [runs, List.getElem?_set_ne (Ne.symm same), run],
        .inl ⟨moveOf_of_ne own same, rfl⟩⟩
  | keep quiet runs => exact ⟨r, by rw [runs, run], .inl ⟨quiet i, rfl⟩⟩

/-- What a step has done to one run, which is there after it as well. -/
lemma moved (aff : Affects p c a c') {i : Nat} {r r' : Run} (run : c.runs[i]? = some r)
    (run' : c'.runs[i]? = some r') :
    c.moveOf i a = none ∧ r' = r ∨ ∃ m, c.moveOf i a = some m ∧ r.step p.task m = some r' := by
  obtain ⟨s, run'', moved⟩ := aff.run run
  rw [run'] at run''
  cases run''
  exact moved

/-- A step at a run that is not there starts it. -/
lemma run_of_absent (aff : Affects p c a c') {i : Nat} {r' : Run} (absent : c.runs[i]? = none)
    (run' : c'.runs[i]? = some r') :
    a = .start ∧ c.status.running = false ∧ i = c.runs.length ∧ r' = .fresh := by
  cases aff with
  | start first off runs =>
    have bound := List.getElem?_eq_none_iff.1 absent
    rw [runs, List.getElem?_append_right bound, List.getElem?_singleton] at run'
    split at run'
    · next zero =>
      cases run'
      exact ⟨first, off, by omega, rfl⟩
    · cases run'
  | move _ _ _ runs =>
    have bound := (List.getElem?_eq_some_iff.1 run').1
    rw [runs, List.length_set] at bound
    rw [List.getElem?_eq_getElem bound] at absent
    cases absent
  | keep _ runs =>
    rw [runs, absent] at run'
    cases run'

/-- No run is taken away. -/
lemma length_le (aff : Affects p c a c') : c.runs.length ≤ c'.runs.length := by
  cases aff with
  | start _ _ runs => simp [runs]
  | move _ _ _ runs => simp [runs]
  | keep _ runs => simp [runs]

/-- A run that has been told to stop stays so. -/
lemma off (aff : Affects p c a c') {i : Nat} {r r' : Run} (run : c.runs[i]? = some r)
    (run' : c'.runs[i]? = some r') (off : r.status.running = false) :
    r'.status.running = false := by
  rcases aff.moved run run' with ⟨_, rfl⟩ | ⟨m, _, step⟩
  · exact off
  · exact (Run.Goes.of_step step).off off

end Affects

/-- The latest run is the last. -/
lemma latest_eq {i : Nat} (last : i + 1 = c.runs.length) : c.latest = some i := by
  have ne : c.runs ≠ [] := by
    intro none
    rw [none] at last
    cases last
  simp [latest, ne, ← last]

/-- The status of a pump is that of its latest run. -/
lemma status_eq {i : Nat} {r : Run} (run : c.runs[i]? = some r) (last : i + 1 = c.runs.length) :
    c.status = r.status := by
  rw [status, latest_eq last, statusOf, run]
  rfl

/-- Whether a call after a step is one of the calls before it, with its stage moved on at most. -/
def Continues (calls : List Call) (a : Action) (k' : Call) : Prop :=
  ∃ j k, calls[j]? = some k ∧ k.target = k'.target ∧ k.holdsHandles = k'.holdsHandles ∧
    (k.stage = .clearing → k' = k ∨ a = .advance j)

/-- Whether a call after a step has been made by it. -/
structure Begins (c : Control) (k' : Call) : Prop where
  target : k'.target = c.latest
  holdsHandles : k'.holdsHandles = true → c.hasHandles = true
  stage : k'.stage ≠ .clearing → c.status.running = false

/-- A call that stays as it is continues. -/
lemma Continues.of_mem {calls : List Call} {k' : Call} (mem : k' ∈ calls) :
    Continues calls a k' := by
  obtain ⟨j, call⟩ := List.getElem?_of_mem mem
  exact ⟨j, k', call, rfl, rfl, fun _ => .inl rfl⟩

/-- A call whose stage is moved on continues, and so do the others. -/
lemma Continues.of_setStage {calls : List Call} {j : Nat} {k k' : Call} {s : Stage}
    (call : calls[j]? = some k) (own : a = .advance j ∨ k.stage ≠ .clearing)
    (mem : k' ∈ calls.modify j (fun k => { k with stage := s })) : Continues calls a k' := by
  obtain ⟨n, call'⟩ := List.getElem?_of_mem mem
  by_cases same : j = n
  · subst same
    rw [List.getElem?_modify_eq, call] at call'
    cases call'
    refine ⟨j, k, call, rfl, rfl, fun clearing => .inr ?_⟩
    exact own.resolve_right (fun later => later clearing)
  · rw [List.getElem?_modify_ne _ _ same] at call'
    exact .of_mem (List.mem_of_getElem? call')

/-- A step makes a call, moves the stage of one on, or leaves all calls alone. -/
lemma Goes.calls (step : Goes p c a c') :
    c'.calls = c.calls ∨ (∃ k, Begins c k ∧ c'.calls = c.calls ++ [k]) ∨
      ∃ j k s, c.calls[j]? = some k ∧ (a = .advance j ∨ k.stage ≠ .clearing) ∧ s ≠ .clearing ∧
        c'.calls = c.calls.modify j (fun k => { k with stage := s }) := by
  cases step with
  | start | refuse | startInVain | reap | within => exact .inl rfl
  | stop => exact .inr (.inl ⟨_, ⟨rfl, id, fun later => absurd rfl later⟩, rfl⟩)
  | drop =>
    exact .inr (.inl ⟨_, ⟨rfl, fun holds => (by cases holds), fun later => absurd rfl later⟩, rfl⟩)
  | dropIdle _ _ off =>
    exact .inr (.inl ⟨_, ⟨rfl, fun holds => (by cases holds), fun _ => off⟩, rfl⟩)
  | clear call _ => exact .inr (.inr ⟨_, _, .notifying, call, .inl rfl, by decide, by simp⟩)
  | notify call _ _ _ => exact .inr (.inr ⟨_, _, .closing, call, .inl rfl, by decide, by simp⟩)
  | close call _ => exact .inr (.inr ⟨_, _, .waiting, call, .inl rfl, by decide, by simp⟩)
  | notifyLast call _ _ | notifyAgain call _ _ _ | arrive call _ _ =>
    exact .inr (.inr ⟨_, _, .returned, call, .inl rfl, by decide, by simp⟩)
  | join call stage | expire call stage =>
    exact .inr (.inr ⟨_, _, .returned, call, .inr (by rw [stage]; decide), by decide, rfl⟩)

/-- A call after a step has been there before or has been made by it. -/
lemma Goes.call_of (step : Goes p c a c') {k' : Call} (mem : k' ∈ c'.calls) :
    Continues c.calls a k' ∨ Begins c k' := by
  rcases step.calls with calls | ⟨k, begins, calls⟩ | ⟨j, k, s, call, own, _, calls⟩
  · rw [calls] at mem
    exact .inl (.of_mem mem)
  · rw [calls] at mem
    rcases List.mem_append.1 mem with mem | new
    · exact .inl (.of_mem mem)
    · exact .inr (List.mem_singleton.1 new ▸ begins)
  · rw [calls] at mem
    exact .inl (.of_setStage call own mem)

/-- A step makes a call only if it begins a stop or a drop. -/
lemma Goes.continues (step : Goes p c a c') (unstopped : a ≠ .stop) (kept : a ≠ .drop) {k' : Call}
    (mem : k' ∈ c'.calls) : Continues c.calls a k' := by
  cases step with
  | stop => exact absurd rfl unstopped
  | drop | dropIdle => exact absurd rfl kept
  | start | refuse | startInVain | reap | within => exact .of_mem mem
  | clear call _ | notifyLast call _ _ | notify call _ _ _ | notifyAgain call _ _ _
  | close call _ | arrive call _ _ =>
    simp only [setStage, log, calls_changeStatus, calls_closeWriteEnd] at mem
    exact .of_setStage call (.inl rfl) mem
  | join call stage | expire call stage =>
    exact .of_setStage call (.inr (by rw [stage]; decide)) mem

/-- A call keeps its number, its target and its handles, and does not go back to its beginning. -/
lemma Goes.call (step : Goes p c a c') {j : Nat} {k : Call} (call : c.calls[j]? = some k) :
    ∃ k', c'.calls[j]? = some k' ∧ k'.target = k.target ∧ k'.holdsHandles = k.holdsHandles ∧
      (k.stage ≠ .clearing → k'.stage ≠ .clearing) := by
  rcases step.calls with calls | ⟨_, _, calls⟩ | ⟨n, _, s, _, _, later, calls⟩
  · exact ⟨k, by rw [calls, call], rfl, rfl, id⟩
  · have bound := (List.getElem?_eq_some_iff.1 call).1
    exact ⟨k, by rw [calls, List.getElem?_append_left bound, call], rfl, rfl, id⟩
  · by_cases same : n = j
    · subst same
      exact ⟨{ k with stage := s }, by rw [calls, List.getElem?_modify_eq, call]; rfl, rfl, rfl,
        fun _ => later⟩
    · exact ⟨k, by rw [calls, List.getElem?_modify_ne _ _ same, call], rfl, rfl, id⟩

/-- A pump is not going on before its first run, whatever is done to it. -/
lemma Goes.idle (step : Goes p c a c') (idle : c.idle.running = false) :
    c'.idle.running = false := by
  have keeps {target : Option Nat} {f : Status → Status}
      (off : ∀ s : Status, s.running = false → (f s).running = false) :
      (c.changeStatus target f).idle.running = false := by
    cases target with
    | none => exact off _ idle
    | some i => exact idle
  cases step with
  | clear call _ => exact keeps fun s _ => rfl
  | notifyLast call _ _ | notify call _ _ _ | notifyAgain call _ _ _ => exact keeps fun s off => off
  | close call _ =>
    simp only [setStage, idle_closeWriteEnd]
    exact idle
  | _ => exact idle

namespace Sound

/-- A pump that was just made is sound. -/
lemma empty : Sound {} where
  target _ mem := by cases mem
  told _ mem := by cases mem
  latest _ _ run := by cases run
  idle := rfl

/-- What has been told to stop stays so, also before the first run. -/
lemma off_of (sound : c.Sound) (step : Goes p c a c') {target : Option Nat}
    (valid : ∀ i, target = some i → i < c.runs.length)
    (off : (c.statusOf target).running = false) : (c'.statusOf target).running = false := by
  cases target with
  | none => exact step.idle off
  | some i =>
    have bound := valid i rfl
    have run : c.runs[i]? = some c.runs[i] := List.getElem?_eq_getElem bound
    simp only [statusOf, run, Option.map_some, Option.getD_some] at off
    have aff := sound.affects step
    obtain ⟨r', run', _⟩ := aff.run run
    simpa [statusOf, run'] using aff.off run run' off

/-- A step of a call that has not cleared the running flag yet clears it. -/
lemma off_of_clearing (sound : c.Sound) {j : Nat} (step : Goes p c (.advance j) c') {k : Call}
    (call : c.calls[j]? = some k) (stage : k.stage = .clearing) :
    (c'.statusOf k.target).running = false := by
  cases target : k.target with
  | none => exact step.idle sound.idle
  | some i =>
    have bound := sound.target k (List.mem_of_getElem? call) i target
    have run : c.runs[i]? = some c.runs[i] := List.getElem?_eq_getElem bound
    have own : c.moveOf i (.advance j) = some .clear := by
      rw [moveOf_advance call, if_pos target, stage]
      rfl
    obtain ⟨r', run', ⟨none, _⟩ | ⟨m, own', step'⟩⟩ := (sound.affects step).run run
    · rw [own] at none
      cases none
    · rw [own] at own'
      cases own'
      cases step'
      simp [statusOf, run']
      rfl

/-- The target of a new call is a run that there is. -/
lemma latest_lt {i : Nat} (latest : c.latest = some i) : i < c.runs.length := by
  unfold Control.latest at latest
  split at latest
  · cases latest
  · next some_ =>
    cases latest
    have := List.length_pos_iff.2 (by simpa using some_)
    omega

/-- A step leaves a pump sound. -/
theorem goes (sound : c.Sound) (step : Goes p c a c') : c'.Sound where
  target k' mem i target := by
    have aff := sound.affects step
    rcases step.call_of mem with ⟨j, k, call, same, _⟩ | new
    · exact Nat.lt_of_lt_of_le
        (sound.target k (List.mem_of_getElem? call) i (same.trans target)) aff.length_le
    · rw [new.target] at target
      exact Nat.lt_of_lt_of_le (latest_lt target) aff.length_le
  told k' mem later := by
    rcases step.call_of mem with ⟨j, k, call, same, _, first⟩ | new
    · rw [← same]
      -- The call makes its first step now, or has made it before.
      by_cases clearing : k.stage = .clearing
      · rcases first clearing with rfl | rfl
        · exact absurd clearing later
        · exact sound.off_of_clearing step call clearing
      · have mem := List.mem_of_getElem? call
        exact sound.off_of step (sound.target k mem) (sound.told k mem clearing)
    · rw [new.target]
      exact sound.off_of step (fun _ => latest_lt) (new.stage later)
  latest i r' run' on := by
    have aff := sound.affects step
    cases run : c.runs[i]? with
    | none =>
      obtain ⟨rfl, _, rfl, _⟩ := aff.run_of_absent run run'
      cases aff with
      | start _ _ runs => simp [runs]
      | move own => cases own
      | keep _ runs =>
        rw [runs, run] at run'
        cases run'
    | some r =>
      have on' : r.status.running = true := by
        cases off : r.status.running with
        | true => rfl
        | false =>
          rw [aff.off run run' off] at on
          cases on
      -- No run can have been started behind one that is going on.
      have last := sound.latest i r run on'
      cases aff with
      | start _ off _ =>
        rw [status_eq run last, on'] at off
        cases off
      | move _ _ _ runs => rw [last, runs, List.length_set]
      | keep _ runs => rw [last, runs]
  idle := step.idle sound.idle

/-- A pump stays sound, whatever steps are made. -/
theorem steps (sound : c.Sound) {as : List Action} (steps : c.steps p as = some c') :
    c'.Sound := by
  induction as generalizing c with
  | nil =>
    cases steps
    exact sound
  | cons a as ih =>
    obtain ⟨d, step, steps⟩ := Option.bind_eq_some_iff.1 steps
    exact ih (sound.goes (.of_step step)) steps

/-- Every pump that can come about is sound. -/
theorem of_steps {as : List Action} (steps : ({} : Control).steps p as = some c) : c.Sound :=
  Sound.empty.steps steps

end Sound

end StreamRelay.Control
