import StreamRelay.Proofs.Pump.Workers
import StreamRelay.Proofs.Run.Finality

/-!
# What a stop comes to

A stop can be made at any time, and always returns. It leaves a pump that is not running, an outcome
that was there already is as it was, and a second stop finds nothing to do. Runs that are started
afterwards know nothing of it.

Main statement: this holds of every stop at every pump that is not dropped (`rests_of_steps`).
-/

namespace StreamRelay

/-- A status that is told to stop keeps its outcome. -/
lemma Status.sameOutcome_markStopped (s : Status) : s.SameOutcome s.markStopped :=
  ⟨rfl, rfl, rfl, rfl⟩

/-- A status that gets the stop signal keeps its outcome. -/
lemma Status.sameOutcome_notify (s : Status) : s.SameOutcome s.notify := ⟨rfl, rfl, rfl, rfl⟩

namespace Run

variable {t : Task} {h : History} {r s : Run} {m : Move} {e : Exit}

/-- A worker that is done stays so. -/
lemma Goes.isOver (step : Goes t r m s) (isOver : r.phase.isOver = true) :
    s.phase.isOver = true := by
  cases busy : s.phase.isOver with
  | true => rfl
  | false =>
    rw [step.isOver_of busy] at isOver
    cases isOver

/-- An exit is recorded by a worker that settles. -/
lemma Orderly.isSettled (ord : Orderly h r) (recorded : r.status.exit = some e) :
    r.phase.isSettled = true := by
  cases early : r.phase.isSettled with
  | true => rfl
  | false =>
    rw [ord.unset early] at recorded
    cases recorded

end Run

/-- Whether a step is one of the call with the number `n`. -/
def Action.IsOf (n : Nat) : Action → Prop
  | .advance i | .join i _ | .expire i => i = n
  | _ => False

/-- How many steps a call has still to make at most. -/
def Stage.toGo : Stage → Nat
  | .clearing => 4
  | .notifying => 3
  | .closing => 2
  | .waiting => 1
  | .returned => 0

namespace Control

attribute [local simp] log setStage

variable {p : Pump} {c c' d e : Control} {a : Action} {as bs : List Action} {i j n : Nat} {k : Call}
  {r : Run}

/-- Pumps with as many runs have the same latest run. -/
lemma latest_congr (length : d.runs.length = c.runs.length) : d.latest = c.latest := by
  simp only [latest, List.isEmpty_iff_length_eq_zero, length]

/-- The status of a pump is that of its runs and of the time before them. -/
lemma status_congr (runs : d.runs = c.runs) (idle : d.idle = c.idle) : d.status = c.status := by
  simp only [status, latest, statusOf, runs, idle]

/-! ## What is left alone where no run is started -/

/-- What a pump `d` has in common with the pump `c` that it was before some steps none of which
starts a run or drops the pump. -/
structure Keeps (c d : Control) : Prop where
  length : d.runs.length = c.runs.length
  dropped : d.dropped = c.dropped
  hasHandles : c.hasHandles = false → d.hasHandles = false

namespace Keeps

/-- A pump has everything in common with itself. -/
lemma refl (c : Control) : Keeps c c := ⟨rfl, rfl, id⟩

/-- What a pump keeps through some steps and then through others it keeps through all of them. -/
lemma trans (keeps : Keeps c d) (keeps' : Keeps d e) : Keeps c e where
  length := keeps'.length.trans keeps.length
  dropped := keeps'.dropped.trans keeps.dropped
  hasHandles gone := keeps'.hasHandles (keeps.hasHandles gone)

/-- No run comes about where none is started. -/
lemma runs_eq_nil (keeps : Keeps c d) (none_ : c.runs = []) : d.runs = [] := by
  rw [← List.length_eq_zero_iff, keeps.length, none_]
  rfl

end Keeps

/-- A step that neither starts nor drops the pump leaves the number of runs alone, and no handles
come about. -/
lemma Goes.keeps (sound : c.Sound) (step : Goes p c a c') (unstarted : a ≠ .start)
    (kept : a ≠ .drop) : Keeps c c' where
  length := by
    cases sound.affects step with
    | start first => exact absurd first unstarted
    | move _ _ _ runs => rw [runs, List.length_set]
    | keep _ runs => rw [runs]
  dropped := by
    cases step with
    | start | refuse => exact absurd rfl unstarted
    | drop | dropIdle => exact absurd rfl kept
    | startInVain | reap | stop | join | expire | within => rfl
    | clear | notifyLast | notify | notifyAgain | close | arrive => simp
  hasHandles gone := by
    cases step with
    | start | refuse => exact absurd rfl unstarted
    | startInVain | reap | stop | drop | dropIdle => rfl
    | join | expire | within => exact gone
    | clear | notifyLast | notify | notifyAgain | close | arrive => simpa using gone

/-- Steps that neither start nor drop the pump leave as much alone. -/
lemma Sound.keeps (sound : c.Sound) (steps : c.steps p as = some d) (unstarted : .start ∉ as)
    (kept : .drop ∉ as) : Keeps c d := by
  induction as generalizing c with
  | nil =>
    cases steps
    exact .refl _
  | cons a as ih =>
    obtain ⟨c', step, rest⟩ := Option.bind_eq_some_iff.1 steps
    have goes := Goes.of_step step
    rw [List.mem_cons, not_or] at unstarted kept
    have first := goes.keeps sound (Ne.symm unstarted.1) (Ne.symm kept.1)
    exact first.trans (ih (sound.goes goes) rest unstarted.2 kept.2)

/-! ## What is shown of a pump -/

/-- A change that shows no outcome leaves the outcome before the first run alone. -/
lemma idle_changeStatus {f : Status → Status} (blind : ∀ s : Status, s.SameOutcome (f s))
    (target : Option Nat) : c.idle.SameOutcome (c.changeStatus target f).idle := by
  cases target with
  | none => exact blind _
  | some i => exact .refl _

/-- The status of a pump before its first run has no outcome of its own. -/
lemma Goes.sameIdle (step : Goes p c a c') : c.idle.SameOutcome c'.idle := by
  cases step with
  | clear => exact idle_changeStatus Status.sameOutcome_markStopped _
  | notifyLast | notify | notifyAgain => exact idle_changeStatus Status.sameOutcome_notify _
  | close =>
    simp only [setStage, idle_closeWriteEnd]
    exact .refl _
  | _ => exact .refl _

/-- Before the first run no outcome comes about. -/
lemma sameIdle_of_steps (steps : c.steps p as = some d) : c.idle.SameOutcome d.idle := by
  induction as generalizing c with
  | nil =>
    cases steps
    exact .refl _
  | cons a as ih =>
    obtain ⟨c', step, rest⟩ := Option.bind_eq_some_iff.1 steps
    exact (Goes.of_step step).sameIdle.trans (ih rest)

/-- Without a run, the status of a pump is the one that it has before. -/
lemma status_of_nil (none_ : c.runs = []) : c.status = c.idle := by
  simp [status, latest, none_, statusOf]

/-- A pump with runs has a latest one, whose status is that of the pump. -/
lemma exists_latest (some_ : c.runs ≠ []) :
    ∃ i r, i + 1 = c.runs.length ∧ c.runs[i]? = some r ∧ c.latest = some i ∧
      c.status = r.status := by
  have pos := List.length_pos_iff.2 some_
  have last : c.runs.length - 1 + 1 = c.runs.length := by omega
  have run : c.runs[c.runs.length - 1]? = some c.runs[c.runs.length - 1] :=
    List.getElem?_eq_getElem (by omega)
  exact ⟨_, _, last, run, latest_eq last, status_eq run last⟩

/-- The run that was the latest stays so where none is started. -/
lemma Keeps.status_latest (keeps : Keeps c d) (last : i + 1 = c.runs.length)
    (run : d.runs[i]? = some r) : d.status = r.status :=
  status_eq run (last.trans keeps.length.symm)

/-- A status that was changed is shown as such if it is that of the latest run. -/
lemma status_changeStatus (f : Status → Status) :
    (c.changeStatus c.latest f).status = f c.status := by
  by_cases none_ : c.runs = []
  · simp [status, latest, none_, statusOf, changeStatus]
  · obtain ⟨i, r, last, run, latest, status⟩ := exists_latest none_
    have runs := runs_changeStatus run (f := f)
    have bound := (List.getElem?_eq_some_iff.1 run).1
    rw [latest, status]
    exact status_eq (by rw [runs, List.getElem?_set_self bound]) (by rw [runs, List.length_set, last])

/-- What does not depend on the statuses of runs is not touched where these are changed. -/
lemma map_runs_changeStatus {α : Type} (f : Status → Status) (g : Run → α)
    (blind : ∀ r s, g { r with status := s } = g r) (target : Option Nat) :
    (c.changeStatus target f).runs.map g = c.runs.map g := by
  cases target with
  | none => rfl
  | some i =>
    apply List.ext_getElem?
    intro j
    simp only [changeStatus, List.getElem?_map, List.getElem?_modify]
    cases c.runs[j]? with
    | none => rfl
    | some r =>
      simp only [Option.map_eq_map, Option.map_some]
      split
      · rw [blind]
      · rfl

/-- Whether a pump `d` shows callers, readers and workers the same as the pump `c` did. -/
structure Unchanged (c d : Control) : Prop where
  running : d.status.running = c.status.running
  outcome : c.status.SameOutcome d.status
  hasHandles : d.hasHandles = c.hasHandles
  workers : d.runs.map Run.phase = c.runs.map Run.phase
  pipes : d.runs.map Run.pipe = c.runs.map Run.pipe

namespace Unchanged

/-- The latest run is the same where nothing could be seen. -/
lemma latest (same : Unchanged c d) : d.latest = c.latest := by
  have length := congrArg List.length same.workers
  rw [List.length_map, List.length_map] at length
  exact latest_congr length

/-- A status without a running flag can be told to stop again, and calls and what callers are told
are not looked at. -/
lemma changeStatus (same : Unchanged c d) {f : Status → Status}
    (blind : ∀ s : Status, s.SameOutcome (f s)) (off : (f d.status).running = c.status.running)
    {target : Option Nat} (latest : target = d.latest)
    (runs : e.runs = (d.changeStatus target f).runs) (idle : e.idle = (d.changeStatus target f).idle)
    (hasHandles : e.hasHandles = d.hasHandles) : Unchanged c e := by
  subst latest
  have status : e.status = f d.status := by
    rw [← status_changeStatus f]
    exact status_congr runs idle
  exact
    { running := by rw [status, off]
      outcome := by
        rw [status]
        exact same.outcome.trans (blind _)
      hasHandles := hasHandles.trans same.hasHandles
      workers := by rw [runs, map_runs_changeStatus f _ (fun _ _ => rfl), same.workers]
      pipes := by rw [runs, map_runs_changeStatus f _ (fun _ _ => rfl), same.pipes] }

end Unchanged

/-- Whether a stop with the number `n` at a pump without handles has come from the pump `c` to `d`
with nobody else doing anything. -/
structure Repeats (c d : Control) (n : Nat) : Prop where
  unchanged : Unchanged c d
  call : ∃ s, d.calls[n]? = some ⟨c.latest, false, false, s⟩ ∧ s ≠ .closing ∧ s ≠ .waiting

/-- A stop is aimed at the latest run, and takes what handles there are. -/
lemma call_of_stop (step : c.step p .stop = some d) :
    d.calls[c.calls.length]? = some ⟨c.latest, c.hasHandles, false, .clearing⟩ := by
  cases Goes.of_step step with
  | stop => exact List.getElem?_concat_length

namespace Repeats

/-- A stop at a pump without handles has changed nothing when it begins. -/
lemma begin (taken : c.hasHandles = false) (step : c.step p .stop = some d) :
    Repeats c d c.calls.length := by
  have call := call_of_stop step
  rw [taken] at call
  refine ⟨?_, .clearing, call, by decide, by decide⟩
  cases Goes.of_step step with
  | stop => exact ⟨rfl, .refl _, taken.symm, rfl, rfl⟩

/-- The steps of such a stop change nothing. -/
lemma goes (rep : Repeats c d n) (off : c.status.running = false) (step : Goes p d a e)
    (own : a.IsOf n) : Repeats c e n := by
  obtain ⟨same, s, call, early, early'⟩ := rep
  have off' : d.status.running = false := same.running.trans off
  cases step with
  | clear call' stage =>
    cases own
    rw [call] at call'
    cases call'
    refine ⟨?_, .notifying, by simp [call], by decide, by decide⟩
    exact same.changeStatus Status.sameOutcome_markStopped off.symm same.latest.symm rfl rfl
      (by simp)
  | notifyLast call' _ has | notify call' _ _ has =>
    cases own
    rw [call] at call'
    cases call'
    cases has
  | notifyAgain call' =>
    cases own
    rw [call] at call'
    cases call'
    refine ⟨?_, .returned, by simp [call], by decide, by decide⟩
    exact same.changeStatus Status.sameOutcome_notify (off'.trans off.symm) same.latest.symm rfl
      rfl (by simp)
  | close call' stage =>
    cases own
    rw [call] at call'
    cases call'
    exact absurd stage early
  | arrive call' stage | join call' stage | expire call' stage =>
    -- A call that has taken no handles waits for nobody.
    cases own
    rw [call] at call'
    cases call'
    exact absurd stage early'
  | _ => cases own

/-- All steps of such a stop change nothing. -/
lemma steps (rep : Repeats c d n) (off : c.status.running = false)
    (own : ∀ a ∈ as, a.IsOf n) (steps : d.steps p as = some e) : Repeats c e n := by
  induction as generalizing d with
  | nil =>
    cases steps
    exact rep
  | cons a as ih =>
    obtain ⟨d', step, rest⟩ := Option.bind_eq_some_iff.1 steps
    exact ih (rep.goes off (.of_step step) (own a List.mem_cons_self))
      (fun b mem => own b (List.mem_cons_of_mem _ mem)) rest

end Repeats

/-! ## How a call comes to its end -/

/-- A call that has not returned can go on by itself, since it need not wait for ever. -/
lemma exists_next (p : Pump) (call : c.calls[n]? = some k) (busy : k.stage ≠ .returned) :
    ∃ a c' s, (a = .advance n ∨ a = .expire n) ∧ Goes p c a c' ∧
      c'.calls[n]? = some { k with stage := s } ∧ s.toGo < k.stage.toGo := by
  cases stage : k.stage with
  | clearing =>
    exact ⟨_, _, .notifying, .inl rfl, .clear call stage, by simp [call], by decide⟩
  | notifying =>
    cases drops : k.drops with
    | true =>
      exact ⟨_, _, .returned, .inl rfl, .notifyLast call stage drops, by simp [call, drops],
        by decide⟩
    | false =>
      cases holds : k.holdsHandles with
      | true =>
        exact ⟨_, _, .closing, .inl rfl, .notify call stage drops holds,
          by simp [call, drops, holds], by decide⟩
      | false =>
        exact ⟨_, _, .returned, .inl rfl, .notifyAgain call stage drops holds,
          by simp [call, drops, holds], by decide⟩
  | closing => exact ⟨_, _, .waiting, .inl rfl, .close call stage, by simp [call], by decide⟩
  | waiting => exact ⟨_, _, .returned, .inr rfl, .expire call stage, by simp [call], by decide⟩
  | returned => exact absurd stage busy

/-- A call returns with nobody else doing anything. -/
lemma exists_return (p : Pump) (call : c.calls[n]? = some k) :
    ∃ as d, (∀ a ∈ as, a = .advance n ∨ a = .expire n) ∧ c.steps p as = some d ∧
      d.calls[n]? = some { k with stage := .returned } := by
  induction toGo : k.stage.toGo using Nat.strongRecOn generalizing c k with
  | _ m ih =>
    by_cases busy : k.stage = .returned
    · refine ⟨[], c, by simp, rfl, ?_⟩
      rw [call, ← busy]
    · obtain ⟨a, c', s, own, goes, call', less⟩ := exists_next p call busy
      obtain ⟨as, d, owns, steps, returned⟩ := ih _ (toGo ▸ less) call' rfl
      refine ⟨a :: as, d, ?_, ?_, returned⟩
      · intro b mem
        rcases List.mem_cons.1 mem with rfl | mem
        · exact own
        · exact owns b mem
      · simp only [Control.steps, goes.step, Option.bind_some, steps]

/-- A call is aimed at the same run and holds the same handles after any step. -/
lemma Goes.call_stage (step : Goes p c a c') (call : c.calls[n]? = some k) :
    ∃ s, c'.calls[n]? = some { k with stage := s } := by
  rcases step.calls with calls | ⟨_, _, calls⟩ | ⟨m, _, s, _, _, _, calls⟩
  · exact ⟨k.stage, by rw [calls, call]⟩
  · have bound := (List.getElem?_eq_some_iff.1 call).1
    exact ⟨k.stage, by rw [calls, List.getElem?_append_left bound, call]⟩
  · by_cases same : m = n
    · exact ⟨s, by rw [calls, same, List.getElem?_modify_eq, call]; rfl⟩
    · exact ⟨k.stage, by rw [calls, List.getElem?_modify_ne _ _ same, call]⟩

/-- The call that returns when a call is moved on is that call. -/
lemma eq_of_setStage {k' : Call} {s : Stage} (call : c.calls[n]? = some k)
    (call' : (c.calls.modify j (fun k => { k with stage := s }))[n]? = some k')
    (busy : k.stage ≠ .returned) (returned : k'.stage = .returned) :
    j = n ∧ s = .returned := by
  by_cases same : j = n
  · subst same
    rw [List.getElem?_modify_eq, call] at call'
    cases call'
    exact ⟨rfl, returned⟩
  · rw [List.getElem?_modify_ne _ _ same, call] at call'
    cases call'
    exact absurd returned busy

/-- A worker that has panicked, as far as can be told, is done. -/
lemma isOver_of_hasFallen {target : Option Nat} (fallen : c.hasFallen target = true) :
    c.isOver target = true := by
  cases target with
  | none => cases fallen
  | some i =>
    simp only [hasFallen, Control.isOver] at fallen ⊢
    cases run : c.runs[i]? with
    | none => rfl
    | some r =>
      rw [run, Option.map_some, Option.getD_some, Bool.and_eq_true] at fallen
      exact fallen.1

/-- A call that returns has nothing to wait for, finds its worker done, or has waited for as long as
it may. -/
lemma Goes.returns (step : Goes p c a c') {k' : Call} (call : c.calls[n]? = some k)
    (call' : c'.calls[n]? = some k') (busy : k.stage ≠ .returned)
    (returned : k'.stage = .returned) :
    k.drops = true ∨ k.holdsHandles = false ∨ c.isOver k.target = true ∨ a = .expire n := by
  have bound := (List.getElem?_eq_some_iff.1 call).1
  cases step with
  | start | refuse | startInVain | reap | within =>
    cases Option.some.inj (call'.symm.trans call)
    exact absurd returned busy
  | stop | drop | dropIdle =>
    rw [List.getElem?_append_left bound, call] at call'
    cases call'
    exact absurd returned busy
  | clear | notify | close =>
    simp only [setStage, log, calls_changeStatus, calls_closeWriteEnd] at call'
    cases (eq_of_setStage call call' busy returned).2
  | notifyLast own _ drops =>
    simp only [setStage, calls_changeStatus] at call'
    obtain ⟨rfl, _⟩ := eq_of_setStage call call' busy returned
    rw [call] at own
    cases own
    exact .inl drops
  | notifyAgain own _ _ misses =>
    simp only [setStage, log, calls_changeStatus] at call'
    obtain ⟨rfl, _⟩ := eq_of_setStage call call' busy returned
    rw [call] at own
    cases own
    exact .inr (.inl misses)
  | arrive own _ ended =>
    obtain ⟨rfl, _⟩ := eq_of_setStage call call' busy returned
    rw [call] at own
    cases own
    exact .inr (.inr (.inl ended))
  | join own _ fallen =>
    obtain ⟨rfl, _⟩ := eq_of_setStage call call' busy returned
    rw [call] at own
    cases own
    exact .inr (.inr (.inl (isOver_of_hasFallen fallen)))
  | expire own =>
    obtain ⟨rfl, _⟩ := eq_of_setStage call call' busy returned
    exact .inr (.inr (.inr rfl))

/-- Whether the call with the number `n` waits for the worker of the run `i`. -/
structure Awaits (c : Control) (n i : Nat) : Prop where
  call : ∃ s, c.calls[n]? = some ⟨some i, true, false, s⟩
  isOver : ∀ k, c.calls[n]? = some k → k.stage = .returned → c.isOver (some i) = true

/-- Such a call does not return before that worker is done, unless it has waited for as long as it
may. -/
lemma Awaits.goes (awaits : c.Awaits n i) (sound : c.Sound) (step : Goes p c a c')
    (patient : a ≠ .expire n) : c'.Awaits n i := by
  obtain ⟨⟨s, call⟩, isOver⟩ := awaits
  obtain ⟨s', call'⟩ := step.call_stage call
  refine ⟨⟨s', call'⟩, fun k' call'' returned => ?_⟩
  rw [call'] at call''
  cases call''
  have ended : c.isOver (some i) = true := by
    by_cases busy : s = .returned
    · exact isOver _ call busy
    · rcases step.returns call call' busy returned with drops | misses | ended | expires
      · cases drops
      · cases misses
      · exact ended
      · exact absurd expires patient
  have bound := sound.target _ (List.mem_of_getElem? call) i rfl
  have run : c.runs[i]? = some c.runs[i] := List.getElem?_eq_getElem bound
  obtain ⟨r', run', moved⟩ := (sound.affects step).run run
  simp only [Control.isOver, run, Option.map_some, Option.getD_some] at ended
  simp only [Control.isOver, run', Option.map_some, Option.getD_some]
  rcases moved with ⟨_, rfl⟩ | ⟨m, _, move⟩
  · exact ended
  · exact (Run.Goes.of_step move).isOver ended

/-- Such a call does not return before that worker is done while its patience lasts. -/
lemma Awaits.steps (awaits : c.Awaits n i) (sound : c.Sound) (patient : .expire n ∉ as)
    (steps : c.steps p as = some d) : d.Awaits n i := by
  induction as generalizing c with
  | nil =>
    cases steps
    exact awaits
  | cons a as ih =>
    obtain ⟨c', step, rest⟩ := Option.bind_eq_some_iff.1 steps
    have goes := Goes.of_step step
    rw [List.mem_cons, not_or] at patient
    exact ih (awaits.goes sound goes (Ne.symm patient.1)) (sound.goes goes) patient.2 rest

/-! ## What earlier calls can do to a run -/

/-- A call acts upon the run that it is aimed at, and others do not ask a run to stop. -/
lemma Goes.isRequest (step : Goes p c a c') (spared : ∀ k ∈ c.calls, k.target ≠ some i) {m : Move}
    (own : c.moveOf i a = some m) : m.isRequest = false := by
  cases a with
  | within j m' =>
    cases step with
    | within others =>
      simp only [moveOf] at own
      split at own
      · cases own
        exact others
      · cases own
  | advance j =>
    obtain ⟨k, call, own⟩ := Option.bind_eq_some_iff.1 own
    rw [if_neg (spared k (List.mem_of_getElem? call))] at own
    cases own
  | start | startInVain | reap _ | stop | drop | join _ _ | expire _ => cases own

/-- A run that no call is aimed at is asked to stop by nobody as long as no call is made. -/
lemma isRequest_of_steps (steps : c.steps p as = some d) (unstopped : .stop ∉ as)
    (kept : .drop ∉ as) (spared : ∀ k ∈ c.calls, k.target ≠ some i) :
    ∀ m ∈ c.movesOf p i as, m.isRequest = false := by
  induction as generalizing c with
  | nil => simp [movesOf]
  | cons a as ih =>
    obtain ⟨c', step, rest⟩ := Option.bind_eq_some_iff.1 steps
    have goes := Goes.of_step step
    rw [List.mem_cons, not_or] at unstopped kept
    rw [movesOf_cons step]
    intro m mem
    rcases List.mem_append.1 mem with now | later
    · exact goes.isRequest spared (Option.mem_toList.1 now)
    · refine ih rest unstopped.2 kept.2 ?_ m later
      intro k' mem'
      obtain ⟨j, k, call, same, _⟩ := goes.continues (Ne.symm unstopped.1) (Ne.symm kept.1) mem'
      rw [← same]
      exact spared k (List.mem_of_getElem? call)

/-- A pump has handles only of a run that it has started. -/
lemma Sound.handled (sound : c.Sound) (handled : c.hasHandles = true → c.runs ≠ [])
    (steps : c.steps p as = some d) : d.hasHandles = true → d.runs ≠ [] := by
  induction as generalizing c with
  | nil =>
    cases steps
    exact handled
  | cons a as ih =>
    obtain ⟨c', step, rest⟩ := Option.bind_eq_some_iff.1 steps
    have goes := Goes.of_step step
    refine ih (sound.goes goes) (fun has => ?_) rest
    rcases Traced.of_hasHandles goes has with ⟨runs, _⟩ | ⟨has, _⟩
    · simp [runs]
    · have grows := (sound.affects goes).length_le
      exact List.length_pos_iff.1 (Nat.lt_of_lt_of_le (List.length_pos_iff.2 (handled has)) grows)

/-! ## What a stop comes to -/

/-- Whether a stop that begins at `c` has returned at `d`. Meanwhile the steps `as` are made, by the
stop and by others; nobody starts or drops the pump. -/
structure Stopped (p : Pump) (c : Control) (as : List Action) (d : Control) : Prop where
  steps : c.steps p (.stop :: as) = some d
  unstarted : .start ∉ as
  kept : .drop ∉ as
  returned : ∃ k, d.calls[c.calls.length]? = some k ∧ k.stage = .returned

/-- What a stop that begins at `c` and goes by the steps `as` has come to at `d`. -/
structure Rests (p : Pump) (c : Control) (as : List Action) (d : Control) : Prop where
  /-- The pump is not running. -/
  off : d.status.running = false
  /-- An outcome that was there already is as it was, -/
  ended : ∀ e, c.status.exit = some e → c.status.SameOutcome d.status
  /-- and before the first run there is none. -/
  before : c.runs = [] → Status.idle.SameOutcome d.status
  /-- A stop that has waited for a worker leaves an exit and a closed write end. -/
  settled : c.hasHandles = true → .expire c.calls.length ∉ as →
    ∃ i r, c.latest = some i ∧ d.runs[i]? = some r ∧ (∃ e, r.status.exit = some e) ∧
      r.pipe.closed = true
  /-- A second stop returns as well if nobody else does anything, -/
  again : ∃ bs e, (∀ a ∈ bs, a = .advance d.calls.length ∨ a = .expire d.calls.length) ∧
    Stopped p d bs e
  /-- and changes nothing that could be seen. -/
  unchanged : ∀ bs e, (∀ a ∈ bs, a.IsOf d.calls.length) → d.steps p (.stop :: bs) = some e →
    Unchanged d e
  /-- The pump can be started again, and the new run is not stopped by any stop so far. -/
  next : ∃ d', d.start p = some (.ok d') ∧ d'.status = .fresh ∧
    ∀ bs e r, .stop ∉ bs → .drop ∉ bs → d'.steps p bs = some e → e.runs[d.runs.length]? = some r →
      (∀ m ∈ d'.movesOf p d.runs.length bs, m.isRequest = false) ∧ r.status.exit ≠ some .stopped

/-- A pump that is not dropped can be stopped, with nobody else doing anything. -/
lemma exists_stopped (p : Pump) (kept : c.dropped = false) :
    ∃ as d, (∀ a ∈ as, a = .advance c.calls.length ∨ a = .expire c.calls.length) ∧
      Stopped p c as d := by
  have step := (Goes.stop kept : Goes p c .stop _).step
  obtain ⟨as, d, own, steps, returned⟩ := exists_return p (call_of_stop step)
  refine ⟨as, d, own, ⟨?_, ?_, ?_, _, returned, rfl⟩⟩
  · simp only [Control.steps, step, Option.bind_some, steps]
  · intro mem
    rcases own _ mem with bad | bad <;> cases bad
  · intro mem
    rcases own _ mem with bad | bad <;> cases bad

namespace Stopped

variable {hist : List Action} (stopped : Stopped p c as d)
include stopped

/-- Where a stop has returned has been reached from a new pump. -/
lemma reached (steps : ({} : Control).steps p hist = some c) :
    ({} : Control).steps p (hist ++ .stop :: as) = some d := by
  rw [steps_append, steps]
  exact stopped.steps

/-- A stop leaves alone what is left alone where no run is started. -/
lemma keeps (sound : c.Sound) : Keeps c d := by
  apply sound.keeps stopped.steps
  · simpa using stopped.unstarted
  · simpa using stopped.kept

/-- After a stop, no handles are with the pump. -/
lemma taken (sound : c.Sound) : d.hasHandles = false := by
  obtain ⟨c₁, step, rest⟩ := Option.bind_eq_some_iff.1 stopped.steps
  have goes := Goes.of_step step
  have keeps := (sound.goes goes).keeps rest stopped.unstarted stopped.kept
  apply keeps.hasHandles
  cases goes with
  | stop => rfl

/-- Whoever stops a pump clears its running flag, which nobody sets again. -/
lemma off (sound : c.Sound) : d.status.running = false := by
  obtain ⟨k, call, returned⟩ := stopped.returned
  obtain ⟨c₁, step, rest⟩ := Option.bind_eq_some_iff.1 stopped.steps
  obtain ⟨k', call', target, _⟩ := call_of_steps rest (call_of_stop step)
  rw [call] at call'
  cases call'
  have told := (sound.steps stopped.steps).told k (List.mem_of_getElem? call)
    (by rw [returned]; decide)
  rw [target] at told
  rw [status, latest_congr (stopped.keeps sound).length]
  exact told

/-- A worker that has settled has nothing to add to the outcome. -/
lemma ended (steps : ({} : Control).steps p hist = some c) {e : Exit}
    (recorded : c.status.exit = some e) : c.status.SameOutcome d.status := by
  have sound := Sound.of_steps steps
  have keeps := stopped.keeps sound
  by_cases none_ : c.runs = []
  · rw [status_of_nil none_, status_of_nil (keeps.runs_eq_nil none_)]
    exact sameIdle_of_steps stopped.steps
  · obtain ⟨i, r, last, run, _, status⟩ := exists_latest none_
    obtain ⟨s, run', moves⟩ := sound.steps_run stopped.steps run
    rw [status] at recorded
    rw [status, keeps.status_latest last run']
    have settled := (Run.Orderly.of_leads (leads_of_steps steps run)).isSettled recorded
    exact Run.sameOutcome_of_isSettled settled moves

/-- A stop that has waited for a worker finds it done. -/
lemma settled (steps : ({} : Control).steps p hist = some c) (has : c.hasHandles = true)
    (patient : .expire c.calls.length ∉ as) :
    ∃ i r, c.latest = some i ∧ d.runs[i]? = some r ∧ (∃ e, r.status.exit = some e) ∧
      r.pipe.closed = true := by
  have sound := Sound.of_steps steps
  have some_ := Sound.empty.handled (fun has => by cases has) steps has
  obtain ⟨i, r, _, run, latest, _⟩ := exists_latest some_
  obtain ⟨c₁, step, rest⟩ := Option.bind_eq_some_iff.1 stopped.steps
  have goes := Goes.of_step step
  have call := call_of_stop step
  rw [latest, has] at call
  have awaits : c₁.Awaits c.calls.length i := by
    refine ⟨⟨_, call⟩, fun k call' returned => ?_⟩
    rw [call] at call'
    cases call'
    cases returned
  obtain ⟨k, call', returned⟩ := stopped.returned
  have ended := (awaits.steps (sound.goes goes) patient rest).isOver k call' returned
  obtain ⟨s, run', _⟩ := sound.steps_run stopped.steps run
  simp only [Control.isOver, run', Option.map_some, Option.getD_some] at ended
  have place := Phase.eq_over ended
  have ends := Run.Ends.of_leads (leads_of_steps (stopped.reached steps) run')
  exact ⟨i, s, latest, run', ends.recorded (by rw [place]; rfl), ends.closed place⟩

/-- The next start is not refused, and no call so far is aimed at the run that it starts. -/
lemma next (steps : ({} : Control).steps p hist = some c) (kept : c.dropped = false) :
    ∃ d', d.start p = some (.ok d') ∧ d'.status = .fresh ∧
      ∀ bs e r, .stop ∉ bs → .drop ∉ bs → d'.steps p bs = some e →
        e.runs[d.runs.length]? = some r →
          (∀ m ∈ d'.movesOf p d.runs.length bs, m.isRequest = false) ∧
            r.status.exit ≠ some .stopped := by
  have sound := Sound.of_steps steps
  have sound' := sound.steps stopped.steps
  have kept' : d.dropped = false := (stopped.keeps sound).dropped.trans kept
  have off := stopped.off sound
  refine ⟨_, by rw [Control.start, if_neg (by simp [kept']), if_neg (by simp [off])], ?_, ?_⟩
  · exact status_eq (r := .fresh) List.getElem?_concat_length (by simp)
  · intro bs e r unstopped undropped more run
    have goes : Goes p d .start _ := .start kept' off
    have spared : ∀ k ∈ d.calls, k.target ≠ some d.runs.length := by
      intro k mem target
      exact Nat.lt_irrefl _ (sound'.target k mem _ target)
    have requests := isRequest_of_steps more unstopped undropped spared
    refine ⟨requests, fun recorded => ?_⟩
    obtain ⟨s, run', moves⟩ := (sound'.goes goes).steps_run more List.getElem?_concat_length
    rw [run] at run'
    cases run'
    -- A run that has stopped was told to, and that by a request.
    have told := ((Run.Leads.of_steps moves).fits recorded).1
    have calm : Move.clear ∉ _ := fun mem => by cases requests _ mem
    rw [Run.history, Run.historyFrom_told calm] at told
    cases told

end Stopped

/-- A stop at a pump that is not dropped always returns, and whenever it returns, nobody could tell
whether the pump has been stopped once or twice. -/
theorem rests_of_steps {hist : List Action} (steps : ({} : Control).steps p hist = some c)
    (kept : c.dropped = false) :
    (∃ as d, (∀ a ∈ as, a = .advance c.calls.length ∨ a = .expire c.calls.length) ∧
      Stopped p c as d) ∧
    ∀ as d, Stopped p c as d → Rests p c as d := by
  have sound := Sound.of_steps steps
  refine ⟨exists_stopped p kept, fun as d stopped => ?_⟩
  have off := stopped.off sound
  have taken := stopped.taken sound
  refine {
    off
    ended := fun e recorded => stopped.ended steps recorded
    before := ?before
    settled := fun has patient => stopped.settled steps has patient
    again := exists_stopped p ((stopped.keeps sound).dropped.trans kept)
    unchanged := ?unchanged
    next := stopped.next steps kept
  }
  case before =>
    intro none_
    rw [status_of_nil ((stopped.keeps sound).runs_eq_nil none_)]
    exact sameIdle_of_steps (stopped.reached steps)
  case unchanged =>
    intro bs e own more
    obtain ⟨d₁, step, rest⟩ := Option.bind_eq_some_iff.1 more
    exact ((Repeats.begin taken step).steps off own rest).unchanged

/-- A stop comes before the worker has read its URL, and waits until the worker is done. -/
def waitedFor : List Action :=
  [.advance 0, .advance 0, .advance 0] ++ List.replicate 7 (.within 0 .work) ++ [.advance 0]

/-- A stop that waits for its worker leaves a run that has stopped. -/
theorem rests_waitedFor :
    ∃ c d, ({} : Control).steps pairwise [.start] = some c ∧ c.dropped = false ∧
      c.hasHandles = true ∧ Stopped pairwise c waitedFor d ∧ d.status.exit = some .stopped ∧
      Rests pairwise c waitedFor d := by
  have started : (({} : Control).steps pairwise [.start]).map
      (fun c => (c.dropped, c.hasHandles, c.calls.length)) = some (false, true, 0) := by
    decide +kernel
  have returned : (({} : Control).steps pairwise ([.start] ++ .stop :: waitedFor)).map
      (fun d => (d.status.exit, d.calls[0]?.map Call.stage)) =
        some (some .stopped, some .returned) := by decide +kernel
  obtain ⟨c, steps, facts⟩ := Option.map_eq_some_iff.1 started
  obtain ⟨kept, has, fresh⟩ : c.dropped = false ∧ c.hasHandles = true ∧ c.calls.length = 0 := by
    simpa using facts
  obtain ⟨d, more, facts⟩ := Option.map_eq_some_iff.1 returned
  obtain ⟨exit, stage⟩ := Prod.mk.inj facts
  obtain ⟨k, call, stage⟩ := Option.map_eq_some_iff.1 stage
  rw [steps_append, steps, Option.bind_some] at more
  have stopped : Stopped pairwise c waitedFor d :=
    ⟨more, by simp [waitedFor], by simp [waitedFor], k, by rw [fresh, call], stage⟩
  exact ⟨c, d, steps, kept, has, stopped, exit, (rests_of_steps steps kept).2 _ _ stopped⟩

end Control

end StreamRelay
