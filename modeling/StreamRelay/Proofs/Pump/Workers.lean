import Mathlib.Data.List.Induction
import StreamRelay.Proofs.Pump.Runs

/-!
# How many workers a pump has

A start looks at the running flag of the latest run, which is cleared before the worker of the run
is done: by the worker itself when it is about to close the write end, or by a stop, which may return
before the worker is done. Such a worker lingers, and a start does not wait for it.

Main statements: at a start that is not refused the workers that are alive are those that linger
(`Traced.lingers`), so that no two workers are ever alive exactly if every start that is not refused
finds none that lingers (`solitary_iff`).
-/

namespace StreamRelay.Control

variable {p : Pump} {c c' d : Control} {a : Action} {as : List Action} {i : Nat}

/-- Whether the worker of the run with this number is not done. -/
def IsAlive (c : Control) (i : Nat) : Prop := ∃ r, c.runs[i]? = some r ∧ r.phase.isOver = false

/-- A worker is alive if it is listed as not done. -/
lemma isAlive_iff : c.IsAlive i ↔ (c.runs.map (·.phase.isOver))[i]? = some false := by
  rw [List.getElem?_map, Option.map_eq_some_iff]
  rfl

/-- Whether a worker is alive after it has cleared the running flag, or after a stop has taken its
handles. -/
def Lingers (c : Control) (i : Nat) : Prop :=
  ∃ r, c.runs[i]? = some r ∧ r.phase.isOver = false ∧
    (r.phase.isLast = true ∨ ∃ k ∈ c.calls, k.target = some i ∧ k.holdsHandles = true)

/-- Whether no two workers are alive. -/
def AtMostOne (c : Control) : Prop := ∀ i j, c.IsAlive i → c.IsAlive j → i = j

/-- Where the handles of the workers are. -/
structure Traced (c : Control) : Prop where
  /-- While the handles of the latest run are there, no call is aimed at it. -/
  untouched : c.hasHandles = true → ∀ k ∈ c.calls, ∀ i, k.target = some i → i + 1 < c.runs.length
  /-- While the handles of the latest run are there, its worker alone clears its running flag. -/
  last : c.hasHandles = true → ∀ i r, c.runs[i]? = some r → i + 1 = c.runs.length →
    r.status.running = false → r.phase.isLast = true
  /-- A worker has its handles with the pump or a call, unless it has cleared the running flag or
  the pump is dropped. -/
  handles : ∀ i r, c.runs[i]? = some r →
    i + 1 = c.runs.length ∧ (c.hasHandles = true ∨ c.dropped = true) ∨
      (∃ k ∈ c.calls, k.target = some i ∧ k.holdsHandles = true) ∨ r.phase.isLast = true

namespace Traced

/-- A pump that was just made has no handles to trace. -/
lemma empty : Traced {} where
  untouched _ _ mem := by cases mem
  last _ _ _ run := by cases run
  handles _ _ run := by cases run

/-- A worker whose handles are with a call, or that has cleared the running flag, stays so. -/
lemma handles_goes (aff : Affects p c a c') (step : Goes p c a c') {r r' : Run}
    (run : c.runs[i]? = some r) (run' : c'.runs[i]? = some r')
    (away : (∃ k ∈ c.calls, k.target = some i ∧ k.holdsHandles = true) ∨ r.phase.isLast = true) :
    (∃ k ∈ c'.calls, k.target = some i ∧ k.holdsHandles = true) ∨ r'.phase.isLast = true := by
  rcases away with ⟨k, mem, target, holds⟩ | last
  · obtain ⟨j, call⟩ := List.getElem?_of_mem mem
    obtain ⟨k', call', same, same', _⟩ := step.call call
    exact .inl ⟨k', List.mem_of_getElem? call', same.trans target, same'.trans holds⟩
  · rcases aff.moved run run' with ⟨_, rfl⟩ | ⟨m, _, move⟩
    · exact .inr last
    · exact .inr ((Run.Goes.of_step move).isLast last)

/-- A step that leaves handles with the pump starts a run, or finds handles there and makes no call.
-/
lemma of_hasHandles (step : Goes p c a c') (has : c'.hasHandles = true) :
    c'.runs = c.runs ++ [Run.fresh] ∧ c'.calls = c.calls ∨
      c.hasHandles = true ∧ ∀ k ∈ c'.calls, Continues c.calls a k := by
  have continues (unstopped : a ≠ .stop) (kept : a ≠ .drop) : ∀ k ∈ c'.calls,
      Continues c.calls a k := fun _ => step.continues unstopped kept
  cases step with
  | start => exact .inl ⟨rfl, rfl⟩
  | startInVain | reap | stop | drop | dropIdle => cases has
  | refuse | within | join | expire => exact .inr ⟨has, continues (by simp) (by simp)⟩
  | clear | notifyLast | notify | notifyAgain | close | arrive =>
    simp only [setStage, log, hasHandles_changeStatus, hasHandles_closeWriteEnd] at has
    exact .inr ⟨has, continues (by simp) (by simp)⟩

/-- A step aims no call at the latest run as long as its handles are there. -/
lemma untouched_goes (traced : c.Traced) (sound : c.Sound) (step : Goes p c a c')
    (has : c'.hasHandles = true) {k : Call} (mem : k ∈ c'.calls) (target : k.target = some i) :
    i + 1 < c'.runs.length := by
  rcases of_hasHandles step has with ⟨runs, calls⟩ | ⟨has, continues⟩
  · rw [calls] at mem
    have bound := sound.target k mem i target
    rw [runs, List.length_append, List.length_singleton]
    omega
  · obtain ⟨j, k', call, same, _⟩ := continues k mem
    have bound := traced.untouched has k' (List.mem_of_getElem? call) i (same.trans target)
    exact Nat.lt_of_lt_of_le bound (sound.affects step).length_le

/-- A step leaves it to the worker of the latest run to clear its running flag as long as its
handles are there. -/
lemma last_goes (traced : c.Traced) (sound : c.Sound) (step : Goes p c a c')
    (has : c'.hasHandles = true) {r' : Run} (run' : c'.runs[i]? = some r')
    (latest : i + 1 = c'.runs.length) (off : r'.status.running = false) :
    r'.phase.isLast = true := by
  have aff := sound.affects step
  cases run : c.runs[i]? with
  | none =>
    obtain ⟨_, _, _, rfl⟩ := aff.run_of_absent run run'
    cases off
  | some r =>
    have bound := (List.getElem?_eq_some_iff.1 run).1
    have grows := aff.length_le
    have before : r.status.running = false → r.phase.isLast = true := by
      rcases of_hasHandles step has with ⟨runs, _⟩ | ⟨has, _⟩
      · rw [runs, List.length_append, List.length_singleton] at latest
        omega
      · exact traced.last has i r run (by omega)
    rcases aff.moved run run' with ⟨_, rfl⟩ | ⟨m, own, move⟩
    · exact before off
    · have goes := Run.Goes.of_step move
      rcases goes.off_of off with off | rfl | place
      · exact goes.isLast (before off)
      · obtain ⟨j, k, _, call, target, _⟩ := step.call_of_clear own
        have bound := traced.untouched_goes sound step has (List.mem_of_getElem? call) target
        omega
      · rw [place]
        rfl

/-- A run whose handles are with the pump has them there after a step, or a call has taken them, or
its worker has cleared the running flag. -/
lemma handles_latest (traced : c.Traced) (step : Goes p c a c') {r r' : Run}
    (run : c.runs[i]? = some r) (run' : c'.runs[i]? = some r') (latest : i + 1 = c.runs.length)
    (here : c.hasHandles = true ∨ c.dropped = true) (length : a ≠ .start →
      c'.runs.length = c.runs.length) :
    i + 1 = c'.runs.length ∧ (c'.hasHandles = true ∨ c'.dropped = true) ∨
      (∃ k ∈ c'.calls, k.target = some i ∧ k.holdsHandles = true) ∨ r'.phase.isLast = true := by
  have has (kept : c.dropped = false) : c.hasHandles = true := by
    rcases here with has | dropped
    · exact has
    · rw [kept] at dropped
      cases dropped
  have closing (kept : c.dropped = false) (off : c.status.running = false) :
      r.phase.isLast = true :=
    traced.last (has kept) i r run latest (status_eq run latest ▸ off)
  cases step with
  | start kept off =>
    have bound := (List.getElem?_eq_some_iff.1 run).1
    simp only [log] at run'
    rw [List.getElem?_append_left bound, run] at run'
    cases run'
    -- The handles are given up, but their worker has cleared the running flag by itself.
    exact .inr (.inr (closing kept off))
  | refuse => exact .inl ⟨latest, here⟩
  | startInVain kept off | reap kept off =>
    simp only [log] at run'
    rw [run] at run'
    cases run'
    exact .inr (.inr (closing kept off))
  | stop kept =>
    exact .inr (.inl ⟨_, List.mem_append_right _ (List.mem_singleton_self _), latest_eq latest,
      has kept⟩)
  | drop | dropIdle => exact .inl ⟨latest, .inr rfl⟩
  | clear | notifyLast | notify | notifyAgain | close | arrive | join | expire | within =>
    refine .inl ⟨latest.trans (length ?_).symm, ?_⟩
    · intro first
      cases first
    · simpa [setStage, log] using here

/-- A step leaves the handles where they can be traced. -/
theorem goes (traced : c.Traced) (sound : c.Sound) (step : Goes p c a c') : c'.Traced where
  untouched has _ mem _ target := traced.untouched_goes sound step has mem target
  last has _ _ run' latest off := traced.last_goes sound step has run' latest off
  handles i r' run' := by
    have aff := sound.affects step
    cases run : c.runs[i]? with
    | none =>
      obtain ⟨rfl, off, rfl, _⟩ := aff.run_of_absent run run'
      cases step with
      | start => exact .inl ⟨by simp [log], .inl rfl⟩
      | refuse _ on =>
        rw [off] at on
        cases on
    | some r =>
      rcases traced.handles i r run with ⟨latest, here⟩ | away
      · apply traced.handles_latest step run run' latest here
        intro other
        cases aff with
        | start first => exact absurd first other
        | move _ _ _ runs => rw [runs, List.length_set]
        | keep _ runs => rw [runs]
      · exact .inr (handles_goes aff step run run' away)

/-- The handles can be traced, whatever steps are made. -/
theorem steps (traced : c.Traced) (sound : c.Sound) (steps : c.steps p as = some c') :
    c'.Traced := by
  induction as generalizing c with
  | nil =>
    cases steps
    exact traced
  | cons a as ih =>
    obtain ⟨d, step, rest⟩ := Option.bind_eq_some_iff.1 steps
    have goes := Goes.of_step step
    exact ih (traced.goes sound goes) (sound.goes goes) rest

/-- The handles can be traced in every pump that can come about. -/
theorem of_steps (steps : ({} : Control).steps p as = some c) : c.Traced :=
  Traced.empty.steps .empty steps

/-- At a start that is not refused, every worker that is alive lingers. -/
theorem lingers (traced : c.Traced) (kept : c.dropped = false) (off : c.status.running = false)
    (alive : c.IsAlive i) : c.Lingers i := by
  obtain ⟨r, run, busy⟩ := alive
  refine ⟨r, run, busy, ?_⟩
  rcases traced.handles i r run with ⟨latest, has | dropped⟩ | called | last
  · exact .inl (traced.last has i r run latest (status_eq run latest ▸ off))
  · rw [kept] at dropped
    cases dropped
  · exact .inr called
  · exact .inl last

end Traced

/-- A worker that lingers is alive. -/
lemma Lingers.isAlive (lingers : c.Lingers i) : c.IsAlive i := by
  obtain ⟨r, run, busy, _⟩ := lingers
  exact ⟨r, run, busy⟩

/-- A worker that is done stays so, so that a worker is alive only if it was before or is started.
-/
lemma IsAlive.of_affects (aff : Affects p c a c') (alive : c'.IsAlive i) :
    c.IsAlive i ∨ a = .start ∧ c.status.running = false ∧ i = c.runs.length := by
  obtain ⟨r', run', busy⟩ := alive
  cases run : c.runs[i]? with
  | none =>
    obtain ⟨first, off, rfl, _⟩ := aff.run_of_absent run run'
    exact .inr ⟨first, off, rfl⟩
  | some r =>
    refine .inl ⟨r, run, ?_⟩
    rcases aff.moved run run' with ⟨_, rfl⟩ | ⟨m, _, move⟩
    · exact busy
    · exact (Run.Goes.of_step move).isOver_of busy

/-- At a start that is not refused, the new worker is alone exactly if none lingers. -/
theorem Traced.atMostOne_start (traced : c.Traced) (sound : c.Sound)
    (step : Goes p c .start c') (off : c.status.running = false) :
    c'.AtMostOne ↔ ∀ i, ¬ c.Lingers i := by
  cases step with
  | refuse _ on =>
    rw [off] at on
    cases on
  | start kept =>
    constructor
    · intro alone i lingers
      obtain ⟨r, run, busy⟩ := lingers.isAlive
      have bound := (List.getElem?_eq_some_iff.1 run).1
      have old : c.runs.length = i := by
        refine alone _ _ ⟨Run.fresh, ?_, rfl⟩ ⟨r, ?_, busy⟩
        · simp [log]
        · simp only [log]
          rw [List.getElem?_append_left bound, run]
      omega
    · intro free
      -- An earlier worker that is alive would linger.
      have aff := sound.affects (p := p) (.start kept off)
      have new {i : Nat} (alive : ({ c with runs := c.runs ++ [Run.fresh], hasHandles := true }.log
          .started).IsAlive i) : i = c.runs.length := by
        rcases alive.of_affects aff with alive | ⟨_, _, new⟩
        · exact absurd (traced.lingers kept off alive) (free i)
        · exact new
      intro i j alive alive'
      exact (new alive).trans (new alive').symm

/-- A step that starts no run leaves at most one worker alive where there was at most one. -/
lemma AtMostOne.of_affects (alone : c.AtMostOne) (aff : Affects p c a c')
    (old : a = .start → c.status.running = true) : c'.AtMostOne := by
  have before {i : Nat} (alive : c'.IsAlive i) : c.IsAlive i := by
    rcases alive.of_affects aff with alive | ⟨first, off, _⟩
    · exact alive
    · rw [old first] at off
      cases off
  intro i j alive alive'
  exact alone i j (before alive) (before alive')

/-- Steps that can be made can be made up to any of them. -/
lemma exists_steps_of_isPrefix {bs : List Action} (steps : c.steps p as = some d)
    (first : bs <+: as) : ∃ d', c.steps p bs = some d' := by
  obtain ⟨rest, rfl⟩ := first
  rw [steps_append] at steps
  obtain ⟨d', steps, _⟩ := Option.bind_eq_some_iff.1 steps
  exact ⟨d', steps⟩

/-- Whether no two workers are alive at any time while these steps are made at a new pump. -/
def Solitary (p : Pump) (as : List Action) : Prop :=
  ∀ bs d, bs <+: as → ({} : Control).steps p bs = some d → d.AtMostOne

/-- Whether every start among these steps that is not refused finds no worker that lingers. -/
def StartsFree (p : Pump) (as : List Action) : Prop :=
  ∀ bs d, bs ++ [.start] <+: as → ({} : Control).steps p bs = some d →
    d.status.running = false → ∀ i, ¬ d.Lingers i

/-- Whether, at any time while these steps are made, a start would be refused for each worker that is
alive, unless that worker lingers. -/
def RefusesOrLingers (p : Pump) (as : List Action) : Prop :=
  ∀ bs d i, bs <+: as → ({} : Control).steps p bs = some d → d.dropped = false → d.IsAlive i →
    d.start p = some (.error (.alreadyRunning p.url)) ∨
      d.status.running = false ∧ d.Lingers i

/-- No two workers are ever alive exactly if every start that is not refused finds no worker that
lingers, and a start is refused while a worker is alive, unless the worker lingers. -/
theorem solitary_iff (steps : ({} : Control).steps p as = some c) :
    (Solitary p as ↔ StartsFree p as) ∧ RefusesOrLingers p as := by
  refine ⟨⟨?_, ?_⟩, ?_⟩
  · intro alone bs d first steps' off
    obtain ⟨d', steps''⟩ := exists_steps_of_isPrefix steps first
    have alone' := alone _ d' first steps''
    obtain ⟨b, before, step⟩ := steps_concat.1 steps''
    rw [steps'] at before
    cases before
    exact ((Traced.of_steps steps').atMostOne_start (.of_steps steps') (.of_step step) off).1 alone'
  · intro free bs
    -- The induction takes the steps from behind, as a start finds what those before it have left.
    induction bs using List.reverseRecOn with
    | nil =>
      intro d _ steps'
      cases steps'
      rintro i _ ⟨r, run, _⟩
      cases run
    | append_singleton bs a ih =>
      intro d first steps'
      obtain ⟨b, before, step⟩ := steps_concat.1 steps'
      have sound := Sound.of_steps before
      by_cases fresh : a = .start ∧ b.status.running = false
      · obtain ⟨rfl, off⟩ := fresh
        exact ((Traced.of_steps before).atMostOne_start sound (.of_step step) off).2
          (free bs b first before off)
      · have alone := ih b ((List.prefix_append bs [a]).trans first) before
        apply alone.of_affects (sound.affects (.of_step step))
        intro start
        exact eq_true_of_ne_false fun off => fresh ⟨start, off⟩
  · intro bs d i _ steps' kept alive
    cases on : d.status.running with
    | true =>
      left
      simp [Control.start, kept, on]
    | false => exact .inr ⟨rfl, (Traced.of_steps steps').lingers kept on alive⟩

/-- A run is started, and a call that stops it returns without its worker being done. -/
def detached : List Action := [.start, .stop, .advance 0, .advance 0, .advance 0, .expire 0]

/-- With a start after the call has returned, both or neither holds: that no two workers are ever
alive, and that no start finds a worker that lingers. -/
theorem solitary_iff_detached :
    ∃ c, ({} : Control).steps pairwise (detached ++ [.start]) = some c ∧
      (Solitary pairwise (detached ++ [.start]) ↔ StartsFree pairwise (detached ++ [.start])) ∧
      RefusesOrLingers pairwise (detached ++ [.start]) := by
  have made : (({} : Control).steps pairwise (detached ++ [.start])).isSome = true := by
    decide +kernel
  obtain ⟨c, steps⟩ := Option.isSome_iff_exists.1 made
  exact ⟨c, steps, solitary_iff steps⟩

/-- A start is not refused while a worker is alive that a call has left behind, and then two workers
are alive. -/
theorem not_atMostOne_detached :
    ∃ c c', ({} : Control).steps pairwise detached = some c ∧ c.IsAlive 0 ∧
      c.start pairwise = some (.ok c') ∧ ¬ c'.AtMostOne := by
  have one : (({} : Control).steps pairwise detached).map (·.runs.map (·.phase.isOver)) =
      some [false] := by decide +kernel
  have two : (({} : Control).steps pairwise detached).bind (fun c => (c.start pairwise).bind
      (fun result => result.toOption.map (·.runs.map (·.phase.isOver)))) =
        some [false, false] := by decide +kernel
  obtain ⟨c, steps, busy⟩ := Option.map_eq_some_iff.1 one
  rw [steps, Option.bind_some] at two
  obtain ⟨result, start, made⟩ := Option.bind_eq_some_iff.1 two
  cases result with
  | error fault => cases made
  | ok c' =>
    have busy' : c'.runs.map (·.phase.isOver) = [false, false] := Option.some.inj made
    refine ⟨c, c', steps, isAlive_iff.2 (by rw [busy]; rfl), start, fun alone => ?_⟩
    have same := alone 0 1 (isAlive_iff.2 (by rw [busy']; rfl)) (isAlive_iff.2 (by rw [busy']; rfl))
    cases same

end StreamRelay.Control
