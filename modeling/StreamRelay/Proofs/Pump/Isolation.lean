import StreamRelay.Proofs.Pump.Runs

/-!
# The isolation of runs

A run of a pump is not touched by what came before its start. Calls that began earlier go on to act
upon the runs that they are aimed at, and so do the workers of earlier runs; with all of their steps
left out, a new pump on which the run is the first comes to the same runs and the same status.

Main statements: a pump after a start mirrors a new pump that makes only the steps of later callers
and later workers (`Mirrors.steps`), and the runs of every pump are isolated from each other
(`isolated_of_steps`).
-/

namespace StreamRelay

/-- What becomes of a step when the first `n` runs and the first `m` calls are left out: nothing is
left of a step of theirs. -/
def Action.since (n m : Nat) : Action → Option Action
  | .advance j => if j < m then none else some (.advance (j - m))
  | .join j panic => if j < m then none else some (.join (j - m) panic)
  | .expire j => if j < m then none else some (.expire (j - m))
  | .within i move => if i < n then none else some (.within (i - n) move)
  | a => some a

/-- A call with its target counted from the run with the number `n`. -/
def Call.since (n : Nat) (k : Call) : Call := { k with target := k.target.map (· - n) }

namespace Control

variable {p : Pump} {c c' d d' e e' : Control} {a : Action} {as bs : List Action} {i j n m : Nat}
  {k : Call} {r : Run}

/-- Whether `e` is what is left of `d` without its first `n` runs and its first `m` calls. -/
structure Mirrors (n m : Nat) (d e : Control) : Prop where
  runs : e.runs = d.runs.drop n
  calls : e.calls = (d.calls.drop m).map (Call.since n)
  hasHandles : e.hasHandles = d.hasHandles
  dropped : e.dropped = d.dropped
  /-- There is a run that is not left out. -/
  started : n < d.runs.length
  /-- The calls that are left out have begun. -/
  made : m ≤ d.calls.length
  /-- The calls that are not left out are aimed at runs that are not left out. -/
  later : ∀ j k, m ≤ j → d.calls[j]? = some k → ∃ i, k.target = some i ∧ n ≤ i
  /-- The calls that are left out are aimed at runs that are left out. -/
  earlier : ∀ j k i, j < m → d.calls[j]? = some k → k.target = some i → i < n

namespace Mirrors

/-- A run that is not left out is there. -/
lemma run (mir : Mirrors n m d e) (late : n ≤ i) : e.runs[i - n]? = d.runs[i]? := by
  rw [mir.runs, List.getElem?_drop, Nat.add_sub_cancel' late]

/-- A call that is not left out is there. -/
lemma call (mir : Mirrors n m d e) (late : m ≤ j) (call : d.calls[j]? = some k) :
    e.calls[j - m]? = some (k.since n) := by
  rw [mir.calls, List.getElem?_map, List.getElem?_drop, Nat.add_sub_cancel' late, call]
  rfl

/-- The latest run is not left out. -/
lemma latest (mir : Mirrors n m d e) :
    ∃ i, d.latest = some i ∧ e.latest = some (i - n) ∧ n ≤ i := by
  have started := mir.started
  refine ⟨d.runs.length - 1, latest_eq (by omega), latest_eq ?_, by omega⟩
  rw [mir.runs, List.length_drop]
  omega

/-- A worker that is not left out has panicked on both sides or on none. -/
lemma hasFallen (mir : Mirrors n m d e) (late : n ≤ i) :
    e.hasFallen (some (i - n)) = d.hasFallen (some i) := by
  rw [Control.hasFallen, Control.hasFallen, mir.run late]

/-- The target of a new call is the same. -/
lemma latest_eq_map (mir : Mirrors n m d e) : e.latest = d.latest.map (· - n) := by
  obtain ⟨i, latest, latest', _⟩ := mir.latest
  rw [latest, latest']
  rfl

/-- The status of the latest run is the same. -/
lemma status (mir : Mirrors n m d e) : e.status = d.status := by
  obtain ⟨i, latest, latest', late⟩ := mir.latest
  have bound := Sound.latest_lt latest
  rw [Control.status, Control.status, latest, latest', statusOf, statusOf, mir.run late,
    List.getElem?_eq_getElem bound]
  rfl

/-- What changes runs alone keeps the mirror if it does the same on both sides. -/
lemma change (mir : Mirrors n m d e) (runs : e'.runs = d'.runs.drop n)
    (length : d'.runs.length = d.runs.length) (calls : d'.calls = d.calls ∧ e'.calls = e.calls)
    (hasHandles : d'.hasHandles = d.hasHandles ∧ e'.hasHandles = e.hasHandles)
    (dropped : d'.dropped = d.dropped ∧ e'.dropped = e.dropped) : Mirrors n m d' e' where
  runs := runs
  calls := by rw [calls.1, calls.2, mir.calls]
  hasHandles := by rw [hasHandles.1, hasHandles.2, mir.hasHandles]
  dropped := by rw [dropped.1, dropped.2, mir.dropped]
  started := length ▸ mir.started
  made := calls.1 ▸ mir.made
  later := calls.1 ▸ mir.later
  earlier := calls.1 ▸ mir.earlier

/-- What callers are told is not mirrored. -/
lemma log (mir : Mirrors n m d e) (x : Event) : Mirrors n m (d.log x) (e.log x) :=
  mir.change mir.runs rfl ⟨rfl, rfl⟩ ⟨rfl, rfl⟩ ⟨rfl, rfl⟩

/-- What callers are told by a call that is left out is not mirrored. -/
lemma log_earlier (mir : Mirrors n m d e) (x : Event) : Mirrors n m (d.log x) e :=
  mir.change mir.runs rfl ⟨rfl, rfl⟩ ⟨rfl, rfl⟩ ⟨rfl, rfl⟩

/-- A status is changed on both sides. -/
lemma changeStatus (mir : Mirrors n m d e) (late : n ≤ i) (f : Status → Status) :
    Mirrors n m (d.changeStatus (some i) f) (e.changeStatus (some (i - n)) f) := by
  refine mir.change ?_ (by simp [Control.changeStatus]) ⟨rfl, rfl⟩ ⟨rfl, rfl⟩ ⟨rfl, rfl⟩
  simp only [Control.changeStatus, mir.runs]
  exact (List.drop_modify_of_ge _ _ _ _ late).symm

/-- A status that is left out is changed on one side. -/
lemma changeStatus_earlier (mir : Mirrors n m d e) {target : Option Nat}
    (early : ∀ i, target = some i → i < n) (f : Status → Status) :
    Mirrors n m (d.changeStatus target f) e := by
  cases target with
  | none => exact mir.change mir.runs rfl ⟨rfl, rfl⟩ ⟨rfl, rfl⟩ ⟨rfl, rfl⟩
  | some i =>
    refine mir.change ?_ (by simp [Control.changeStatus]) ⟨rfl, rfl⟩ ⟨rfl, rfl⟩ ⟨rfl, rfl⟩
    simp only [Control.changeStatus, mir.runs]
    exact (List.drop_modify_of_lt _ _ _ _ (early i rfl)).symm

/-- A write end is closed on both sides. -/
lemma closeWriteEnd (mir : Mirrors n m d e) (late : n ≤ i) :
    Mirrors n m (d.closeWriteEnd (some i)) (e.closeWriteEnd (some (i - n))) := by
  cases run : d.runs[i]? with
  | none =>
    have run' := (mir.run late).trans run
    simp only [Control.closeWriteEnd, run, run']
    exact mir
  | some r =>
    have run' := (mir.run late).trans run
    refine mir.change ?_ ?_ ⟨by simp, by simp⟩ ⟨by simp, by simp⟩ ⟨by simp, by simp⟩
    · rw [runs_closeWriteEnd run, runs_closeWriteEnd run', mir.runs, List.drop_set,
        if_neg (Nat.not_lt.2 late)]
    · rw [runs_closeWriteEnd run, List.length_set]

/-- A write end that is left out is closed on one side. -/
lemma closeWriteEnd_earlier (mir : Mirrors n m d e) {target : Option Nat}
    (early : ∀ i, target = some i → i < n) : Mirrors n m (d.closeWriteEnd target) e := by
  cases target with
  | none => exact mir
  | some i =>
    cases run : d.runs[i]? with
    | none =>
      simp only [Control.closeWriteEnd, run]
      exact mir
    | some r =>
      refine mir.change ?_ ?_ ⟨by simp, rfl⟩ ⟨by simp, rfl⟩ ⟨by simp, rfl⟩
      · rw [runs_closeWriteEnd run, mir.runs, List.drop_set_of_lt (early i rfl)]
      · rw [runs_closeWriteEnd run, List.length_set]

/-- A call with its stage moved on is aimed at the same run. -/
lemma target_of_setStage {s : Stage} (call : (c.setStage i s).calls[j]? = some k) :
    ∃ k', c.calls[j]? = some k' ∧ k'.target = k.target := by
  simp only [Control.setStage] at call
  by_cases same : i = j
  · subst same
    rw [List.getElem?_modify_eq] at call
    obtain ⟨k', before, rfl⟩ := Option.map_eq_some_iff.1 call
    exact ⟨k', before, rfl⟩
  · rw [List.getElem?_modify_ne _ _ same] at call
    exact ⟨k, call, rfl⟩

/-- A call is moved on to a stage on both sides. -/
lemma setStage (mir : Mirrors n m d e) (late : m ≤ j) (s : Stage) :
    Mirrors n m (d.setStage j s) (e.setStage (j - m) s) where
  runs := mir.runs
  calls := by
    simp only [Control.setStage, mir.calls, List.drop_modify_of_ge _ _ _ _ late]
    apply List.ext_getElem?
    intro i
    simp only [List.getElem?_map, List.getElem?_modify]
    cases (d.calls.drop m)[i]? with
    | none => rfl
    | some k => by_cases same : j - m = i <;> simp [same, Call.since]
  hasHandles := mir.hasHandles
  dropped := mir.dropped
  started := mir.started
  made := by
    simp only [Control.setStage, List.length_modify]
    exact mir.made
  later i k late' call := by
    obtain ⟨k', call', same⟩ := target_of_setStage call
    exact same ▸ mir.later i k' late' call'
  earlier i k i' early call target := by
    obtain ⟨k', call', same⟩ := target_of_setStage call
    exact mir.earlier i k' i' early call' (same.trans target)

/-- A call that is left out is moved on to a stage on one side. -/
lemma setStage_earlier (mir : Mirrors n m d e) (early : j < m) (s : Stage) :
    Mirrors n m (d.setStage j s) e where
  runs := mir.runs
  calls := by
    rw [mir.calls]
    simp only [Control.setStage, List.drop_modify_of_lt _ _ _ _ early]
  hasHandles := mir.hasHandles
  dropped := mir.dropped
  started := mir.started
  made := by
    simp only [Control.setStage, List.length_modify]
    exact mir.made
  later i k late' call := by
    obtain ⟨k', call', same⟩ := target_of_setStage call
    exact same ▸ mir.later i k' late' call'
  earlier i k i' early call target := by
    obtain ⟨k', call', same⟩ := target_of_setStage call
    exact mir.earlier i k' i' early call' (same.trans target)

/-- A call is made on both sides. -/
lemma begin (mir : Mirrors n m d e) {k k' : Call} (same : k' = k.since n)
    (target : k.target = d.latest) :
    Mirrors n m
      { d with hasHandles := false, calls := d.calls ++ [k] }
      { e with hasHandles := false, calls := e.calls ++ [k'] } where
  runs := mir.runs
  calls := by
    rw [mir.calls, List.drop_append_of_le_length mir.made, List.map_append, same]
    rfl
  hasHandles := rfl
  dropped := mir.dropped
  started := mir.started
  made := by
    have made := mir.made
    simp only [List.length_append, List.length_singleton]
    omega
  later j k₀ late call := by
    simp only [List.getElem?_append] at call
    split at call
    · exact mir.later j k₀ late call
    · obtain ⟨i, latest, _, late'⟩ := mir.latest
      have new : k₀ = k := List.mem_singleton.1 (List.mem_of_getElem? call)
      exact ⟨i, by rw [new, target, latest], late'⟩
  earlier j k₀ i early call target := by
    have bound := Nat.lt_of_lt_of_le early mir.made
    rw [List.getElem?_append_left bound] at call
    exact mir.earlier j k₀ i early call target

/-- Nothing is left of a step only where its number is among the first. -/
lemma lt_of_since {x : Action} (gone : (if j < m then none else some x) = none) : j < m := by
  cases Nat.lt_or_ge j m with
  | inl early => exact early
  | inr late =>
    rw [if_neg (Nat.not_lt.2 late)] at gone
    cases gone

/-- A step of a call or a worker that is left out changes one side only. -/
theorem step_earlier (mir : Mirrors n m d e) (step : Goes p d a d') (gone : a.since n m = none) :
    Mirrors n m d' e := by
  cases step with
  | start | refuse | startInVain | reap | stop | drop | dropIdle => cases gone
  | @clear j k call =>
    have early := lt_of_since gone
    exact (mir.changeStatus_earlier (mir.earlier j k · early call) _).setStage_earlier early _
  | @notifyLast j k call =>
    have early := lt_of_since gone
    exact (mir.changeStatus_earlier (mir.earlier j k · early call) _).setStage_earlier early _
  | @notify j k call | @notifyAgain j k call =>
    have early := lt_of_since gone
    exact ((mir.changeStatus_earlier (mir.earlier j k · early call) _).log_earlier _
      ).setStage_earlier early _
  | @close j k call =>
    have early := lt_of_since gone
    exact (mir.closeWriteEnd_earlier (mir.earlier j k · early call)).setStage_earlier early _
  | arrive => exact mir.setStage_earlier (lt_of_since gone) _
  | @join j k _ call | @expire j k call =>
    have early := lt_of_since gone
    exact (mir.log_earlier _).setStage_earlier early _
  | @within i move r r' _ run =>
    have early := lt_of_since gone
    refine mir.change ?_ (by simp) ⟨rfl, rfl⟩ ⟨rfl, rfl⟩ ⟨rfl, rfl⟩
    rw [mir.runs, List.drop_set_of_lt early]

/-- What is left of a step is the same step with its number counted anew. -/
lemma le_of_since {x b : Action} (left : (if j < m then none else some x) = some b) :
    m ≤ j ∧ b = x := by
  cases Nat.lt_or_ge j m with
  | inl early =>
    rw [if_pos early] at left
    cases left
  | inr late =>
    rw [if_neg (Nat.not_lt.2 late)] at left
    exact ⟨late, (Option.some.inj left).symm⟩

/-- The target of a call that is not left out. -/
lemma target (mir : Mirrors n m d e) (late : m ≤ j) (call : d.calls[j]? = some k) :
    ∃ i, n ≤ i ∧ k.target = some i ∧ (k.since n).target = some (i - n) := by
  obtain ⟨i, target, late'⟩ := mir.later j k late call
  exact ⟨i, late', target, by rw [Call.since, target]; rfl⟩

/-- Calls that have all returned have so without those that are left out. -/
lemma alone (mir : Mirrors n m d e) (alone : ∀ k ∈ d.calls, k.stage = .returned) :
    ∀ k ∈ e.calls, k.stage = .returned := by
  intro k mem
  rw [mir.calls] at mem
  obtain ⟨k', mem', rfl⟩ := List.mem_map.1 mem
  exact alone k' (List.mem_of_mem_drop mem')

/-- A step that is not left out is made on both sides. -/
theorem step_later (mir : Mirrors n m d e) {b : Action} (step : Goes p d a d')
    (left : a.since n m = some b) : ∃ e', Goes p e b e' ∧ Mirrors n m d' e' := by
  cases step with
  | start kept off =>
    cases left
    refine ⟨_, .start (mir.dropped.trans kept) (mir.status ▸ off), ?_⟩
    -- A new run is the last one on both sides.
    refine { mir with runs := ?_, hasHandles := rfl, started := ?_ }
    · simp only [Control.log]
      rw [mir.runs, List.drop_append_of_le_length (Nat.le_of_lt mir.started)]
    · have started := mir.started
      simp only [Control.log, List.length_append]
      omega
  | refuse kept on =>
    cases left
    exact ⟨e, .refuse (mir.dropped.trans kept) (mir.status ▸ on), mir⟩
  | startInVain kept off =>
    cases left
    exact ⟨_, .startInVain (mir.dropped.trans kept) (mir.status ▸ off),
      { mir with hasHandles := rfl }⟩
  | reap kept off has fallen =>
    cases left
    obtain ⟨i, latest, latest', late⟩ := mir.latest
    rw [latest] at fallen
    refine ⟨_, .reap (mir.dropped.trans kept) (mir.status ▸ off) (mir.hasHandles.trans has) ?_,
      { mir with hasHandles := rfl }⟩
    rw [latest', mir.hasFallen late]
    exact fallen
  | stop kept =>
    cases left
    refine ⟨_, .stop (mir.dropped.trans kept), mir.begin ?_ rfl⟩
    rw [mir.latest_eq_map, mir.hasHandles]
    rfl
  | drop kept alone on =>
    cases left
    refine ⟨_, .drop (mir.dropped.trans kept) (mir.alone alone) (mir.status ▸ on), ?_⟩
    refine { mir.begin ?_ rfl with dropped := rfl }
    rw [mir.latest_eq_map]
    rfl
  | dropIdle kept alone off =>
    cases left
    refine ⟨_, .dropIdle (mir.dropped.trans kept) (mir.alone alone) (mir.status ▸ off), ?_⟩
    refine { mir.begin ?_ rfl with dropped := rfl }
    rw [mir.latest_eq_map]
    rfl
  | @clear j k call stage =>
    obtain ⟨late, rfl⟩ := le_of_since left
    obtain ⟨i, late', target, target'⟩ := mir.target late call
    refine ⟨_, .clear (mir.call late call) stage, ?_⟩
    rw [target, target']
    exact (mir.changeStatus late' _).setStage late _
  | @notifyLast j k call stage drops =>
    obtain ⟨late, rfl⟩ := le_of_since left
    obtain ⟨i, late', target, target'⟩ := mir.target late call
    refine ⟨_, .notifyLast (mir.call late call) stage drops, ?_⟩
    rw [target, target']
    exact (mir.changeStatus late' _).setStage late _
  | @notify j k call stage stops holds =>
    obtain ⟨late, rfl⟩ := le_of_since left
    obtain ⟨i, late', target, target'⟩ := mir.target late call
    refine ⟨_, .notify (mir.call late call) stage stops holds, ?_⟩
    rw [target, target']
    exact ((mir.changeStatus late' _).log _).setStage late _
  | @notifyAgain j k call stage stops misses =>
    obtain ⟨late, rfl⟩ := le_of_since left
    obtain ⟨i, late', target, target'⟩ := mir.target late call
    refine ⟨_, .notifyAgain (mir.call late call) stage stops misses, ?_⟩
    rw [target, target']
    exact ((mir.changeStatus late' _).log _).setStage late _
  | @close j k call stage =>
    obtain ⟨late, rfl⟩ := le_of_since left
    obtain ⟨i, late', target, target'⟩ := mir.target late call
    refine ⟨_, .close (mir.call late call) stage, ?_⟩
    rw [target, target']
    exact (mir.closeWriteEnd late').setStage late _
  | @arrive j k call stage ended =>
    obtain ⟨late, rfl⟩ := le_of_since left
    obtain ⟨i, late', target, target'⟩ := mir.target late call
    refine ⟨_, .arrive (mir.call late call) stage ?_, mir.setStage late _⟩
    rw [target', isOver, mir.run late']
    rw [target, isOver] at ended
    exact ended
  | @join j k panic call stage fallen =>
    obtain ⟨late, rfl⟩ := le_of_since left
    obtain ⟨i, late', target, target'⟩ := mir.target late call
    refine ⟨_, .join (mir.call late call) stage ?_, (mir.log _).setStage late _⟩
    rw [target', mir.hasFallen late']
    rw [target] at fallen
    exact fallen
  | @expire j k call stage =>
    obtain ⟨late, rfl⟩ := le_of_since left
    exact ⟨_, .expire (mir.call late call) stage, (mir.log _).setStage late _⟩
  | @within i move r r' others run step =>
    obtain ⟨late, rfl⟩ := le_of_since left
    refine ⟨_, .within others ((mir.run late).trans run) step, ?_⟩
    refine mir.change ?_ (by simp) ⟨rfl, rfl⟩ ⟨rfl, rfl⟩ ⟨rfl, rfl⟩
    rw [mir.runs, List.drop_set, if_neg (Nat.not_lt.2 late)]

/-- Steps at a pump are, without those that are left out, steps at its mirror. -/
theorem steps (mir : Mirrors n m d e) (steps : d.steps p as = some d') :
    ∃ e', e.steps p (as.filterMap (Action.since n m)) = some e' ∧ Mirrors n m d' e' := by
  induction as generalizing d e with
  | nil =>
    cases steps
    exact ⟨e, rfl, mir⟩
  | cons a as ih =>
    obtain ⟨c, step, rest⟩ := Option.bind_eq_some_iff.1 steps
    have goes := Goes.of_step step
    cases left : a.since n m with
    -- A step that is left out is not made in the mirror.
    | none =>
      rw [List.filterMap_cons_none left]
      exact ih (mir.step_earlier goes left) rest
    | some b =>
      obtain ⟨c', goes', mir'⟩ := mir.step_later goes left
      obtain ⟨e', rest', mir''⟩ := ih mir' rest
      refine ⟨e', ?_, mir''⟩
      rw [List.filterMap_cons_some left, Control.steps, goes'.step, Option.bind_some, rest']

/-- A pump on which a run has just been started mirrors a new pump with its first run. -/
lemma of_start (sound : c.Sound) (kept : c.dropped = false) :
    Mirrors c.runs.length c.calls.length
      ({ c with runs := c.runs ++ [Run.fresh], hasHandles := true }.log .started)
      (({ runs := [Run.fresh], hasHandles := true } : Control).log .started) where
  runs := by simp [Control.log]
  calls := by simp [Control.log]
  hasHandles := rfl
  dropped := kept.symm
  started := by simp [Control.log]
  made := Nat.le_refl _
  later j k late call := by
    have bound := (List.getElem?_eq_some_iff.1 call).1
    exact absurd bound (Nat.not_lt.2 late)
  earlier j k i _ call target := sound.target k (List.mem_of_getElem? call) i target

end Mirrors

/-- A move that no call makes is made by the run itself. -/
lemma eq_within {move : Move} (own : c.moveOf i a = some move) (others : move.isRequest = false) :
    a = .within i move := by
  cases a with
  | within j move' =>
    simp only [moveOf] at own
    split at own
    · next same =>
      cases own
      rw [same]
    · cases own
  | advance j =>
    obtain ⟨k, _, own⟩ := Option.bind_eq_some_iff.1 own
    split at own
    · cases stage : k.stage <;> rw [stage] at own <;> cases own <;> cases others
    · cases own
  | start | startInVain | reap _ | stop | drop | join _ _ | expire _ => cases own

/-- What others do to the conduit of a run never adds a byte. -/
lemma Affects.accepted (aff : Affects p c a c') {r r' : Run} (run : c.runs[i]? = some r)
    (run' : c'.runs[i]? = some r') :
    r'.pipe.accepted = r.pipe.accepted ∨ ∃ n, a = .within i (.push n) := by
  rcases aff.moved run run' with ⟨_, rfl⟩ | ⟨m, own, move⟩
  · exact .inl rfl
  · rcases (Run.Goes.of_step move).accepted with same | ⟨_, _, _, n, _, rfl, _⟩
    · exact .inl same
    · exact .inr ⟨n, eq_within own rfl⟩

/-- How the runs of a pump that the steps `as` have led to are kept from each other. -/
structure Isolated (p : Pump) (as : List Action) (c : Control) : Prop where
  /-- Only the latest run is going on. -/
  latest : ∀ i r, c.runs[i]? = some r → r.status.running = true → i + 1 = c.runs.length
  /-- A run that is started next begins with the flags and counters of a fresh one, and no stop
  signal. -/
  fresh : ∀ c', c.start p = some (.ok c') → c'.status = .fresh
  /-- From then on the status is that of a new pump at which only the steps of later callers and
  later workers are made. -/
  status : ∀ c' bs d, c.start p = some (.ok c') → c'.steps p bs = some d →
    ∃ e, ({} : Control).steps p
        (.start :: bs.filterMap (Action.since c.runs.length c.calls.length)) = some e ∧
      d.status = e.status ∧ d.runs.drop c.runs.length = e.runs
  /-- The conduit of a run takes in nothing but what the run itself has received. -/
  received : ∀ i r, c.runs[i]? = some r → r.pipe.accepted <+: (historyOf p i as).chunks.flatten
  /-- A step adds bytes to the conduit of a run only when its worker writes. -/
  written : ∀ a c' i r r', c.step p a = some c' → c.runs[i]? = some r → c'.runs[i]? = some r' →
    r'.pipe.accepted = r.pipe.accepted ∨ ∃ n, a = .within i (.push n)

/-- A start that is not refused adds a fresh run. -/
lemma eq_of_start (start : c.start p = some (.ok c')) :
    c.dropped = false ∧
      c' = { c with runs := c.runs ++ [Run.fresh], hasHandles := true }.log .started := by
  unfold Control.start at start
  split at start
  · cases start
  · next kept =>
    split at start
    · cases start
    · cases start
      exact ⟨eq_false_of_ne_true kept, rfl⟩

/-- The runs of every pump that can come about are isolated from each other. -/
theorem isolated_of_steps (steps : ({} : Control).steps p as = some c) : Isolated p as c := by
  have sound := Sound.of_steps steps
  refine
    { latest := sound.latest, fresh := ?fresh, status := ?status, received := ?received,
      written := ?written }
  case fresh =>
    intro c' start
    obtain ⟨_, rfl⟩ := eq_of_start start
    exact status_eq (i := c.runs.length) (r := .fresh) (by simp [log]) (by simp [log])
  case status =>
    intro c' bs d start more
    obtain ⟨kept, rfl⟩ := eq_of_start start
    obtain ⟨e, steps', mir⟩ := (Mirrors.of_start sound kept).steps more
    exact ⟨e, steps', mir.status.symm, mir.runs.symm⟩
  case received =>
    intro i r run
    exact (leads_of_steps steps run).accepted_isPrefix
  case written =>
    intro a c' i r r' step run run'
    exact (sound.affects (.of_step step)).accepted run run'

/-- A call that stops a run in the middle of a write returns without its worker being done. -/
def leftInWrite : List Action := stopInWrite ++ [.advance 0, .advance 0, .expire 0]

/-- A run that is started next is isolated from the one that is left in the middle of its write. -/
theorem isolated_leftInWrite :
    ∃ c c', ({} : Control).steps pairwise leftInWrite = some c ∧
      c.start pairwise = some (.ok c') ∧ Isolated pairwise leftInWrite c := by
  have made : ((({} : Control).steps pairwise leftInWrite).bind (·.start pairwise)).bind
      (fun result => result.toOption.map (·.runs.length)) = some 2 := by decide +kernel
  obtain ⟨result, start, made⟩ := Option.bind_eq_some_iff.1 made
  obtain ⟨c, steps, start⟩ := Option.bind_eq_some_iff.1 start
  cases result with
  | error fault => cases made
  | ok c' => exact ⟨c, c', steps, start, isolated_of_steps steps⟩

end Control

end StreamRelay
