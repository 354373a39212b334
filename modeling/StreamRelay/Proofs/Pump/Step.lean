import StreamRelay.Proofs.Run.Step
import StreamRelay.Pump.Basic

/-!
# What a step at a pump can do

The rules by which a pump goes on: one for each way in which a step can turn out, with what it asks
for and what it leaves behind. A step acts upon at most one run, and upon that by a move of it.

Main statements: a step that can be made goes by one of the rules (`Goes.of_step`), and what goes by
one of them can be made (`Goes.step`).
-/

namespace StreamRelay

/-- The move that the next step of a call makes in the run that the call is to stop. -/
def Stage.move? : Stage → Option Move
  | .clearing => some .clear
  | .notifying => some .notify
  | .closing => some .tryClose
  | .waiting | .returned => none

namespace Control

/-- What a step can do to a pump. -/
inductive Goes (p : Pump) (c : Control) : Action → Control → Prop where
  -- Callers start the pump.
  | start (kept : c.dropped = false) (off : c.status.running = false) :
    Goes p c .start
      ({ c with runs := c.runs ++ [Run.fresh], hasHandles := true }.log .started)
  | refuse (kept : c.dropped = false) (on : c.status.running = true) : Goes p c .start c
  | startInVain (kept : c.dropped = false) (off : c.status.running = false) :
    Goes p c .startInVain { c with hasHandles := false }
  | reap {panic : String} (kept : c.dropped = false) (off : c.status.running = false)
      (has : c.hasHandles = true) (fallen : c.hasFallen c.latest = true) :
    Goes p c (.reap panic) ({ c with hasHandles := false }.log (.joinedPanicked panic))
  -- Callers begin to stop the pump, or its owner to drop it.
  | stop (kept : c.dropped = false) :
    Goes p c .stop
      { c with
        hasHandles := false
        calls := c.calls ++ [{ target := c.latest, holdsHandles := c.hasHandles, drops := false }] }
  | drop (kept : c.dropped = false) (alone : ∀ k ∈ c.calls, k.stage = .returned)
      (on : c.status.running = true) :
    Goes p c .drop
      { c with
        dropped := true
        hasHandles := false
        calls := c.calls ++ [{ target := c.latest, holdsHandles := false, drops := true }] }
  | dropIdle (kept : c.dropped = false) (alone : ∀ k ∈ c.calls, k.stage = .returned)
      (off : c.status.running = false) :
    Goes p c .drop
      { c with
        dropped := true
        hasHandles := false
        calls := c.calls ++
          [{ target := c.latest, holdsHandles := false, drops := true, stage := .returned }] }
  -- A call makes its next step.
  | clear {i : Nat} {k : Call} (call : c.calls[i]? = some k) (stage : k.stage = .clearing) :
    Goes p c (.advance i) ((c.changeStatus k.target Status.markStopped).setStage i .notifying)
  | notifyLast {i : Nat} {k : Call} (call : c.calls[i]? = some k) (stage : k.stage = .notifying)
      (drops : k.drops = true) :
    Goes p c (.advance i) ((c.changeStatus k.target Status.notify).setStage i .returned)
  | notify {i : Nat} {k : Call} (call : c.calls[i]? = some k) (stage : k.stage = .notifying)
      (stops : k.drops = false) (holds : k.holdsHandles = true) :
    Goes p c (.advance i)
      (((c.changeStatus k.target Status.notify).log .stopping).setStage i .closing)
  | notifyAgain {i : Nat} {k : Call} (call : c.calls[i]? = some k) (stage : k.stage = .notifying)
      (stops : k.drops = false) (misses : k.holdsHandles = false) :
    Goes p c (.advance i)
      (((c.changeStatus k.target Status.notify).log .nothingToStop).setStage i .returned)
  | close {i : Nat} {k : Call} (call : c.calls[i]? = some k) (stage : k.stage = .closing) :
    Goes p c (.advance i) ((c.closeWriteEnd k.target).setStage i .waiting)
  | arrive {i : Nat} {k : Call} (call : c.calls[i]? = some k) (stage : k.stage = .waiting)
      (ended : c.isOver k.target = true) : Goes p c (.advance i) (c.setStage i .returned)
  | join {i : Nat} {k : Call} {panic : String} (call : c.calls[i]? = some k)
      (stage : k.stage = .waiting) (fallen : c.hasFallen k.target = true) :
    Goes p c (.join i panic) ((c.log (.joinedPanicked panic)).setStage i .returned)
  | expire {i : Nat} {k : Call} (call : c.calls[i]? = some k) (stage : k.stage = .waiting) :
    Goes p c (.expire i) ((c.log (.detached p.settings.stopWait)).setStage i .returned)
  -- A run goes on.
  | within {i : Nat} {m : Move} {r r' : Run} (others : m.isRequest = false)
      (run : c.runs[i]? = some r) (step : r.step p.task m = some r') :
    Goes p c (.within i m) { c with runs := c.runs.set i r' }

variable {p : Pump} {c c' : Control} {a : Action}

/-- The next step of a call goes by one of the rules. -/
lemma Goes.of_advance {i : Nat} (step : c.advance i = some c') : Goes p c (.advance i) c' := by
  obtain ⟨k, call, step⟩ := Option.bind_eq_some_iff.1 step
  cases stage : k.stage with
  | clearing =>
    rw [stage] at step
    cases step
    exact .clear call stage
  | notifying =>
    rw [stage] at step
    cases drops : k.drops with
    | true =>
      simp only [drops, if_true] at step
      cases step
      exact .notifyLast call stage drops
    | false =>
      simp only [drops, Bool.false_eq_true, if_false] at step
      cases holds : k.holdsHandles with
      | true =>
        simp only [holds, if_true] at step
        cases step
        exact .notify call stage drops holds
      | false =>
        simp only [holds, Bool.false_eq_true, if_false] at step
        cases step
        exact .notifyAgain call stage drops holds
  | closing =>
    rw [stage] at step
    cases step
    exact .close call stage
  | waiting =>
    simp only [stage] at step
    split at step
    · next ended =>
      cases step
      exact .arrive call stage ended
    · cases step
  | returned =>
    rw [stage] at step
    cases step

/-- A start goes by one of the rules. -/
lemma Goes.of_start (step : c.step p .start = some c') : Goes p c .start c' := by
  obtain ⟨result, start, rfl⟩ := Option.map_eq_some_iff.1 step
  unfold Control.start at start
  split at start
  · cases start
  · next kept =>
    split at start
    · next on =>
      cases start
      exact .refuse (eq_false_of_ne_true kept) on
    · next off =>
      cases start
      exact .start (eq_false_of_ne_true kept) (eq_false_of_ne_true off)

/-- The beginning of a drop goes by one of the rules. -/
lemma Goes.of_drop (step : c.drop = some c') : Goes p c .drop c' := by
  unfold Control.drop at step
  split at step
  · cases step
  · next free =>
    simp only [Bool.or_eq_true, not_or, Bool.not_eq_true, List.any_eq_false, bne_iff_ne, ne_eq,
      Decidable.not_not] at free
    obtain ⟨kept, alone⟩ := free
    cases on : c.status.running with
    | true =>
      simp only [on, if_true] at step
      cases step
      exact .drop kept alone on
    | false =>
      simp only [on, Bool.false_eq_true, if_false] at step
      cases step
      exact .dropIdle kept alone on

/-- A step that can be made goes by one of the rules. -/
theorem Goes.of_step (step : c.step p a = some c') : Goes p c a c' := by
  cases a with
  | start => exact .of_start step
  | startInVain =>
    simp only [Control.step, Control.startInVain] at step
    split at step
    · cases step
    · next free =>
      cases step
      simp only [Bool.or_eq_true, not_or, Bool.not_eq_true] at free
      exact .startInVain free.1 free.2
  | reap panic =>
    simp only [Control.step, Control.reap] at step
    split at step
    · cases step
    · next free =>
      cases step
      simp only [Bool.or_eq_true, not_or, Bool.not_eq_true, Bool.not_eq_false'] at free
      obtain ⟨⟨⟨kept, off⟩, has⟩, fallen⟩ := free
      exact .reap kept off has fallen
  | stop =>
    simp only [Control.step, Control.stop] at step
    split at step
    · cases step
    · next kept =>
      cases step
      exact .stop (eq_false_of_ne_true kept)
  | drop => exact .of_drop step
  | advance i => exact .of_advance step
  | join i panic =>
    obtain ⟨k, call, step⟩ := Option.bind_eq_some_iff.1 step
    split at step
    · next ended =>
      cases step
      simp only [Bool.and_eq_true, decide_eq_true_eq] at ended
      exact .join call ended.1 ended.2
    · cases step
  | expire i =>
    obtain ⟨k, call, step⟩ := Option.bind_eq_some_iff.1 step
    split at step
    · next stage =>
      cases step
      exact .expire call stage
    · cases step
  | within i m =>
    simp only [Control.step, Control.within] at step
    split at step
    · cases step
    · next others =>
      obtain ⟨r, run, step⟩ := Option.bind_eq_some_iff.1 step
      obtain ⟨r', move, result⟩ := Option.bind_eq_some_iff.1 step
      cases result
      exact .within (eq_false_of_ne_true others) run move

/-- What goes by one of the rules can be made. -/
theorem Goes.step (goes : Goes p c a c') : c.step p a = some c' := by
  cases goes with
  | start kept off => simp [Control.step, Control.start, kept, off]
  | refuse kept on => simp [Control.step, Control.start, kept, on]
  | startInVain kept off => simp [Control.step, Control.startInVain, kept, off]
  | reap kept off has fallen => simp [Control.step, Control.reap, kept, off, has, fallen]
  | stop kept => simp [Control.step, Control.stop, kept]
  | drop kept alone on | dropIdle kept alone on =>
    have free : c.calls.any (fun k => k.stage != .returned) = false := by
      simpa using alone
    simp [Control.step, Control.drop, kept, free, on]
  | clear call stage | notifyLast call stage drops | close call stage | arrive call stage ended =>
    simp_all [Control.step, Control.advance]
  | notify call stage stops holds | notifyAgain call stage stops holds =>
    simp [Control.step, Control.advance, call, stage, stops, holds]
  | join call stage fallen => simp [Control.step, Control.join, call, stage, fallen]
  | expire call stage => simp [Control.step, Control.expire, call, stage]
  | within others run step => simp [Control.step, Control.within, others, run, step]

end Control

end StreamRelay
