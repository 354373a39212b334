import StreamRelay.Proofs.Pump.Order
import StreamRelay.Proofs.Run.History

/-!
# The course of a run

What happens to one run of a pump while steps are made at the pump: the moves that these steps make
in it, and their history.

Main statements: a run goes on by the moves that are made in it, whatever else happens at the pump
(`Sound.steps_run`), and every run has come about from a fresh one in this way (`leads_of_steps`).
-/

namespace StreamRelay.Control

variable {p : Pump} {c c' d : Control} {a : Action} {as : List Action} {i : Nat} {r : Run}

/-- The moves that steps make in the run with this number. -/
def movesOf (p : Pump) (c : Control) (i : Nat) : List Action → List Move
  | [] => []
  | a :: as =>
    match c.step p a with
    | none => []
    | some c' => (c.moveOf i a).toList ++ c'.movesOf p i as

/-- What has happened to the run with this number in the course of steps at a new pump. -/
def historyOf (p : Pump) (i : Nat) (as : List Action) : History :=
  Run.fresh.history p.task (({} : Control).movesOf p i as)

/-- Steps after steps are made one list after the other. -/
lemma steps_append (as bs : List Action) :
    c.steps p (as ++ bs) = (c.steps p as).bind (fun d => d.steps p bs) := by
  induction as generalizing c with
  | nil => rfl
  | cons a as ih =>
    simp only [List.cons_append, Control.steps]
    cases c.step p a with
    | none => rfl
    | some c' => exact ih

/-- Of some steps and one more the last is made at the end. -/
lemma steps_concat :
    c.steps p (as ++ [a]) = some d ↔ ∃ c', c.steps p as = some c' ∧ c'.step p a = some d := by
  simp [steps_append, Option.bind_eq_some_iff, Control.steps]

/-- A step is made before those that follow it. -/
lemma movesOf_cons (step : c.step p a = some c') :
    c.movesOf p i (a :: as) = (c.moveOf i a).toList ++ c'.movesOf p i as := by
  simp only [movesOf, step]

/-- A run that is not there makes no move. -/
lemma Affects.moveOf_of_absent (aff : Affects p c a c') (absent : c.runs[i]? = none) :
    c.moveOf i a = none := by
  cases aff with
  | start first _ _ =>
    subst first
    rfl
  | @move j m s s' own run _ _ =>
    apply moveOf_of_ne own
    rintro rfl
    rw [run] at absent
    cases absent
  | keep quiet _ => exact quiet i

/-- A run goes on by the moves that are made in it. -/
theorem Sound.steps_run (sound : c.Sound) (steps : c.steps p as = some d)
    (run : c.runs[i]? = some r) :
    ∃ s, d.runs[i]? = some s ∧ r.steps p.task (c.movesOf p i as) = some s := by
  induction as generalizing c r with
  | nil =>
    cases steps
    exact ⟨r, run, rfl⟩
  | cons a as ih =>
    obtain ⟨c', step, steps⟩ := Option.bind_eq_some_iff.1 steps
    have goes := Goes.of_step step
    obtain ⟨r', run', moved⟩ := (sound.affects goes).run run
    obtain ⟨s, run'', steps'⟩ := ih (sound.goes goes) steps run'
    refine ⟨s, run'', ?_⟩
    rw [movesOf_cons step, Run.steps_append]
    rcases moved with ⟨quiet, rfl⟩ | ⟨m, own, step'⟩
    · rw [quiet]
      exact steps'
    · rw [own]
      simp only [Option.toList_some, Run.steps, step', Option.bind_some]
      exact steps'

/-- A run that was not there before goes on from a fresh one. -/
lemma Sound.steps_fresh (sound : c.Sound) (steps : c.steps p as = some d)
    (absent : c.runs[i]? = none) (run : d.runs[i]? = some r) :
    Run.fresh.steps p.task (c.movesOf p i as) = some r := by
  induction as generalizing c with
  | nil =>
    cases steps
    rw [absent] at run
    cases run
  | cons a as ih =>
    obtain ⟨c', step, steps⟩ := Option.bind_eq_some_iff.1 steps
    have goes := Goes.of_step step
    have aff := sound.affects goes
    rw [movesOf_cons step, aff.moveOf_of_absent absent]
    -- The run is started by this step or by a later one.
    cases run' : c'.runs[i]? with
    | none => exact ih (sound.goes goes) steps run'
    | some r' =>
      obtain ⟨_, _, _, rfl⟩ := aff.run_of_absent absent run'
      obtain ⟨s, run'', steps'⟩ := (sound.goes goes).steps_run steps run'
      rw [run] at run''
      cases run''
      exact steps'

/-- Every run of a pump has come about from a fresh one by way of its history. -/
theorem leads_of_steps (steps : ({} : Control).steps p as = some c)
    (run : c.runs[i]? = some r) : Run.Leads p.task .fresh (historyOf p i as) r :=
  Run.Leads.of_steps (Sound.empty.steps_fresh steps rfl run)

/-- A call that is there keeps its number and its target while steps are made. -/
lemma call_of_steps (steps : c.steps p as = some d) {j : Nat} {k : Call}
    (call : c.calls[j]? = some k) :
    ∃ k', d.calls[j]? = some k' ∧ k'.target = k.target ∧
      (k.stage ≠ .clearing → k'.stage ≠ .clearing) := by
  induction as generalizing c k with
  | nil =>
    cases steps
    exact ⟨k, call, rfl, id⟩
  | cons a as ih =>
    obtain ⟨c', step, rest⟩ := Option.bind_eq_some_iff.1 steps
    obtain ⟨k', call', same, _, later⟩ := (Goes.of_step step).call call
    obtain ⟨k'', call'', same', later'⟩ := ih rest call'
    exact ⟨k'', call'', same'.trans same, fun first => later' (later first)⟩

/-- The running flag of a run is cleared from outside by a call that is aimed at the run. -/
lemma Goes.call_of_clear (step : Goes p c a c') (own : c.moveOf i a = some .clear) :
    ∃ j k, a = .advance j ∧ c'.calls[j]? = some k ∧ k.target = some i ∧
      k.stage ≠ .clearing := by
  cases a with
  | within n m =>
    cases step with
    | within others =>
      simp only [moveOf] at own
      split at own
      · cases own
        cases others
      · cases own
  | advance j =>
    obtain ⟨k, call, own⟩ := Option.bind_eq_some_iff.1 own
    split at own
    · next target =>
      cases step with
      | clear call' _ =>
        rw [call] at call'
        cases call'
        refine ⟨j, { k with stage := .notifying }, rfl, ?_, target, ?_⟩
        · simp [setStage, call]
        · intro first
          cases first
      | notifyLast call' stage | notify call' stage | notifyAgain call' stage
      | close call' stage | arrive call' stage =>
        rw [call] at call'
        cases call'
        rw [stage] at own
        cases own
    · cases own
  | start | startInVain | reap _ | stop | drop | join _ _ | expire _ => cases own

/-- A run whose running flag was cleared from outside is the target of a call that did so. -/
lemma exists_call_of_clear (steps : c.steps p as = some d)
    (cleared : .clear ∈ c.movesOf p i as) :
    ∃ j k, d.calls[j]? = some k ∧ k.target = some i ∧ k.stage ≠ .clearing ∧
      .advance j ∈ as := by
  induction as generalizing c with
  | nil => cases cleared
  | cons a as ih =>
    obtain ⟨c', step, rest⟩ := Option.bind_eq_some_iff.1 steps
    rw [movesOf_cons step] at cleared
    rcases List.mem_append.1 cleared with now | later
    · have own := Option.mem_toList.1 now
      obtain ⟨j, k, rfl, call, target, past⟩ := (Goes.of_step step).call_of_clear own
      obtain ⟨k', call', same, past'⟩ := call_of_steps rest call
      exact ⟨j, k', call', same.trans target, past' past, List.mem_cons_self⟩
    · obtain ⟨j, k, call, target, past, mem⟩ := ih rest later
      exact ⟨j, k, call, target, past, List.mem_cons_of_mem _ mem⟩

/-- A history tells of a request to stop only if the moves hold one. -/
lemma clear_mem_of_told {t : Task} {h : History} {ms : List Move}
    (told : (r.historyFrom t h ms).told = true) : h.told = true ∨ .clear ∈ ms := by
  induction ms generalizing h r with
  | nil => exact .inl told
  | cons m ms ih =>
    simp only [Run.historyFrom] at told
    split at told
    · exact .inl told
    · rcases ih told with told | mem
      · cases m with
        | clear => exact .inr List.mem_cons_self
        | _ => exact .inl told
      · exact .inr (List.mem_cons_of_mem _ mem)

/-- A run that was told to stop is the target of a call that told it. -/
lemma exists_call_of_told (steps : ({} : Control).steps p as = some c)
    (told : (historyOf p i as).told = true) :
    ∃ j k, c.calls[j]? = some k ∧ k.target = some i ∧ k.stage ≠ .clearing ∧
      .advance j ∈ as := by
  rcases clear_mem_of_told told with told | cleared
  · cases told
  · exact exists_call_of_clear steps cleared

end StreamRelay.Control
