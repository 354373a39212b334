import StreamRelay.Proofs.Pump.Course
import StreamRelay.Proofs.Run.Shutdown

/-!
# What holds of every run of a pump

Whatever callers, workers, transports and readers do in whatever order, each run of a pump comes
about from a fresh one by moves of its own. What holds of such runs therefore holds of all runs of a
pump, with the calls that stop it as the only source of a request to stop.

Main statements: the exit that a run has recorded tells the truth about the bytes (`exit_accounts`),
and a run whose running flag is cleared winds down (`windsDown_of_steps`).
-/

namespace StreamRelay.Control

variable {p : Pump} {c d : Control} {as bs : List Action} {i : Nat} {r s : Run} {e : Exit}

/-- Whether the exit `e` of the run `r` with the number `i` accounts for what happened to the run by
the steps `as`, which have led to `c`. -/
structure Accounts (p : Pump) (as : List Action) (c : Control) (i : Nat) (r : Run) (e : Exit) :
    Prop where
  /-- The exit tells the truth about the transport and the pieces written. -/
  fits : e.Fits p.task (historyOf p i as)
  /-- The conduit has taken in the pieces written with success. -/
  written : (historyOf p i as).bytes <+: r.pipe.accepted
  /-- It has taken in nothing but what was received, in the same order. -/
  received : r.pipe.accepted <+: (historyOf p i as).chunks.flatten
  /-- With its reader there and no panic, it has taken in nothing but these pieces. -/
  whole : r.pipe.readerGone = false → (historyOf p i as).panicked = false →
    r.pipe.accepted = (historyOf p i as).bytes
  /-- A run has stopped because a call that is aimed at it has told it so. -/
  aimed : e = .stopped → ∃ j k, c.calls[j]? = some k ∧ k.target = some i ∧
    k.stage ≠ .clearing ∧ .advance j ∈ as

/-- The exit that a run has recorded accounts for what happened to it. -/
theorem exit_accounts (steps : ({} : Control).steps p as = some c) (run : c.runs[i]? = some r)
    (recorded : r.status.exit = some e) : Accounts p as c i r e := by
  have leads := leads_of_steps steps run
  have carries := Run.Carries.of_leads leads
  have fits := leads.fits recorded
  refine
    { fits, written := carries.bytes_isPrefix, received := leads.accepted_isPrefix, whole := ?whole,
      aimed := ?aimed }
  case whole =>
    apply carries.accepted_eq
    cases place : r.phase with
    | writing _ _ _ =>
      have unset := (Run.Orderly.of_leads leads).unset (by rw [place]; rfl)
      rw [recorded] at unset
      cases unset
    | _ => rfl
  case aimed =>
    rintro rfl
    exact exists_call_of_told steps fits.1

/-- A pump that writes two bytes at a time. -/
def pairwise : Pump := { url := "http://a/", settings := { chunkSize := 2 }, headers := [] }

/-- A run receives three bytes, and is told to stop when it has written the first of them. -/
def stopInWrite : List Action :=
  [.start, .within 0 .work, .within 0 .work, .within 0 (.reply (.answered 200)), .within 0 .work,
    .within 0 .work, .within 0 (.receive (.chunk [1, 2, 3])), .within 0 .work, .within 0 .work,
    .within 0 (.push 1), .stop, .advance 0]

/-- The call gives the stop signal and leaves the write end to the worker, which writes the second
byte and finds the running flag cleared before the third. -/
def endAfterWrite : List Action :=
  [.advance 0, .advance 0, .within 0 (.push 1), .within 0 .work, .within 0 .work, .within 0 .work,
    .within 0 .work, .within 0 .work, .within 0 .work]

/-- A run that is told to stop in the middle of a write has stopped after it. -/
theorem exit_accounts_stopInWrite :
    ∃ c r, ({} : Control).steps pairwise (stopInWrite ++ endAfterWrite) = some c ∧
      c.runs[0]? = some r ∧ r.status.exit = some .stopped ∧
      Accounts pairwise (stopInWrite ++ endAfterWrite) c 0 r .stopped := by
  have stopped : ((({} : Control).steps pairwise (stopInWrite ++ endAfterWrite)).bind
      (·.runs[0]?)).bind (·.status.exit) = some .stopped := by decide +kernel
  obtain ⟨r, run, recorded⟩ := Option.bind_eq_some_iff.1 stopped
  obtain ⟨c, steps, run⟩ := Option.bind_eq_some_iff.1 run
  exact ⟨c, r, steps, run, recorded, exit_accounts steps run recorded⟩

/-- A run whose running flag is cleared winds down, whatever steps are made from then on. -/
theorem windsDown_of_steps (steps : ({} : Control).steps p as = some c)
    (run : c.runs[i]? = some r) (off : r.status.running = false) (more : c.steps p bs = some d)
    (run' : d.runs[i]? = some s) :
    Run.WindsDown p.task (historyOf p i as) r (c.movesOf p i bs) s := by
  obtain ⟨s', run'', moves⟩ := (Sound.of_steps steps).steps_run more run
  rw [run'] at run''
  cases run''
  exact (leads_of_steps steps run).windsDown off moves

/-- A run that is told to stop in the middle of a write winds down after it, with both bytes of the
piece in its conduit. -/
theorem windsDown_stopInWrite :
    ∃ c r d s, ({} : Control).steps pairwise stopInWrite = some c ∧ c.runs[0]? = some r ∧
      r.status.running = false ∧ c.steps pairwise endAfterWrite = some d ∧
      d.runs[0]? = some s ∧ s.pipe.accepted = [1, 2] ∧
      Run.WindsDown pairwise.task (historyOf pairwise 0 stopInWrite) r
        (c.movesOf pairwise 0 endAfterWrite) s := by
  have told : ((({} : Control).steps pairwise stopInWrite).bind (·.runs[0]?)).map
      (·.status.running) = some false := by decide +kernel
  have written : ((({} : Control).steps pairwise stopInWrite).bind
      (fun c => (c.steps pairwise endAfterWrite).bind (·.runs[0]?))).map (·.pipe.accepted) =
        some [1, 2] := by decide +kernel
  obtain ⟨r, run, off⟩ := Option.map_eq_some_iff.1 told
  obtain ⟨c, steps, run⟩ := Option.bind_eq_some_iff.1 run
  rw [steps, Option.bind_some] at written
  obtain ⟨s, run', accepted⟩ := Option.map_eq_some_iff.1 written
  obtain ⟨d, more, run'⟩ := Option.bind_eq_some_iff.1 run'
  exact ⟨c, r, d, s, steps, run, off, more, run', accepted,
    windsDown_of_steps steps run off more run'⟩

end StreamRelay.Control
