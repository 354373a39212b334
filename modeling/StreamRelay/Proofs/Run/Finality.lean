import StreamRelay.Proofs.Run.Exit

/-!
# When the outcome of a run is final

A run shows in two ways that it is over: its running flag is cleared, and the write end of its
conduit is closed. Both come after the exit has been recorded, however the worker ends, as long as
nobody stops the run; and what has been recorded and counted by then stays as it is.

Main statement: the outcome of every run is final in this sense (`final_of_steps`), also of one
whose worker panics or turns out not to be set up.
-/

namespace StreamRelay

/-- Whether the worker panicked: at a place that nothing calls for, or because a chunk was to be cut
into pieces of size zero. -/
def History.Fell (t : Task) (h : History) : Prop :=
  h.panicked = true ∨ t.chunkSize = 0 ∧ h.chunks ≠ []

/-- Whether two statuses tell the same of the outcome. -/
structure Status.SameOutcome (s s' : Status) : Prop where
  exit : s'.exit = s.exit
  dnsFailure : s'.dnsFailure = s.dnsFailure
  pieces : s'.pieces = s.pieces
  bytes : s'.bytes = s.bytes

namespace Status.SameOutcome

variable {s s' s'' : Status}

/-- A status has the outcome that it has. -/
lemma refl (s : Status) : s.SameOutcome s := ⟨rfl, rfl, rfl, rfl⟩

/-- An outcome that stays the same twice stays the same. -/
lemma trans (first : s.SameOutcome s') (then_ : s'.SameOutcome s'') : s.SameOutcome s'' where
  exit := then_.exit.trans first.exit
  dnsFailure := then_.dnsFailure.trans first.dnsFailure
  pieces := then_.pieces.trans first.pieces
  bytes := then_.bytes.trans first.bytes

end Status.SameOutcome

/-- A status that an exit has been recorded on has an exit. -/
lemma Status.exists_exit_recordExit (s : Status) (e : Exit) :
    ∃ e', (s.recordExit e).exit = some e' := by
  cases recorded : s.exit with
  | none => exact ⟨e, exit_recordExit_of_none recorded e⟩
  | some e' => exact ⟨e', by rw [recordExit_of_some recorded, recorded]⟩

/-- A worker that has cleared the running flag has settled before. -/
lemma Phase.isSettled_of_isLast {p : Phase} (last : p.isLast = true) : p.isSettled = true := by
  cases p <;> first | rfl | cases last

/-- There is one place at which a worker is done. -/
lemma Phase.eq_over {p : Phase} (isOver : p.isOver = true) : p = .over := by
  cases p <;> first | rfl | cases isOver

namespace Run

variable {t : Task} {h k : History} {r r' s : Run} {m : Move} {ms ns : List Move}

/-- A write end that is closed is not opened again. -/
lemma Goes.closed (step : Goes t r m r') (closed : r.pipe.closed = true) :
    r'.pipe.closed = true := by
  cases step with
  | tryClose _ =>
    show (r.pipe.tryClose r.phase.holdsWriteEnd).2.closed = true
    cases r.phase.holdsWriteEnd with
    | false => rfl
    | true => exact closed
  | close | closeAgain => rfl
  | _ => exact closed

/-- A worker that has settled does not go back to its work. -/
lemma Goes.isSettled (step : Goes t r m r') (settled : r.phase.isSettled = true) :
    r'.phase.isSettled = true := by
  cases step with
  | settle | close | closeAgain => rfl
  | clear | notify | tryClose | read | leave => exact settled
  | panic work =>
    rw [Phase.isSettled_of_isAtWork work] at settled
    cases settled
  | _ place =>
    rw [place] at settled
    cases settled

/-- A worker that has settled leaves the outcome as it is. -/
lemma Goes.sameOutcome (step : Goes t r m r') (settled : r.phase.isSettled = true) :
    r.status.SameOutcome r'.status := by
  cases step with
  | settle | close | closeAgain | clear | notify | tryClose | read | leave =>
    exact ⟨rfl, rfl, rfl, rfl⟩
  | panic work =>
    rw [Phase.isSettled_of_isAtWork work] at settled
    cases settled
  | _ place =>
    rw [place] at settled
    cases settled

/-- How a worker comes to its end. -/
structure Ends (t : Task) (h : History) (r : Run) : Prop where
  /-- A worker that has settled has recorded an exit. -/
  recorded : r.phase.isSettled = true → ∃ e, r.status.exit = some e
  /-- A worker that is done has closed the write end. -/
  closed : r.phase = .over → r.pipe.closed = true
  /-- After a panic no other exit is recorded. -/
  fell : h.Fell t → r.phase = .unwinding ∨ r.status.exit = some .unexpected

/-- A panic is one that befell the worker before, or befalls it now. -/
lemma fell_of_after (fell : (h.after r m).Fell t) :
    h.Fell t ∨ m = .panic ∨ t.chunkSize = 0 ∧ ∃ bytes, m = .receive (.chunk bytes) := by
  cases m with
  | panic => exact .inr (.inl rfl)
  | receive e =>
    rcases fell with panicked | ⟨zero, chunks⟩
    · exact .inl (.inl panicked)
    · cases e with
      | chunk bytes => exact .inr (.inr ⟨zero, bytes, rfl⟩)
      | broken cause | finished =>
        rw [History.after, History.chunks_receive] at chunks
        exact .inl (.inr ⟨zero, fun none => chunks (by rw [none]; rfl)⟩)
  | _ => exact .inl fell

/-- After a panic the worker records that it failed by itself, and nothing else. -/
lemma Goes.fallen (step : Goes t r m r') (ord : Orderly h r)
    (fallen : r.phase = .unwinding ∨ r.status.exit = some .unexpected) :
    r'.phase = .unwinding ∨ r'.status.exit = some .unexpected := by
  cases step with
  | panic => exact .inl rfl
  | overflow => exact .inl rfl
  | recordPanic place =>
    right
    exact Status.exit_recordExit_of_none (ord.unset (by rw [place]; rfl)) _
  | clear | notify | tryClose | read | leave => exact fallen
  | mark place =>
    rw [place] at fallen
    rcases fallen with place' | recorded
    · cases place'
    · exact .inr ((Outcome.mark_exit _ _).trans recorded)
  | record place =>
    -- There would be an exit before the first is recorded.
    rcases fallen with place' | recorded
    · rw [place] at place'
      cases place'
    · rw [ord.unset (by rw [place]; rfl)] at recorded
      cases recorded
  | _ place =>
    rw [place] at fallen
    rcases fallen with place' | recorded
    · cases place'
    · exact .inr recorded

namespace Ends

/-- A worker that begins is far from its end. -/
lemma fresh : Ends t {} Run.fresh where
  recorded settled := by cases settled
  closed place := by cases place
  fell := by
    rintro (panicked | ⟨_, chunks⟩)
    · cases panicked
    · exact absurd rfl chunks

/-- A move keeps a worker on its way to such an end. -/
lemma goes (ends : Ends t h r) (ord : Orderly h r) (step : Goes t r m r') :
    Ends t (h.after r m) r' where
  recorded settled := by
    cases step with
    | record | recordPanic => exact r.status.exists_exit_recordExit _
    | settle place | close place | closeAgain place =>
      exact ends.recorded (by rw [place]; rfl)
    | clear | notify | tryClose | read | leave | resolve => exact ends.recorded settled
    | _ => cases settled
  closed place := by
    cases step with
    | close | closeAgain => rfl
    | tryClose off => exact (Goes.tryClose off : Goes t r _ _).closed (ends.closed place)
    | clear | notify | read | leave | resolve => exact ends.closed place
    | _ => cases place
  fell fell := by
    rcases fell_of_after fell with fell | rfl | ⟨zero, bytes, rfl⟩
    · exact step.fallen ord (ends.fell fell)
    · cases step
      exact .inl rfl
    · cases step with
      | overflow => exact .inl rfl
      | cut _ pos => omega

/-- Whatever happens to a worker, it is on its way to such an end. -/
lemma of_leads (leads : Leads t .fresh h r) : Ends t h r := by
  induction leads with
  | refl => exact fresh
  | move leads step ih => exact ih.goes (.of_leads leads) (.of_step step)

end Ends

/-- A worker that has settled leaves the outcome as it is, whatever moves are made. -/
lemma sameOutcome_of_isSettled (settled : r.phase.isSettled = true)
    (steps : r.steps t ms = some s) : r.status.SameOutcome s.status := by
  induction ms generalizing r with
  | nil =>
    cases steps
    exact .refl _
  | cons m ms ih =>
    obtain ⟨r', step, steps⟩ := Option.bind_eq_some_iff.1 steps
    have goes := Goes.of_step step
    exact (goes.sameOutcome settled).trans (ih (goes.isSettled settled) steps)

/-- A worker that has cleared the running flag leaves the outcome as it is, whatever moves are made.
-/
lemma sameOutcome_of_steps (last : r.phase.isLast = true) (steps : r.steps t ms = some s) :
    r.status.SameOutcome s.status :=
  sameOutcome_of_isSettled (Phase.isSettled_of_isLast last) steps

/-- In which way the outcome of a run is final when the run has come to `r` by the moves `ms`. -/
structure Final (t : Task) (ms : List Move) (r : Run) : Prop where
  /-- A worker that is done has cleared the running flag, recorded an exit and closed the write end.
  -/
  done : r.phase = .over →
    r.status.running = false ∧ (∃ e, r.status.exit = some e) ∧ r.pipe.closed = true
  /-- The exit of a worker that has panicked says so. -/
  fell : r.phase = .over → (Run.fresh.history t ms).Fell t → r.status.exit = some .unexpected
  /-- It is over for its caller when it is so for its reader, whoever closed the write end. -/
  closed : r.pipe.closed = true → r.status.running = false
  /-- Unless somebody stops the run, its exit is there before it is over for its caller. -/
  recorded : .clear ∉ ms → r.status.running = false → ∃ e, r.status.exit = some e
  /-- From then on the outcome stays as it is. -/
  stays : .clear ∉ ms → r.status.running = false →
    ∀ ns s, r.steps t ns = some s → r.status.SameOutcome s.status

/-- The outcome of every run is final when the run shows that it is over. -/
theorem final_of_steps (steps : Run.fresh.steps t ms = some r) : Final t ms r := by
  have leads := Leads.of_steps steps
  have ord := Orderly.of_leads leads
  have ends := Ends.of_leads leads
  have isLast : .clear ∉ ms → r.status.running = false → r.phase.isLast = true := by
    intro calm off
    rcases ord.told off with told | last
    · rw [history, historyFrom_told calm] at told
      cases told
    · exact last
  refine
    { done := ?done, fell := ?fell, closed := ord.closed,
      recorded := ?recorded, stays := ?stays }
  case done =>
    intro place
    exact ⟨ord.last (by rw [place]; rfl), ends.recorded (by rw [place]; rfl), ends.closed place⟩
  case fell =>
    intro place fell
    rcases ends.fell fell with place' | recorded
    · rw [place] at place'
      cases place'
    · exact recorded
  case recorded =>
    intro calm off
    exact ends.recorded (Phase.isSettled_of_isLast (isLast calm off))
  case stays =>
    intro calm off ns s more
    exact sameOutcome_of_steps (isLast calm off) more

/-- A task that cuts chunks into pieces of size zero. -/
def cutToNothing : Task := { url := "http://a/", chunkSize := 0 }

/-- The first chunk makes the worker panic, which it tells and records before it ends. -/
def overflowing : List Move :=
  [.work, .work, .reply (.answered 200), .work, .work, .receive (.chunk [1]), .work, .work, .work]

/-- The outcome of a run that panics over its first chunk is final. -/
theorem final_overflowing :
    ∃ r, fresh.steps cutToNothing overflowing = some r ∧ r.phase = .over ∧
      r.status.exit = some .unexpected ∧ r.pipe.closed = true ∧
      Final cutToNothing overflowing r := by
  have ended : (fresh.steps cutToNothing overflowing).map
      (fun r => (r.phase.isOver, r.status.exit, r.pipe.closed)) =
        some (true, some .unexpected, true) := by decide +kernel
  obtain ⟨r, steps, facts⟩ := Option.map_eq_some_iff.1 ended
  obtain ⟨isOver, facts⟩ := Prod.mk.inj facts
  obtain ⟨exit, closed⟩ := Prod.mk.inj facts
  exact ⟨r, steps, Phase.eq_over isOver, exit, closed, final_of_steps steps⟩

end Run

end StreamRelay
