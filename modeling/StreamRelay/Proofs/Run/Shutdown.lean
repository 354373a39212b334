import StreamRelay.Proofs.Run.Progress

/-!
# How a run that was told to stop winds down

From when the running flag is cleared, the worker writes no more than the piece that it has at hand
then, and it hears no more than one thing of its transport. Unless its result has been settled
before or is settled by that one thing, it stops.

Main statement: every run that can come about and has been told to stop winds down in this way,
whatever moves are made (`Leads.windsDown`).
-/

namespace StreamRelay

/-- How many more things a worker that was told to stop can hear of its transport. -/
def Phase.hearing : Phase → Nat
  | .preparing | .asking _ | .awaiting _ => 1
  | _ => 0

/-- Whether something that was heard, or that befell the worker, accounts for an exit. -/
def History.Decides (t : Task) (h : History) : Exit → Prop
  | .ended => .finished ∈ h.events
  | .requestFailed =>
    Url.parse? t.url = none ∨
      (∃ e : ClientError, e.isConnect = false ∧ .failed e ∈ h.replies) ∨ ∃ e, .broken e ∈ h.events
  | .httpStatus status => status ≠ 200 ∧ .answered status ∈ h.replies
  | .dnsFailure | .connectionFailed =>
    ∃ e : ClientError, e.isConnect = true ∧ .failed e ∈ h.replies
  | .unexpected => h.panicked = true ∨ t.chunkSize = 0 ∨ h.unready = true
  | .stopped | .readerGone => False

/-- An exit that tells the truth is one of a run that was told to stop, of one that lost its reader,
or accounted for by what was heard. -/
lemma Exit.Fits.decides {t : Task} {h : History} {e : Exit} (fits : e.Fits t h) :
    e = .stopped ∨ e = .readerGone ∨ h.Decides t e := by
  cases e with
  | stopped => exact .inl rfl
  | readerGone => exact .inr (.inl rfl)
  | ended =>
    obtain ⟨_, events, _⟩ := fits
    refine .inr (.inr ?_)
    rw [History.Decides, events]
    exact List.mem_append_right _ (List.mem_singleton_self _)
  | requestFailed =>
    refine .inr (.inr ?_)
    rcases fits with ⟨⟨bad, _⟩ | ⟨e, connected, replies⟩, _⟩ | ⟨_, ⟨e, events⟩, _⟩
    · exact .inl bad
    · exact .inr (.inl ⟨e, connected, by rw [replies]; exact List.mem_singleton_self _⟩)
    · refine .inr (.inr ⟨e, ?_⟩)
      rw [events]
      exact List.mem_append_right _ (List.mem_singleton_self _)
  | httpStatus status =>
    obtain ⟨other, replies, _⟩ := fits
    exact .inr (.inr ⟨other, by rw [replies]; exact List.mem_singleton_self _⟩)
  | dnsFailure | connectionFailed =>
    obtain ⟨⟨e, connecting, replies⟩, _⟩ := fits
    exact .inr (.inr ⟨e, connecting, by rw [replies]; exact List.mem_singleton_self _⟩)
  | unexpected =>
    refine .inr (.inr ?_)
    rcases fits with ⟨panicked | zero, _⟩ | ⟨unready, _⟩
    · exact .inl panicked
    · exact .inr (.inl zero)
    · exact .inr (.inr unready)

namespace Run

variable {t : Task} {h k : History} {r r' s : Run} {m : Move} {ms : List Move}

/-- A run that was told to stop writes no piece that it has not at hand. -/
lemma Goes.writes_off (step : Goes t r m r') (off : r.status.running = false) (k : History) :
    (k.after r m).writes ++ r'.phase.atHand <+: k.writes ++ r.phase.atHand := by
  cases step with
  | enter place on => rw [off] at on; cases on
  | shut place _ =>
    rw [place]
    exact (List.prefix_append_right_inj _).2 List.nil_prefix
  | hold place _ => rw [place]; exact List.prefix_refl _
  | snap place gone =>
    rw [Agrees.after_push_of_none (by simp [completed, place, gone])]
    exact (List.prefix_append_right_inj _).2 List.nil_prefix
  | pushPart place _ _ part =>
    rw [Agrees.after_push_of_none (by simp [completed, place, Nat.ne_of_lt part]), place]
    exact List.prefix_refl _
  | pushRest place here =>
    simp [History.after, completed, place, here, Phase.atHand]
  | panic _ => exact (List.prefix_append_right_inj _).2 List.nil_prefix
  | clear | notify _ | tryClose _ | read | leave | resolve _ => exact List.prefix_refl _
  | _ => exact (List.prefix_append_right_inj _).2 List.nil_prefix

/-- The conduit of a run that was told to stop takes in no byte that is not of the piece at hand. -/
lemma Goes.accepted_off (step : Goes t r m r') (off : r.status.running = false) :
    ∃ extra, r'.pipe.accepted = r.pipe.accepted ++ extra ∧
      extra ++ r'.phase.unsent <+: r.phase.unsent := by
  cases step with
  | enter place on => rw [off] at on; cases on
  | hold place _ =>
    rw [place]
    exact ⟨[], (List.append_nil _).symm, List.prefix_refl _⟩
  | @pushPart piece left rest n place _ _ _ =>
    rw [place]
    refine ⟨left.take n, rfl, ?_⟩
    simp only [Phase.unsent, List.take_append_drop]
    exact List.prefix_refl _
  | @pushRest piece left rest place _ =>
    rw [place]
    refine ⟨left, rfl, ?_⟩
    simp only [Phase.unsent, List.append_nil]
    exact List.prefix_refl _
  | tryClose _ =>
    refine ⟨[], ?_, List.prefix_refl _⟩
    rw [Pipe.accepted_tryClose, List.append_nil]
  | clear | notify _ | read | leave | resolve _ =>
    exact ⟨[], (List.append_nil _).symm, List.prefix_refl _⟩
  | _ => exact ⟨[], (List.append_nil _).symm, List.nil_prefix⟩

/-- A run that was told to stop hears one more thing of its transport at most. -/
lemma Goes.hearing_off (step : Goes t r m r') (off : r.status.running = false) (k : History) :
    (k.after r m).replies.length + (k.after r m).events.length + r'.phase.hearing ≤
      k.replies.length + k.events.length + r.phase.hearing := by
  cases step with
  | ask place on => rw [off] at on; cases on
  | panic _ => exact Nat.le_add_right _ _
  | _ => simp_all [History.after, Phase.hearing] <;> omega

/-- Whether a run has found its reader gone. -/
def HasLostReader (r : Run) : Prop :=
  r.phase = .concluding (.ok .readerGone) ∨ r.phase = .telling (.ok .readerGone) ∨
    r.phase = .recording .readerGone ∨ r.status.exit = some .readerGone

/-- Of all outcomes only that of a lost reader leads to its exit. -/
lemma eq_of_verdict_readerGone {o : Outcome} {s : Status} (gone : (o.verdict s).1 = .readerGone) :
    o = .ok .readerGone := by
  cases o with
  | ok exit =>
    cases gone
    rfl
  | error f =>
    cases f with
    | connect url cause =>
      simp only [Outcome.verdict] at gone
      split at gone <;> cases gone
    | _ => cases gone

/-- An exit is recorded now or has been before. -/
lemma exit_of_recordExit {s : Status} {e e' : Exit} (recorded : (s.recordExit e).exit = some e') :
    s.exit = some e' ∨ e = e' := by
  cases before : s.exit with
  | none =>
    rw [Status.exit_recordExit_of_none before] at recorded
    exact .inr (Option.some.inj recorded)
  | some e₀ =>
    rw [Status.recordExit_of_some before, before] at recorded
    exact .inl recorded

/-- A run finds its reader gone while it is going on, and writes so into its journal. -/
lemma Goes.lost (step : Goes t r m r') (lost : r'.HasLostReader) :
    r.HasLostReader ∨
      r.status.running = true ∧ ∃ error, Event.readerWentAway error ∈ r'.journal := by
  cases step with
  | @lose _ _ f _ on =>
    exact .inr ⟨on, f.text, List.mem_append_right _ (List.mem_singleton_self _)⟩
  -- The result was there before it is told, and the exit before it is recorded.
  | mark place =>
    left
    rcases lost with place' | place' | place' | exit
    · cases place'
    · exact .inl (Phase.telling.inj place' ▸ place)
    · cases place'
    · exact .inr (.inr (.inr ((Outcome.mark_exit _ _).symm.trans exit)))
  | tell place =>
    left
    rcases lost with place' | place' | place' | exit
    · cases place'
    · cases place'
    · exact .inr (.inl (eq_of_verdict_readerGone (Phase.recording.inj place') ▸ place))
    · exact .inr (.inr (.inr exit))
  | record place =>
    left
    rcases lost with place' | place' | place' | exit
    · cases place'
    · cases place'
    · cases place'
    · rcases exit_of_recordExit exit with before | rfl
      · exact .inr (.inr (.inr before))
      · exact .inr (.inr (.inl place))
  | recordPanic place =>
    left
    rcases lost with place' | place' | place' | exit
    · cases place'
    · cases place'
    · cases place'
    · rcases exit_of_recordExit exit with before | other
      · exact .inr (.inr (.inr before))
      · cases other
  | clear | notify _ | tryClose _ | read | leave | resolve _ => exact .inl lost
  | _ =>
    rcases lost with place' | place' | place' | exit
    · cases place'
    · cases place'
    · cases place'
    · exact .inl (.inr (.inr (.inr exit)))

/-- No entry is taken out of a journal. -/
lemma Goes.journal (step : Goes t r m r') : r.journal <+: r'.journal := by
  cases step with
  | lackClient | connect | count | tell | recordPanic | close | resolve | accept | lose =>
    exact List.prefix_append _ _
  | _ => exact List.prefix_refl _

/-- A run that has found its reader gone has written so into its journal. -/
lemma Leads.lost (leads : Leads t .fresh h r) (lost : r.HasLostReader) :
    ∃ error, Event.readerWentAway error ∈ r.journal := by
  induction leads with
  | refl => rcases lost with place | place | place | exit <;> contradiction
  | move _ step ih =>
    have goes := Goes.of_step step
    rcases goes.lost lost with before | ⟨_, told⟩
    · obtain ⟨error, mem⟩ := ih before
      exact ⟨error, goes.journal.subset mem⟩
    · exact told

/-- A worker that has got the stop signal and does not wait for the transport never does again. -/
lemma Goes.deaf (step : Goes t r m r')
    (armed : r.status.signal.isArmed = true ∨ r.phase.isBound = true)
    (off : r.status.running = false) (deaf : ∀ w, r.phase ≠ .awaiting w) (k : History) :
    (∀ w, r'.phase ≠ .awaiting w) ∧ (k.after r m).replies = k.replies ∧
      (k.after r m).events = k.events := by
  cases step with
  | await place quiet =>
    rw [Signal.look_fst] at quiet
    rw [quiet, place] at armed
    simp [Phase.isBound] at armed
  | silence place | resolve place | accept place | reject place _ | unconnected place | fail place
  | finish place | breakOff place | overflow place _ | cut place _ => exact absurd place (deaf _)
  | ask _ on => rw [off] at on; cases on
  | clear | notify _ | tryClose _ | read | leave => exact ⟨deaf, rfl, rfl⟩
  | _ =>
    refine ⟨?_, rfl, rfl⟩
    intro w place
    cases place

namespace Leads

/-- The running flag is not set again, however a run is led on. -/
lemma off (leads : Leads t r k s) (off : r.status.running = false) :
    s.status.running = false := by
  induction leads with
  | refl => exact off
  | move _ step ih => exact (Goes.of_step step).off ih

/-- Of all pieces only the one at hand is still written. -/
lemma writes_off (leads : Leads t r k s) (off : r.status.running = false) :
    k.writes ++ s.phase.atHand <+: r.phase.atHand := by
  induction leads with
  | refl => exact List.prefix_refl _
  | move leads step ih => exact ((Goes.of_step step).writes_off (leads.off off) _).trans ih

/-- Of all bytes only those of the piece at hand still go into the conduit. -/
lemma accepted_off (leads : Leads t r k s) (off : r.status.running = false) :
    ∃ extra, s.pipe.accepted = r.pipe.accepted ++ extra ∧
      extra ++ s.phase.unsent <+: r.phase.unsent := by
  induction leads with
  | refl => exact ⟨[], (List.append_nil _).symm, List.prefix_refl _⟩
  | move leads step ih =>
    obtain ⟨first, accepted, unsent⟩ := ih
    obtain ⟨next, accepted', unsent'⟩ := (Goes.of_step step).accepted_off (leads.off off)
    refine ⟨first ++ next, ?_, ?_⟩
    · rw [accepted', accepted, List.append_assoc]
    · rw [List.append_assoc]
      exact ((List.prefix_append_right_inj _).2 unsent').trans unsent

/-- At most one more thing is heard of the transport. -/
lemma hearing_off (leads : Leads t r k s) (off : r.status.running = false) :
    k.replies.length + k.events.length + s.phase.hearing ≤ r.phase.hearing := by
  induction leads with
  | refl => simp
  | move leads step ih => exact Nat.le_trans ((Goes.of_step step).hearing_off (leads.off off) _) ih

/-- A reader that is lost has been found gone before the run was told to stop. -/
lemma lost_off (leads : Leads t r k s) (off : r.status.running = false) (lost : s.HasLostReader) :
    r.HasLostReader := by
  induction leads with
  | refl => exact lost
  | move leads step ih =>
    rcases (Goes.of_step step).lost lost with before | ⟨on, _⟩
    · exact ih before
    · rw [leads.off off] at on
      cases on

/-- A worker that got the stop signal before it waits for the transport never waits for it. -/
lemma deaf (from_fresh : Leads t .fresh h r) (leads : Leads t r k s)
    (off : r.status.running = false) (notified : h.notified = true)
    (deaf : ∀ w, r.phase ≠ .awaiting w) :
    (∀ w, s.phase ≠ .awaiting w) ∧ k.replies = [] ∧ k.events = [] := by
  induction leads with
  | refl => exact ⟨deaf, rfl, rfl⟩
  | @move k s s' m leads step ih =>
    have mind := Minded.of_leads (from_fresh.trans leads)
    have armed := mind (by simp [History.thereafter, notified])
    obtain ⟨deaf', replies, events⟩ :=
      (Goes.of_step step).deaf armed (leads.off off) ih.1 k
    exact ⟨deaf', replies.trans ih.2.1, events.trans ih.2.2⟩

end Leads

/-- How a run `r` that was told to stop, with the history `h`, winds down when it becomes `s` by
more moves. -/
structure WindsDown (t : Task) (h : History) (r : Run) (ms : List Move) (s : Run) : Prop where
  /-- No piece is written any more but the one at hand. -/
  writes : (r.history t ms).writes <+: r.phase.atHand
  /-- The piece at hand is of at most the chunk size. -/
  sized : ∀ piece ∈ r.phase.atHand, piece.length ≤ t.chunkSize
  /-- No byte goes into the conduit any more but those that are left of that piece. -/
  bytes : ∃ extra, s.pipe.accepted = r.pipe.accepted ++ extra ∧ extra <+: r.phase.unsent
  /-- While the reader is there, the conduit holds whole pieces, the first of those received. -/
  untorn : s.phase.holdsWriteEnd = false → s.pipe.readerGone = false →
    (h.thereafter (r.history t ms)).panicked = false →
      s.pipe.accepted = (h.thereafter (r.history t ms)).bytes ∧
        (h.thereafter (r.history t ms)).Cut t
  /-- At most one more thing is heard of the transport. -/
  heard : (r.history t ms).replies.length + (r.history t ms).events.length ≤ r.phase.hearing
  /-- The run ends as stopped, unless what was heard decides otherwise, or its reader was found gone
  before. -/
  exit : ∀ e, s.status.exit = some e → e = .stopped ∨
    (h.thereafter (r.history t ms)).Decides t e ∨
      e = .readerGone ∧ ∃ error, .readerWentAway error ∈ r.journal
  /-- Nothing is asked of the server once the worker is about to find the stop signal. -/
  silent : h.notified = true → (∀ w, r.phase ≠ .awaiting w) →
    (∀ w, s.phase ≠ .awaiting w) ∧ (r.history t ms).replies = [] ∧ (r.history t ms).events = []
  /-- From the stop signal on the worker has few moves to make. -/
  prompt : h.notified = true → (ms.filter Move.isWorkers).length ≤ t.chunkSize + 10
  /-- The worker is done and has recorded an exit, or can make a move. -/
  live : s.phase = .over ∧ (∃ e, s.status.exit = some e) ∨
    ∃ m, m.isWorkers = true ∧ (s.step t m).isSome = true

/-- Every run that was told to stop winds down, whatever moves are made. -/
theorem Leads.windsDown (leads : Leads t .fresh h r) (off : r.status.running = false)
    (steps : r.steps t ms = some s) : WindsDown t h r ms s := by
  have on := Leads.of_steps steps
  have whole := leads.trans on
  refine
    { writes := ?writes, sized := ?sized, bytes := ?bytes, untorn := ?untorn, heard := ?heard,
      exit := ?exit, silent := ?silent, prompt := ?prompt, live := ?live }
  case writes => exact (List.prefix_append _ _).trans (on.writes_off off)
  case sized =>
    intro piece mem
    exact ((Agrees.of_leads leads).sized mem).2
  case bytes =>
    obtain ⟨extra, accepted, unsent⟩ := on.accepted_off off
    exact ⟨extra, accepted, (List.prefix_append _ _).trans unsent⟩
  case untorn =>
    intro free here calm
    exact ⟨(Carries.of_leads whole).accepted_eq free here calm, (Agrees.of_leads whole).cut⟩
  case heard =>
    have bound := on.hearing_off off
    omega
  case exit =>
    intro e recorded
    rcases (whole.fits recorded).decides with stopped | rfl | decides
    · exact .inl stopped
    · exact .inr (.inr ⟨rfl, leads.lost (on.lost_off off (.inr (.inr (.inr recorded))))⟩)
    · exact .inr (.inl decides)
  case silent =>
    intro notified deaf
    exact leads.deaf on off notified deaf
  case prompt =>
    intro notified
    exact leads.length_le off notified steps
  case live =>
    by_cases busy : s.phase = .over
    · have agrees := Agrees.of_leads whole
      simp only [Agrees, busy] at agrees
      obtain ⟨e, recorded, _⟩ := agrees
      exact .inl ⟨busy, e, recorded⟩
    · exact .inr (whole.exists_move busy)

end Run

end StreamRelay
