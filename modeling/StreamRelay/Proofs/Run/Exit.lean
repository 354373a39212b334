import StreamRelay.Proofs.Run.Order

/-!
# What an exit tells

An exit says what the transport did and how much of the body went into the conduit. The invariant
behind it follows the worker: what it has written and what it has still to write of the chunk at
hand are together the pieces of the chunks that it received.

Main statements: the pieces written are at any time the first of those that the received chunks
consist of (`Agrees.cut`), and an exit that a run has recorded fits its history (`Leads.fits`).
-/

namespace StreamRelay

namespace History

/-- The pieces that were written are the first of those that the received chunks consist of. -/
def Cut (t : Task) (h : History) : Prop :=
  h.writes <+: h.chunks.flatMap (Bytes.pieces t.chunkSize)

/-- All that was received has been written, piece by piece. -/
def Whole (t : Task) (h : History) : Prop :=
  h.writes = h.chunks.flatMap (Bytes.pieces t.chunkSize) ∧ h.bytes = h.chunks.flatten

/-- Nothing has been heard of the transport, and nothing written. -/
def Unheard (h : History) : Prop := h.replies = [] ∧ h.events = [] ∧ h.writes = []

/-- The request was granted, only chunks came since, and of their pieces all have been written but
those of `rest`. -/
structure Forwards (t : Task) (h : History) (rest : List Bytes) : Prop where
  replies : h.replies = [.answered 200]
  events : h.events = h.chunks.map .chunk
  writes : h.writes ++ rest = h.chunks.flatMap (Bytes.pieces t.chunkSize)
  cuts : 0 < t.chunkSize ∨ h.chunks = []

/-- Whatever else happened, `h` and `k` agree on the transport and the conduit, and others have done
to a run in `k` what they did in `h`. -/
structure Extends (h k : History) : Prop where
  replies : k.replies = h.replies
  events : k.events = h.events
  writes : k.writes = h.writes
  told : h.told = true → k.told = true
  left : h.left = true → k.left = true
  panicked : h.panicked = true → k.panicked = true
  unready : h.unready = true → k.unready = true

end History

/-- Whether an exit tells the truth about what happened to a run. -/
def Exit.Fits (t : Task) (h : History) : Exit → Prop
  | .ended =>
    h.replies = [.answered 200] ∧ h.events = h.chunks.map .chunk ++ [.finished] ∧ h.Whole t
  | .requestFailed =>
    (Url.parse? t.url = none ∧ h.replies = [] ∨
          ∃ e : ClientError, e.isConnect = false ∧ h.replies = [.failed e]) ∧
        h.events = [] ∧ h.writes = [] ∨
      h.replies = [.answered 200] ∧
        (∃ e, h.events = h.chunks.map .chunk ++ [.broken e]) ∧ h.Whole t
  | .httpStatus status =>
    status ≠ 200 ∧ h.replies = [.answered status] ∧ h.events = [] ∧ h.writes = []
  | .dnsFailure | .connectionFailed =>
    (∃ e : ClientError, e.isConnect = true ∧ h.replies = [.failed e]) ∧
      h.events = [] ∧ h.writes = []
  | .stopped => h.told = true ∧ h.Cut t
  | .readerGone => h.left = true ∧ h.Cut t
  | .unexpected =>
    (h.panicked = true ∨ t.chunkSize = 0) ∧ h.Cut t ∨ h.unready = true ∧ h.Unheard

/-- The history that belongs to the place of a worker. -/
def Run.Agrees (t : Task) (h : History) (r : Run) : Prop :=
  match r.phase with
  | .preparing | .asking .reply | .awaiting .reply => h.Unheard
  | .asking .body | .awaiting .body | .betweenChunks => h.Forwards t []
  | .forwarding rest | .written _ none rest => h.Forwards t rest
  | .entering piece rest | .writing piece _ rest | .written piece (some _) rest =>
    h.Forwards t (piece :: rest)
  | .concluding o | .telling o => (o.verdict r.status).1.Fits t h
  | .recording e => e.Fits t h
  | .unwinding => Exit.unexpected.Fits t h
  | .settling | .closing | .over => ∃ e, r.status.exit = some e ∧ e.Fits t h

/-- The pieces of some byte strings join to these again. -/
lemma Bytes.flatten_flatMap_pieces {size : Nat} (pos : 0 < size) (cs : List Bytes) :
    (cs.flatMap (pieces size)).flatten = cs.flatten := by
  induction cs with
  | nil => rfl
  | cons c cs ih => simp [flatten_pieces pos, ih]

namespace History

variable {t : Task} {h k : History} {rest : List Bytes}

/-- An event adds the chunk that it brings. -/
lemma chunks_receive (h : History) (e : BodyEvent) :
    ({ h with events := h.events ++ [e] } : History).chunks = h.chunks ++ e.chunk?.toList := by
  cases e <;> simp [chunks, BodyEvent.chunk?]

/-- What was written and what is left make up what was received. -/
lemma Forwards.flatten (fwd : h.Forwards t rest) : h.bytes ++ rest.flatten = h.chunks.flatten := by
  rw [bytes, ← List.flatten_append, fwd.writes]
  rcases fwd.cuts with pos | none
  · exact Bytes.flatten_flatMap_pieces pos _
  · rw [none]
    rfl

/-- Where no piece is left, all that was received has been written. -/
lemma Forwards.whole (fwd : h.Forwards t []) : h.Whole t := by
  have writes := fwd.writes
  have bytes := fwd.flatten
  rw [List.append_nil] at writes
  rw [List.flatten_nil, List.append_nil] at bytes
  exact ⟨writes, bytes⟩

/-- What ends a body brings no chunk, and leaves nothing to be written. -/
lemma Forwards.last (fwd : h.Forwards t []) {e : BodyEvent} (none : e.chunk? = none) :
    ({ h with events := h.events ++ [e] } : History).events =
        ({ h with events := h.events ++ [e] } : History).chunks.map .chunk ++ [e] ∧
      ({ h with events := h.events ++ [e] } : History).Whole t := by
  have chunks := h.chunks_receive e
  rw [none, Option.toList_none, List.append_nil] at chunks
  refine ⟨?_, ?_⟩
  · rw [chunks, ← fwd.events]
  · rw [Whole, chunks]
    exact fwd.whole

/-- Where pieces are left, the first have been written. -/
lemma Forwards.cut (fwd : h.Forwards t rest) : h.Cut t := ⟨rest, fwd.writes⟩

/-- Where nothing has been heard, nothing has been written. -/
lemma Unheard.cut (un : h.Unheard) : h.Cut t := by
  rw [Cut, un.2.2]
  exact List.nil_prefix

/-- What is received later does not change which pieces come first. -/
lemma Cut.receive (cut : h.Cut t) (e : BodyEvent) :
    ({ h with events := h.events ++ [e] } : History).Cut t := by
  rw [Cut, chunks_receive, List.flatMap_append]
  exact cut.trans (List.prefix_append _ _)

/-- Where nothing has been written, the first pieces of any chunks have been written. -/
lemma cut_of_writes_eq_nil (none : h.writes = []) : h.Cut t := by
  rw [Cut, none]
  exact List.nil_prefix

namespace Extends

/-- The same chunks were received. -/
lemma chunks (ext : h.Extends k) : k.chunks = h.chunks := by
  rw [History.chunks, History.chunks, ext.events]

/-- What was written comes first of what was received, whatever others have done to a run. -/
lemma cut (ext : h.Extends k) (cut : h.Cut t) : k.Cut t := by
  rw [Cut, ext.writes, ext.chunks]
  exact cut

/-- All that was received has been written, whatever others have done to a run. -/
lemma whole (ext : h.Extends k) (whole : h.Whole t) : k.Whole t := by
  rw [Whole, bytes, ext.writes, ext.chunks]
  exact whole

/-- Nothing has been heard, whatever others have done to a run. -/
lemma unheard (ext : h.Extends k) (un : h.Unheard) : k.Unheard := by
  rw [Unheard, ext.replies, ext.events, ext.writes]
  exact un

/-- The pieces that are left are the same, whatever others have done to a run. -/
lemma forwards (ext : h.Extends k) (fwd : h.Forwards t rest) : k.Forwards t rest where
  replies := ext.replies.trans fwd.replies
  events := by rw [ext.events, ext.chunks]; exact fwd.events
  writes := by rw [ext.writes, ext.chunks]; exact fwd.writes
  cuts := by rw [ext.chunks]; exact fwd.cuts

/-- An exit goes on to tell the truth. -/
lemma fits (ext : h.Extends k) {e : Exit} (fits : e.Fits t h) : e.Fits t k := by
  cases e with
  | ended =>
    obtain ⟨replies, events, whole⟩ := fits
    refine ⟨ext.replies.trans replies, ?_, ext.whole whole⟩
    rw [ext.events, ext.chunks]
    exact events
  | requestFailed =>
    rcases fits with ⟨request, events, writes⟩ | ⟨replies, events, whole⟩
    · refine .inl ⟨?_, ext.events.trans events, ext.writes.trans writes⟩
      rw [ext.replies]
      exact request
    · refine .inr ⟨ext.replies.trans replies, ?_, ext.whole whole⟩
      rw [ext.events, ext.chunks]
      exact events
  | httpStatus status =>
    obtain ⟨other, replies, events, writes⟩ := fits
    exact ⟨other, ext.replies.trans replies, ext.events.trans events, ext.writes.trans writes⟩
  | dnsFailure | connectionFailed =>
    obtain ⟨⟨e, connecting, replies⟩, events, writes⟩ := fits
    exact ⟨⟨e, connecting, ext.replies.trans replies⟩, ext.events.trans events,
      ext.writes.trans writes⟩
  | stopped => exact ⟨ext.told fits.1, ext.cut fits.2⟩
  | readerGone => exact ⟨ext.left fits.1, ext.cut fits.2⟩
  | unexpected =>
    rcases fits with ⟨fell, cut⟩ | ⟨unready, unheard⟩
    · exact .inl ⟨fell.imp_left ext.panicked, ext.cut cut⟩
    · exact .inr ⟨ext.unready unready, ext.unheard unheard⟩

end Extends

end History

/-- With an exit that tells the truth, the pieces written are the first of those received. -/
lemma Exit.Fits.cut {t : Task} {h : History} {e : Exit} (fits : e.Fits t h) : h.Cut t := by
  cases e with
  | ended => exact ⟨[], by rw [List.append_nil]; exact fits.2.2.1⟩
  | requestFailed =>
    rcases fits with ⟨_, _, writes⟩ | ⟨_, _, whole⟩
    · exact History.cut_of_writes_eq_nil writes
    · exact ⟨[], by rw [List.append_nil]; exact whole.1⟩
  | httpStatus status => exact History.cut_of_writes_eq_nil fits.2.2.2
  | dnsFailure | connectionFailed => exact History.cut_of_writes_eq_nil fits.2.2
  | stopped | readerGone => exact fits.2
  | unexpected =>
    rcases fits with ⟨_, cut⟩ | ⟨_, unheard⟩
    · exact cut
    · exact unheard.cut

/-- The exit that an outcome leads to does not depend on the status. -/
lemma Outcome.verdict_fst (o : Outcome) (s s' : Status) : (o.verdict s).1 = (o.verdict s').1 := by
  cases o with
  | ok exit => rfl
  | error f => cases f <;> rfl

namespace Run.Agrees

variable {t : Task} {h k : History} {r r' s : Run} {m : Move}

/-- Wherever the worker is, the pieces written are the first of those received. -/
theorem cut (agrees : r.Agrees t h) : h.Cut t := by
  unfold Agrees at agrees
  split at agrees
  case h_1 | h_2 | h_3 => exact agrees.cut
  case h_4 | h_5 | h_6 | h_7 | h_8 | h_9 | h_10 | h_11 => exact agrees.cut
  case h_12 | h_13 | h_14 | h_15 => exact Exit.Fits.cut agrees
  all_goals
    obtain ⟨e, _, fits⟩ := agrees
    exact fits.cut

/-- What leaves the worker at its place does not spoil the agreement. -/
lemma extend (agrees : r.Agrees t h) (ext : h.Extends k) (place : s.phase = r.phase)
    (exit : s.status.exit = r.status.exit) : s.Agrees t k := by
  unfold Agrees at agrees ⊢
  rw [place, exit]
  split at agrees
  case h_1 | h_2 | h_3 => exact ext.unheard agrees
  case h_4 | h_5 | h_6 | h_7 | h_8 | h_9 | h_10 | h_11 => exact ext.forwards agrees
  case h_12 o _ | h_13 o _ =>
    rw [o.verdict_fst s.status r.status]
    exact ext.fits agrees
  case h_14 | h_15 => exact ext.fits agrees
  all_goals
    obtain ⟨e, recorded, fits⟩ := agrees
    exact ⟨e, recorded, ext.fits fits⟩

/-- A worker that finds the running flag cleared stops truthfully. -/
lemma stopped (agrees : r.Agrees t h) (ord : Orderly h r) (off : r.status.running = false)
    (early : r.phase.isLast = false) : Exit.stopped.Fits t h := by
  refine ⟨?_, agrees.cut⟩
  rcases ord.told off with told | last
  · exact told
  · rw [early] at last
    cases last

/-- The place that a worker is at when it begins to read a body. -/
lemma forwards_accept (un : h.Unheard) :
    ({ h with replies := h.replies ++ [.answered 200] } : History).Forwards t [] := by
  obtain ⟨replies, events, writes⟩ := un
  have chunks : h.chunks = [] := by rw [History.chunks, events]; rfl
  exact
    { replies := by simp [replies]
      events := by simp [History.chunks, events]
      writes := by simpa [History.chunks, events] using writes
      cuts := .inr chunks }

/-- The place that a worker is at when it has cut a chunk. -/
lemma forwards_cut (pos : 0 < t.chunkSize) (fwd : h.Forwards t []) (bytes : Bytes) :
    ({ h with events := h.events ++ [.chunk bytes] } : History).Forwards t
      (bytes.pieces t.chunkSize) where
  replies := fwd.replies
  events := by
    rw [History.chunks_receive, List.map_append, ← fwd.events]
    rfl
  writes := by
    have writes := fwd.writes
    rw [List.append_nil] at writes
    rw [History.chunks_receive, List.flatMap_append, ← writes]
    simp [BodyEvent.chunk?]
  cuts := .inl pos

/-- What a piece that is not written to its end adds to a history. -/
lemma after_push_of_none {n : Nat} (none : r.completed n = none) :
    h.after r (.push n) = h := by
  simp [History.after, none]

/-- A move of a worker leaves it at a place that its history belongs to. -/
theorem goes (agrees : r.Agrees t h) (ord : Orderly h r) (step : Goes t r m r') :
    r'.Agrees t (h.after r m) := by
  cases step with
  | lackRuntime place | lackClient place =>
    simp only [Agrees, place] at agrees
    exact .inr ⟨rfl, agrees⟩
  | refuse place bad =>
    simp only [Agrees, place] at agrees
    exact .inl ⟨.inl ⟨bad, agrees.1⟩, agrees.2⟩
  | connect place _ | ask place _ | emptied place | enter place _ | shut place _ | hold place _
  | count place | tell place | settle place | close place _ | closeAgain place _ =>
    simp only [Agrees, place] at agrees
    exact agrees
  | @mark o place =>
    simp only [Agrees, place] at agrees
    show (o.verdict (o.mark r.status)).1.Fits t h
    rw [o.verdict_fst _ r.status]
    exact agrees
  | @await w place _ | @silence w place =>
    simp only [Agrees, place] at agrees
    cases w <;> exact agrees
  | hear place ready =>
    -- The signal is there only for a run that was told to stop.
    rw [Signal.look_fst] at ready
    exact agrees.stopped ord (ord.off_of_isArmed ready) (by rw [place]; rfl)
  | leaveLoop place off | leavePiece place off | leaveFailed place off =>
    exact agrees.stopped ord off (by rw [place]; rfl)
  | lose place on => exact ⟨ord.gone (ord.failed place on), agrees.cut⟩
  | record place | recordPanic place =>
    -- Nothing has been recorded yet, so that this exit is the one that is kept.
    have unset := ord.unset (by rw [place]; rfl)
    simp only [Agrees, place] at agrees
    exact ⟨_, Status.exit_recordExit_of_none unset _, agrees⟩
  | accept place =>
    simp only [Agrees, place] at agrees
    exact forwards_accept agrees
  | reject place other =>
    simp only [Agrees, place] at agrees
    obtain ⟨replies, events, writes⟩ := agrees
    exact ⟨other, by simp [History.after, replies], events, writes⟩
  | @unconnected e place connecting =>
    simp only [Agrees, place] at agrees
    obtain ⟨replies, events, writes⟩ := agrees
    have fits : Exit.connectionFailed.Fits t (h.after r (.reply (.failed e))) :=
      ⟨⟨e, connecting, by simp [History.after, replies]⟩, events, writes⟩
    simp only [Agrees, conclude, goTo, Outcome.verdict]
    split <;> exact fits
  | @fail e place connected =>
    simp only [Agrees, place] at agrees
    obtain ⟨replies, events, writes⟩ := agrees
    exact .inl ⟨.inr ⟨e, connected, by simp [History.after, replies]⟩, events, writes⟩
  | finish place =>
    simp only [Agrees, place] at agrees
    exact ⟨agrees.replies, agrees.last rfl⟩
  | @breakOff e place =>
    simp only [Agrees, place] at agrees
    obtain ⟨events, whole⟩ := agrees.last (e := .broken e) rfl
    exact .inr ⟨agrees.replies, ⟨e, events⟩, whole⟩
  | overflow place zero => exact .inl ⟨.inr zero, agrees.cut.receive _⟩
  | cut place pos =>
    simp only [Agrees, place] at agrees
    exact forwards_cut pos agrees _
  | snap place gone =>
    simp only [Agrees, place] at agrees
    rw [after_push_of_none (by simp [completed, place, gone])]
    exact agrees
  | pushPart place here pos part =>
    simp only [Agrees, place] at agrees
    rw [after_push_of_none (by simp [completed, place, Nat.ne_of_lt part])]
    exact agrees
  | @pushRest piece left rest place here =>
    simp only [Agrees, place] at agrees
    -- The piece passes from those that are left to those that were written.
    have done : r.completed left.length = some piece := by simp [completed, place, here]
    refine ⟨agrees.replies, agrees.events, ?_, agrees.cuts⟩
    show (h.writes ++ (r.completed left.length).toList) ++ rest = h.chunks.flatMap _
    rw [done, Option.toList_some, List.append_assoc]
    exact agrees.writes
  | panic work => exact .inl ⟨.inl rfl, agrees.cut⟩
  | clear => exact agrees.extend ⟨rfl, rfl, rfl, fun _ => rfl, id, id, id⟩ rfl rfl
  | leave => exact agrees.extend ⟨rfl, rfl, rfl, id, fun _ => rfl, id, id⟩ rfl rfl
  | notify _ | tryClose _ | read | resolve _ =>
    exact agrees.extend ⟨rfl, rfl, rfl, id, id, id, id⟩ rfl rfl

/-- The worker of every run that can come about is at a place that its history belongs to. -/
theorem of_leads (leads : Leads t .fresh h r) : r.Agrees t h := by
  induction leads with
  | refl => exact ⟨rfl, rfl, rfl⟩
  | move leads step ih => exact ih.goes (.of_leads leads) (.of_step step)

end Run.Agrees

/-- An exit that a run has recorded tells the truth about what happened to it. -/
theorem Run.Leads.fits {t : Task} {h : History} {r : Run} {e : Exit} (leads : Leads t .fresh h r)
    (recorded : r.status.exit = some e) : e.Fits t h := by
  have agrees := Agrees.of_leads leads
  have unset := (Orderly.of_leads leads).unset
  rw [recorded] at unset
  unfold Agrees at agrees
  split at agrees
  case h_16 | h_17 | h_18 =>
    obtain ⟨e', recorded', fits⟩ := agrees
    rw [recorded] at recorded'
    cases recorded'
    exact fits
  all_goals
    next place => rw [place] at unset; cases unset rfl

end StreamRelay
