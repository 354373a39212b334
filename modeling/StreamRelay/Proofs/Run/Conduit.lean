import StreamRelay.Proofs.Run.Exit

/-!
# What a run puts into its conduit

The conduit takes in the pieces of the received chunks in their order. A piece goes in whole or not
at all while somebody holds the read end, whoever tries to close the write end meanwhile: the end is
held for as long as a piece is written.

Main statements: apart from a piece in the middle of its write, the conduit has taken in exactly the
pieces written with success (`Carries.of_leads`, `Carries.accepted_eq`), and all that it has taken
in stands at the beginning of the received chunks (`Leads.accepted_isPrefix`).
-/

namespace StreamRelay

namespace Phase

/-- The piece that a worker is about to write or in the middle of writing. -/
def atHand : Phase → List Bytes
  | .entering piece _ | .writing piece _ _ => [piece]
  | _ => []

/-- What the conduit has not taken in yet of the piece at hand. -/
def unsent : Phase → Bytes
  | .entering piece _ => piece
  | .writing _ left _ => left
  | _ => []

/-- Whether a worker is done with writing. -/
def isDone : Phase → Bool
  | .written _ (some _) _ => true
  | p => p.isBound

end Phase

/-- The pieces that are left of received chunks are not empty, and of at most the chunk size. -/
lemma History.Forwards.sized {t : Task} {h : History} {rest : List Bytes} (fwd : h.Forwards t rest)
    {piece : Bytes} (mem : piece ∈ rest) : 0 < piece.length ∧ piece.length ≤ t.chunkSize := by
  have mem' : piece ∈ h.chunks.flatMap (Bytes.pieces t.chunkSize) :=
    fwd.writes ▸ List.mem_append_right _ mem
  obtain ⟨chunk, _, mem''⟩ := List.mem_flatMap.1 mem'
  exact Bytes.length_of_mem_pieces mem''

namespace Run

variable {t : Task} {h : History} {r r' : Run} {m : Move}

/-- The pieces that a worker has at hand are not empty, and of at most the chunk size. -/
lemma Agrees.sized (agrees : r.Agrees t h) {piece : Bytes} (mem : piece ∈ r.phase.atHand) :
    0 < piece.length ∧ piece.length ≤ t.chunkSize := by
  cases place : r.phase with
  | entering p rest | writing p left rest =>
    simp only [Agrees, place] at agrees
    rw [place] at mem
    rw [List.mem_singleton.1 mem]
    exact agrees.sized List.mem_cons_self
  | _ =>
    rw [place] at mem
    cases mem

/-- What the conduit has taken in: the pieces written with success, and behind them the beginning
of a piece in the middle of its write. Such a beginning stays there alone only if the reader went
away or the worker panicked. -/
def Carries (h : History) (r : Run) : Prop :=
  match r.phase with
  | .writing piece left _ =>
    ∃ torn, piece = torn ++ left ∧ left ≠ [] ∧ r.pipe.accepted = h.bytes ++ torn
  | p =>
    ∃ torn, r.pipe.accepted = h.bytes ++ torn ∧
      (torn ≠ [] → p.isDone = true ∧ (r.pipe.readerGone = true ∨ h.panicked = true))

namespace Carries

/-- Outside a write, the conduit holds whole pieces while the reader is there. -/
theorem accepted_eq (carries : r.Carries h) (free : r.phase.holdsWriteEnd = false)
    (here : r.pipe.readerGone = false) (calm : h.panicked = false) : r.pipe.accepted = h.bytes := by
  unfold Carries at carries
  split at carries
  · next place =>
    rw [place] at free
    cases free
  · obtain ⟨torn, accepted, gone⟩ := carries
    cases torn with
    | nil => rw [accepted, List.append_nil]
    | cons b bs =>
      have bad := (gone (by simp)).2
      simp [here, calm] at bad

/-- The conduit has taken in all pieces that were written with success. -/
theorem bytes_isPrefix (carries : r.Carries h) : h.bytes <+: r.pipe.accepted := by
  unfold Carries at carries
  split at carries
  · obtain ⟨torn, _, _, accepted⟩ := carries
    exact ⟨torn, accepted.symm⟩
  · obtain ⟨torn, accepted, _⟩ := carries
    exact ⟨torn, accepted.symm⟩

/-- Where no piece is in the middle of its write, a torn one can stand last only when the worker is
done with writing. -/
lemma iff_of_free (free : r.phase.holdsWriteEnd = false) :
    r.Carries h ↔ ∃ torn, r.pipe.accepted = h.bytes ++ torn ∧
      (torn ≠ [] → r.phase.isDone = true ∧ (r.pipe.readerGone = true ∨ h.panicked = true)) := by
  unfold Carries
  split
  · next place =>
    rw [place] at free
    cases free
  · rfl

/-- A worker that is not done with writing has written whole pieces only. -/
lemma accepted_of_not_isDone (carries : r.Carries h) (free : r.phase.holdsWriteEnd = false)
    (busy : r.phase.isDone = false) : r.pipe.accepted = h.bytes := by
  obtain ⟨torn, accepted, done⟩ := (iff_of_free free).1 carries
  cases torn with
  | nil => rw [accepted, List.append_nil]
  | cons b bs =>
    have done := (done (by simp)).1
    rw [busy] at done
    cases done

/-- What leaves the worker outside a write and the conduit alone tears no piece. -/
lemma stay {k : History} (carries : r.Carries h) (free : r.phase.holdsWriteEnd = false)
    (free' : r'.phase.holdsWriteEnd = false) (done : r.phase.isDone = true → r'.phase.isDone = true)
    (pipe : r'.pipe.accepted = r.pipe.accepted ∧ r'.pipe.readerGone = r.pipe.readerGone)
    (same : k.writes = h.writes ∧ k.panicked = h.panicked) : r'.Carries k := by
  rw [iff_of_free free] at carries
  rw [iff_of_free free', pipe.1, pipe.2, History.bytes, same.1, same.2]
  obtain ⟨torn, accepted, torn_done⟩ := carries
  exact ⟨torn, accepted, fun ne => ⟨done (torn_done ne).1, (torn_done ne).2⟩⟩

/-- What leaves the worker at its place and the conduit alone tears no piece. -/
lemma extend {k : History} (carries : r.Carries h) (place : r'.phase = r.phase)
    (accepted : r'.pipe.accepted = r.pipe.accepted) (writes : k.writes = h.writes)
    (gone : r.pipe.readerGone = true → r'.pipe.readerGone = true)
    (panicked : k.panicked = h.panicked) : r'.Carries k := by
  unfold Carries at carries ⊢
  rw [place, accepted, History.bytes, writes, panicked]
  split at carries
  · exact carries
  · obtain ⟨torn, same, torn_done⟩ := carries
    exact ⟨torn, same, fun ne => ⟨(torn_done ne).1, (torn_done ne).2.imp_left gone⟩⟩

/-- A move tears no piece, unless the reader is gone or the worker panics. -/
theorem goes (carries : r.Carries h) (agrees : r.Agrees t h) (step : Goes t r m r') :
    r'.Carries (h.after r m) := by
  cases step with
  | @hold piece rest place opened =>
    -- A write begins with nothing torn, and with something to write.
    have accepted := carries.accepted_of_not_isDone (by rw [place]; rfl) (by rw [place]; rfl)
    have mem : piece ∈ r.phase.atHand := by rw [place]; exact List.mem_singleton_self _
    have sized := agrees.sized mem
    exact ⟨[], rfl, List.ne_nil_of_length_pos sized.1, by rw [List.append_nil]; exact accepted⟩
  | snap place gone =>
    rw [Agrees.after_push_of_none (by simp [completed, place, gone])]
    -- What has gone in of the piece stays behind for a reader that is gone.
    obtain ⟨torn, accepted⟩ := carries.bytes_isPrefix
    exact ⟨torn, accepted.symm, fun _ => ⟨rfl, .inl gone⟩⟩
  | @pushPart piece left rest n place here pos part =>
    rw [Agrees.after_push_of_none (by simp [completed, place, Nat.ne_of_lt part])]
    simp only [Carries, place] at carries
    obtain ⟨torn, whole, _, accepted⟩ := carries
    refine ⟨torn ++ left.take n, ?_, ?_, ?_⟩
    · rw [List.append_assoc, List.take_append_drop]
      exact whole
    · apply List.ne_nil_of_length_pos
      rw [List.length_drop]
      omega
    · simp only [Pipe.push, accepted, List.append_assoc]
  | @pushRest piece left rest place here =>
    have done : r.completed left.length = some piece := by simp [completed, place, here]
    simp only [Carries, place] at carries
    obtain ⟨torn, whole, _, accepted⟩ := carries
    refine ⟨[], ?_, fun ne => absurd rfl ne⟩
    have bytes : (h.after r (.push left.length)).bytes = h.bytes ++ piece := by
      simp [History.after, History.bytes, done]
    rw [List.append_nil, bytes, whole]
    simp only [Pipe.push, accepted, List.append_assoc]
  | panic work =>
    obtain ⟨torn, accepted⟩ := carries.bytes_isPrefix
    exact ⟨torn, accepted.symm, fun _ => ⟨rfl, .inr rfl⟩⟩
  | clear | notify _ | read | resolve _ => exact carries.extend rfl rfl rfl id rfl
  | tryClose _ =>
    exact carries.extend rfl (Pipe.accepted_tryClose _ _) rfl (by simp) rfl
  | leave => exact carries.extend rfl rfl rfl (fun _ => rfl) rfl
  | lackRuntime place | lackClient place _ | refuse place _ | connect place _ | hear place _
  | await place _ | leaveLoop place _ | ask place _ | emptied place | leavePiece place _
  | enter place _ | shut place _ | count place | lose place _ | leaveFailed place _ | mark place
  | tell place | record place | recordPanic place | settle place | close place _
  | closeAgain place _ | silence place | accept place | reject place _ | unconnected place _
  | fail place _ | finish place | breakOff place | overflow place _ | cut place _ =>
    refine carries.stay (by rw [place]; rfl) rfl ?_ ⟨rfl, rfl⟩ ⟨rfl, rfl⟩
    rw [place]
    intro done
    first | rfl | cases done

/-- The conduit of every run that can come about holds what was written. -/
theorem of_leads (leads : Leads t .fresh h r) : r.Carries h := by
  induction leads with
  | refl => exact ⟨[], rfl, fun ne => absurd rfl ne⟩
  | move leads step ih => exact ih.goes (.of_leads leads) (.of_step step)

end Carries

/-- A conduit takes in bytes of the piece that is being written, and nothing else. -/
lemma Goes.accepted (step : Goes t r m r') :
    r'.pipe.accepted = r.pipe.accepted ∨
      ∃ piece left rest n, r.phase = .writing piece left rest ∧ m = .push n ∧
        r'.pipe.accepted = r.pipe.accepted ++ left.take n := by
  cases step with
  | @pushPart piece left rest n place _ _ _ => exact .inr ⟨piece, left, rest, n, place, rfl, rfl⟩
  | @pushRest piece left rest place _ =>
    refine .inr ⟨piece, left, rest, left.length, place, rfl, ?_⟩
    rw [List.take_length]
    rfl
  | tryClose _ => exact .inl (Pipe.accepted_tryClose _ _)
  | _ => exact .inl rfl

/-- A move takes no received chunk away. -/
lemma chunks_after (h : History) (r : Run) (m : Move) : h.chunks <+: (h.after r m).chunks := by
  cases m with
  | receive e => exact h.chunks_receive e ▸ List.prefix_append _ _
  | _ => exact List.prefix_refl _

/-- What a conduit has taken in stands at the beginning of the received chunks. -/
theorem Leads.accepted_isPrefix (leads : Leads t .fresh h r) :
    r.pipe.accepted <+: h.chunks.flatten := by
  induction leads with
  | refl => exact List.nil_prefix
  | @move h s s' m leads step ih =>
    obtain ⟨more, chunks⟩ := chunks_after h s m
    have grows : h.chunks.flatten <+: (h.after s m).chunks.flatten := by
      rw [← chunks, List.flatten_append]
      exact List.prefix_append _ _
    rcases (Goes.of_step step).accepted with same | ⟨piece, left, rest, n, place, _, accepted⟩
    · rw [same]
      exact ih.trans grows
    · have carries := Carries.of_leads leads
      have agrees := Agrees.of_leads leads
      simp only [Carries, place] at carries
      simp only [Agrees, place] at agrees
      obtain ⟨torn, whole, _, taken⟩ := carries
      apply List.IsPrefix.trans _ grows
      rw [accepted, taken, ← agrees.flatten, List.flatten_cons, whole, List.append_assoc,
        List.append_assoc, List.prefix_append_right_inj, List.prefix_append_right_inj]
      exact (List.take_prefix n left).trans (List.prefix_append _ _)

end Run

end StreamRelay
