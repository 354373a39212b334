import StreamRelay.Proofs.Run.Conduit

/-!
# What a run counts

A piece is counted after its write, so that the counters are behind by at most the piece that has
just been written. They wrap at 2^64.

Main statement: as long as no panic comes upon the worker, the counters tell of the pieces written
with success (`Counted.of_leads`).
-/

namespace StreamRelay

/-- The piece that has been written and is still to be counted. -/
def Phase.uncounted : Phase → List Bytes
  | .written piece none _ => [piece]
  | _ => []

/-- Whether the counters tell of these pieces. -/
structure Status.Counts (s : Status) (counted : List Bytes) : Prop where
  pieces : s.pieces = counted.length.toUInt64
  bytes : s.bytes = counted.flatten.length.toUInt64

/-- Counters that record one more piece tell of one more. -/
lemma Status.Counts.recordPiece {s : Status} {counted : List Bytes} (counts : s.Counts counted)
    (piece : Bytes) : (s.recordPiece piece.length).Counts (counted ++ [piece]) where
  pieces := by
    rw [List.length_append, List.length_singleton]
    simp only [Status.recordPiece, counts.pieces]
    exact (UInt64.ofNat_add _ _).symm
  bytes := by
    rw [List.flatten_append, List.length_append, List.flatten_singleton]
    simp only [Status.recordPiece, counts.bytes]
    exact (UInt64.ofNat_add _ _).symm

namespace Run

variable {t : Task} {h k : History} {r r' : Run} {m : Move}

/-- Whether the counters tell of all pieces written with success, but the one just written. -/
def Counted (h : History) (r : Run) : Prop :=
  ∃ counted, h.writes = counted ++ r.phase.uncounted ∧ r.status.Counts counted

namespace Counted

/-- Where the worker has nothing to count, the counters tell of all pieces. -/
lemma counts (counted : r.Counted h) (none : r.phase.uncounted = []) :
    r.status.Counts h.writes := by
  obtain ⟨pieces, writes, counts⟩ := counted
  rw [none, List.append_nil] at writes
  rw [writes]
  exact counts

/-- What leaves the counters alone, and the piece still to be counted, keeps the count. -/
lemma stay (counted : r.Counted h) (place : r'.phase.uncounted = r.phase.uncounted)
    (pieces : r'.status.pieces = r.status.pieces) (bytes : r'.status.bytes = r.status.bytes)
    (writes : k.writes = h.writes) : r'.Counted k := by
  obtain ⟨before, all, counts⟩ := counted
  refine ⟨before, ?_, ?_⟩
  · rw [writes, place]
    exact all
  · exact ⟨pieces.trans counts.pieces, bytes.trans counts.bytes⟩

/-- A move leaves no piece uncounted but the one just written, unless it is a panic. -/
lemma goes (counted : r.Counted h) (step : Goes t r m r') (calm : m ≠ .panic) :
    r'.Counted (h.after r m) := by
  cases step with
  | @count piece rest place =>
    obtain ⟨before, writes, counts⟩ := counted
    rw [place] at writes
    refine ⟨before ++ [piece], ?_, counts.recordPiece piece⟩
    rw [show Phase.uncounted (.forwarding rest) = [] from rfl, List.append_nil]
    exact writes
  | @pushRest piece left rest place here =>
    have counts := counted.counts (by rw [place]; rfl)
    have done : r.completed left.length = some piece := by simp [completed, place, here]
    refine ⟨h.writes, ?_, counts⟩
    simp only [History.after, done]
    rfl
  | snap place gone =>
    rw [Agrees.after_push_of_none (by simp [completed, place, gone])]
    exact counted.stay (by rw [place]; rfl) rfl rfl rfl
  | pushPart place here pos part =>
    rw [Agrees.after_push_of_none (by simp [completed, place, Nat.ne_of_lt part])]
    exact counted.stay (by rw [place]; rfl) rfl rfl rfl
  | mark place =>
    exact counted.stay (by rw [place]; rfl) (Outcome.mark_pieces _ _) (Outcome.mark_bytes _ _) rfl
  | panic => exact absurd rfl calm
  | clear | notify | tryClose | read | leave | resolve => exact counted.stay rfl rfl rfl rfl
  | _ place => exact counted.stay (by rw [place]; rfl) rfl rfl rfl

/-- The counters of every run that can come about tell of the pieces written with success, unless a
panic has come upon the worker. -/
theorem of_leads (leads : Leads t .fresh h r) (calm : h.panicked = false) : r.Counted h := by
  induction leads with
  | refl => exact ⟨[], rfl, rfl, rfl⟩
  | @move h s s' m leads step ih =>
    have other : m ≠ .panic := by
      rintro rfl
      cases calm
    have calm' : h.panicked = false := by
      cases m <;> first | exact calm | exact absurd rfl other
    exact (ih calm').goes (.of_step step) other

end Counted

end Run

end StreamRelay
