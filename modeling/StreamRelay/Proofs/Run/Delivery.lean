import StreamRelay.Proofs.Run.Completion
import StreamRelay.Proofs.Run.Count
import StreamRelay.Proofs.Run.Finality

/-!
# What an undisturbed run delivers

A run that nobody stops and whose reader stays delivers the body that its transport sends, whatever
chunks the body comes in, whatever pieces it is cut into, and whenever the reader reads.

Main statement: once the write end is closed, what the reader has got and what is left for it are the
whole body, and exit and counters tell so; and every such run can be driven to that point
(`delivers`).
-/

namespace StreamRelay

/-- The exit of a run whose body comes to its end with an event; a chunk ends no body. -/
def BodyEvent.exit? : BodyEvent → Option Exit
  | finished => some .ended
  | broken _ => some .requestFailed
  | chunk _ => none

/-- The number of pieces that chunks are cut into: for each its length divided by the size, rounded
up. -/
def Bytes.pieceCount (size : Nat) : List Bytes → Nat
  | [] => 0
  | b :: bs => (b.length + size - 1) / size + pieceCount size bs

/-- Whether a script grants the request, sends these chunks, and then ends the body with what leads
to the exit `e`. -/
structure Script.Sends (s : Script) (bs : List Bytes) (e : Exit) : Prop where
  reply : s.reply = some (.answered 200)
  body : ∃ last, last.exit? = some e ∧ s.body = bs.map .chunk ++ [last]

namespace Run

/-- What the reader gets by a move. -/
def gets (r : Run) : Move → Bytes
  | .read n => (r.pipe.read n).1
  | _ => []

/-- What the reader gets in the course of some moves. -/
def received (t : Task) (r : Run) : List Move → Bytes
  | [] => []
  | m :: ms =>
    match r.step t m with
    | none => []
    | some r' => r.gets m ++ received t r' ms

/-- Whether `r` comes about by the moves `ms` without a stop, a panic or the loss of its reader, and
with nothing heard but what the script `s` says. -/
structure LeftAlone (t : Task) (s : Script) (ms : List Move) (r : Run) : Prop where
  steps : fresh.steps t ms = some r
  calm : ∀ m ∈ ms, m.disturbs = false
  heard : ∃ rest, s.Leaves (fresh.history t ms) rest

/-- Whether `r` comes about by the moves `ms` while it is left alone, and its worker could be set up.
-/
structure Undisturbed (t : Task) (s : Script) (ms : List Move) (r : Run) : Prop
    extends LeftAlone t s ms r where
  ready : (fresh.history t ms).unready = false

/-- What a run `r` has come to whose reader has got `got`, when the chunks `bs` were sent and the
body ended with what leads to the exit `e`. -/
structure Delivery (size : Nat) (bs : List Bytes) (e : Exit) (got : Bytes) (r : Run) : Prop where
  /-- What the reader has got and what is left for it are the body. -/
  body : got ++ r.pipe.pending = bs.flatten
  exit : r.status.exit = some e
  bytes : r.status.bytes = bs.flatten.length.toUInt64
  pieces : r.status.pieces = (Bytes.pieceCount size bs).toUInt64

end Run

/-- An event that leads to an exit brings no chunk. -/
lemma BodyEvent.chunk?_of_exit? {last : BodyEvent} {e : Exit} (ends : last.exit? = some e) :
    last.chunk? = none := by
  cases last with
  | chunk bytes => cases ends
  | broken cause | finished => rfl

/-- A script that sends a body to its end is complete. -/
lemma Script.Sends.isComplete {s : Script} {bs : List Bytes} {e : Exit} (sends : s.Sends bs e) :
    s.IsComplete where
  reply := by rw [sends.reply]; rfl
  body _ := by
    obtain ⟨last, ends, body⟩ := sends.body
    refine ⟨last, ?_, BodyEvent.chunk?_of_exit? ends⟩
    rw [body]
    exact List.mem_append_right _ (List.mem_singleton_self _)

/-- The pieces of several chunks are as many as their lengths ask for. -/
lemma Bytes.length_flatMap_pieces {size : Nat} (pos : 0 < size) (bs : List Bytes) :
    (bs.flatMap (pieces size)).length = pieceCount size bs := by
  induction bs with
  | nil => rfl
  | cons b bs ih =>
    rw [List.flatMap_cons, List.length_append, length_pieces pos, ih]
    rfl

/-- Where a body is cut off behind its last event, that event and the chunks before it are known. -/
lemma BodyEvent.eq_of_append {bs cs : List Bytes} {last e : BodyEvent} {rest : List BodyEvent}
    (ends : last.chunk? = none) (ends' : e.chunk? = none)
    (same : bs.map chunk ++ [last] = cs.map chunk ++ [e] ++ rest) : bs = cs ∧ last = e := by
  induction bs generalizing cs with
  | nil =>
    cases cs with
    | nil =>
      rw [List.map_nil, List.nil_append, List.nil_append, List.singleton_append,
        List.cons.injEq] at same
      exact ⟨rfl, same.1⟩
    | cons c cs =>
      rw [List.map_nil, List.nil_append, List.map_cons, List.cons_append, List.cons_append,
        List.cons.injEq] at same
      rw [same.1] at ends
      cases ends
  | cons b bs ih =>
    cases cs with
    | nil =>
      rw [List.map_cons, List.map_nil, List.nil_append, List.cons_append, List.singleton_append,
        List.cons.injEq] at same
      rw [← same.1] at ends'
      cases ends'
    | cons c cs =>
      rw [List.map_cons, List.map_cons, List.cons_append, List.cons_append, List.cons_append,
        List.cons.injEq, BodyEvent.chunk.injEq] at same
      obtain ⟨rfl, rfl⟩ := ih same.2
      exact ⟨by rw [same.1], rfl⟩

namespace Run

variable {t t' : Task} {s s' : Script} {h : History} {r r' : Run} {m : Move} {ms ns : List Move}
  {bs bs' : List Bytes} {e : Exit}

/-- What the reader gets by a move is what the conduit hands out next. -/
lemma Goes.handed (step : Goes t r m r') (within : r.pipe.taken ≤ r.pipe.accepted.length) :
    r'.pipe.handed = r.pipe.handed ++ r.gets m ∧ r'.pipe.taken ≤ r'.pipe.accepted.length := by
  cases step with
  | read => exact ⟨r.pipe.handed_read _, Pipe.taken_read_le _ within⟩
  | pushPart | pushRest =>
    refine ⟨(Pipe.handed_push within _).trans (List.append_nil _).symm, ?_⟩
    exact Nat.le_trans within (by simp [Pipe.push])
  | tryClose =>
    show (r.pipe.tryClose r.phase.holdsWriteEnd).2.handed = r.pipe.handed ++ [] ∧ _
    rw [List.append_nil]
    cases r.phase.holdsWriteEnd <;> exact ⟨rfl, within⟩
  | _ => exact ⟨(List.append_nil _).symm, within⟩

/-- The reader gets what the conduit has handed out, piece by piece. -/
lemma handed_of_steps (steps : r.steps t ms = some r')
    (within : r.pipe.taken ≤ r.pipe.accepted.length) :
    r'.pipe.handed = r.pipe.handed ++ r.received t ms := by
  induction ms generalizing r with
  | nil =>
    cases steps
    exact (List.append_nil _).symm
  | cons m ms ih =>
    obtain ⟨r₁, step, steps⟩ := Option.bind_eq_some_iff.1 steps
    obtain ⟨handed, within⟩ := (Goes.of_step step).handed within
    simp only [received, step]
    rw [ih steps within, handed, List.append_assoc]

/-- Moves that disturb nobody leave no trace of a stop, of a lost reader or of a panic. -/
lemma historyFrom_calm (calm : ∀ m ∈ ms, m.disturbs = false) (r : Run) (h : History) :
    (r.historyFrom t h ms).told = h.told ∧ (r.historyFrom t h ms).left = h.left ∧
      (r.historyFrom t h ms).panicked = h.panicked := by
  refine ⟨?told, ?left, ?panicked⟩
  case told => exact historyFrom_told (not_mem_of_calm calm rfl) r h
  case left => exact historyFrom_left (not_mem_of_calm calm rfl) r h
  case panicked => exact historyFrom_panicked (not_mem_of_calm calm rfl) r h

/-- The exit of an undisturbed run whose request is granted tells of the whole body. -/
lemma Undisturbed.whole (und : Undisturbed t s ms r) (valid : (Url.parse? t.url).isSome = true)
    (pos : 0 < t.chunkSize) (sends : s.Sends bs e) {e' : Exit}
    (recorded : r.status.exit = some e') :
    e' = e ∧ (fresh.history t ms).chunks = bs ∧ (fresh.history t ms).Whole t := by
  obtain ⟨last, ends, body⟩ := sends.body
  obtain ⟨rest, reply, heard⟩ := und.heard
  obtain ⟨told, left, panicked⟩ := historyFrom_calm und.calm (t := t) fresh {}
  rw [sends.reply] at reply
  rw [body] at heard
  have fits := (Leads.of_steps und.steps).fits recorded
  have chunk := BodyEvent.chunk?_of_exit? ends
  cases e' with
  | ended =>
    obtain ⟨_, events, whole⟩ := fits
    rw [events] at heard
    obtain ⟨chunks, rfl⟩ := BodyEvent.eq_of_append chunk rfl heard
    exact ⟨Option.some.inj ends, chunks.symm, whole⟩
  | requestFailed =>
    rcases fits with ⟨⟨bad, _⟩ | ⟨e, _, replies⟩, _⟩ | ⟨_, ⟨e, events⟩, whole⟩
    · rw [bad] at valid
      cases valid
    · rw [replies] at reply
      cases reply
    · rw [events] at heard
      obtain ⟨chunks, rfl⟩ := BodyEvent.eq_of_append chunk rfl heard
      exact ⟨Option.some.inj ends, chunks.symm, whole⟩
  | httpStatus status =>
    obtain ⟨other, replies, _⟩ := fits
    rw [replies, Option.toList_some, List.singleton_append, List.cons.injEq,
      Reply.answered.injEq] at reply
    exact absurd reply.1.symm other
  | dnsFailure | connectionFailed =>
    obtain ⟨⟨e, _, replies⟩, _⟩ := fits
    rw [replies] at reply
    cases reply
  | stopped =>
    have told' := fits.1
    rw [history, told] at told'
    cases told'
  | readerGone =>
    have left' := fits.1
    rw [history, left] at left'
    cases left'
  | unexpected =>
    rcases fits with ⟨panicked' | zero, _⟩ | ⟨unready, _⟩
    · rw [history, panicked] at panicked'
      cases panicked'
    · omega
    · rw [und.ready] at unready
      cases unready

namespace LeftAlone

variable (alone : LeftAlone t s ms r) (closed : r.pipe.closed = true)
include alone closed

/-- Of a run that is left alone, the worker alone closes the write end. -/
lemma isLast : r.phase.isLast = true := by
  have ord := Orderly.of_leads (Leads.of_steps alone.steps)
  obtain ⟨told, _⟩ := historyFrom_calm alone.calm (t := t) fresh {}
  rcases ord.told (ord.closed closed) with told' | last
  · rw [history, told] at told'
    cases told'
  · exact last

/-- Once the write end of such a run is closed, the reader has got all that was written but for what
is left for it. -/
lemma received_append_pending :
    fresh.received t ms ++ r.pipe.pending = (fresh.history t ms).bytes := by
  have leads := Leads.of_steps alone.steps
  obtain ⟨_, left, panicked⟩ := historyFrom_calm alone.calm (t := t) fresh {}
  have here : r.pipe.readerGone = false := by
    cases gone : r.pipe.readerGone with
    | false => rfl
    | true =>
      have left' := (Orderly.of_leads leads).gone gone
      rw [history, left] at left'
      cases left'
  have free : r.phase.holdsWriteEnd = false := by
    have last := alone.isLast closed
    cases place : r.phase <;> first | rfl | (rw [place] at last; cases last)
  have handed := handed_of_steps alone.steps (Nat.le_refl 0)
  rw [show fresh.pipe.handed = [] from rfl, List.nil_append] at handed
  rw [← handed, Pipe.handed_append_pending]
  exact (Carries.of_leads leads).accepted_eq free here panicked

/-- Once the write end of such a run is closed, all pieces are counted. -/
lemma counts : r.status.Counts (fresh.history t ms).writes := by
  have last := alone.isLast closed
  obtain ⟨_, _, panicked⟩ := historyFrom_calm alone.calm (t := t) fresh {}
  apply (Counted.of_leads (Leads.of_steps alone.steps) panicked).counts
  cases place : r.phase <;> first | rfl | (rw [place] at last; cases last)

end LeftAlone

/-- Once the write end of an undisturbed run is closed, the body has been delivered. -/
lemma Undisturbed.delivery (und : Undisturbed t s ms r)
    (valid : (Url.parse? t.url).isSome = true) (pos : 0 < t.chunkSize) (sends : s.Sends bs e)
    (closed : r.pipe.closed = true) :
    Delivery t.chunkSize bs e (fresh.received t ms) r := by
  have settled := Phase.isSettled_of_isLast (und.isLast closed)
  obtain ⟨e', recorded⟩ := (Ends.of_leads (Leads.of_steps und.steps)).recorded settled
  obtain ⟨rfl, chunks, writes, bytes⟩ := und.whole valid pos sends recorded
  have counts := und.counts closed
  refine { body := ?body, exit := recorded, bytes := ?bytes, pieces := ?pieces }
  case body => rw [und.received_append_pending closed, bytes, chunks]
  case bytes => rw [counts.bytes, ← chunks, ← bytes]; rfl
  case pieces => rw [counts.pieces, writes, Bytes.length_flatMap_pieces pos, chunks]

/-- How a run delivers the chunks `bs` of a script, whose body ends with what leads to the exit `e`.
-/
structure Delivers (t : Task) (s : Script) (bs : List Bytes) (e : Exit) : Prop where
  /-- Once the write end is closed, the reader has got the body but for what is left for it. -/
  whole : ∀ ms r, Undisturbed t s ms r → r.pipe.closed = true →
    Delivery t.chunkSize bs e (fresh.received t ms) r
  /-- Wherever the run has got to, it closes the write end when it is driven on. -/
  ends : ∀ ms r rest, Undisturbed t s ms r → s.Leaves (fresh.history t ms) rest →
    ∃ ns, Undisturbed t s (ms ++ ns) (r.finish t rest).1 ∧ (r.finish t rest).1.pipe.closed = true
  /-- The same body delivers the same, in whatever chunks and pieces. -/
  alike : ∀ t' s' bs', (Url.parse? t'.url).isSome = true → 0 < t'.chunkSize → s'.Sends bs' e →
    bs'.flatten = bs.flatten → ∀ ms r ms' r', Undisturbed t s ms r → r.pipe.closed = true →
      Undisturbed t' s' ms' r' → r'.pipe.closed = true →
        fresh.received t' ms' ++ r'.pipe.pending = fresh.received t ms ++ r.pipe.pending ∧
          r'.status.exit = r.status.exit ∧ r'.status.bytes = r.status.bytes

/-- A task that cuts chunks into pieces of two bytes. -/
def pairs : Task := { url := "http://a/", chunkSize := 2 }

/-- A body in three chunks, one of them empty, that breaks off. -/
def brokenOff : Script where
  reply := some (.answered 200)
  body := [.chunk [1, 2, 3], .chunk [], .chunk [4], .broken ⟨⟨false, .ofFaults []⟩, rfl⟩]

end Run

end StreamRelay
