import StreamRelay.Proofs.Run.Delivery
import StreamRelay.Proofs.Run.Mark

/-!
# What the exit tells of a copy

A reader who reads a run that is left alone to the end of its data has got all that was written, and
the exit is there by then. Exit, mark and counters tell what the reader has got.

Main statement: a status that is read after the end of the data is faithful to what was read
(`ReadOut.faithful`).
-/

namespace StreamRelay

/-- Whether a script grants the request, sends these chunks, and then says that the body is complete.
-/
structure Script.Completes (s : Script) (bs : List Bytes) : Prop where
  reply : s.reply = some (.answered 200)
  body : ∃ rest, s.body = bs.map .chunk ++ .finished :: rest

namespace Exit

/-- Of exits other than that of a stop, only that of a complete body has code 0. -/
lemma code_eq_zero_iff {e : Exit} (unstopped : e ≠ .stopped) : code (some e) = 0 ↔ e = .ended := by
  cases e with
  | stopped => exact absurd rfl unstopped
  | _ => simp [code, dnsFailureCode]

/-- Code 2 is that of a host without an address. -/
lemma code_eq_two_iff (e : Exit) : code (some e) = 2 ↔ e = .dnsFailure := by
  cases e <;> simp [code, dnsFailureCode]

/-- There is no code but 0, 1 and 2. -/
lemma code_eq_one (e : Option Exit) (zero : code e ≠ 0) (two : code e ≠ 2) : code e = 1 := by
  unfold code at *
  split at zero <;> simp_all [dnsFailureCode]

end Exit

namespace Run

variable {t : Task} {s : Script} {ms : List Move} {r : Run} {got : Bytes} {e : Exit}

/-- Whether a reader has read the run `r` of the script `s` to the end of its data, and has got
`got`. -/
structure ReadOut (t : Task) (s : Script) (ms : List Move) (r : Run) (got : Bytes) : Prop
    extends LeftAlone t s ms r where
  closed : r.pipe.closed = true
  empty : r.pipe.pending = []
  received : fresh.received t ms = got

/-- Whether a status, and the exit code that is made of it, tell the truth about what was read of the
script `s` in a run with the history `h`. -/
structure Faithful (s : Script) (h : History) (got : Bytes) (st : Status) : Prop where
  /-- There is an exit, and it is none of those of a run that was not left to itself. -/
  recorded : ∃ e, st.exit = some e ∧ e ≠ .stopped ∧ e ≠ .readerGone
  /-- The exit is that of a panic only if the worker could not be set up. Then nothing was read. -/
  unready : st.exit = some .unexpected → h.unready = true ∧ got = []
  /-- Code 0 is that of a complete body, -/
  zero : Exit.code st.exit = 0 ↔ st.exit = some .ended
  /-- all of which was read. -/
  whole : Exit.code st.exit = 0 → ∃ bs, s.Completes bs ∧ got = bs.flatten
  /-- Code 2 is that of a host without an address, -/
  two : Exit.code st.exit = 2 ↔ st.dnsFailure = true
  /-- of which nothing was read. -/
  none : Exit.code st.exit = 2 → got = []
  /-- There is one other code. -/
  one : Exit.code st.exit ≠ 0 → Exit.code st.exit ≠ 2 → Exit.code st.exit = 1
  /-- All that was read is counted. -/
  bytes : st.bytes = got.length.toUInt64

/-- What a status tells is a matter of the outcome alone. -/
lemma Faithful.of_sameOutcome {st st' : Status} {h : History} (faithful : Faithful s h got st)
    (same : st.SameOutcome st') : Faithful s h got st' where
  recorded := same.exit ▸ faithful.recorded
  unready := same.exit ▸ faithful.unready
  zero := same.exit ▸ faithful.zero
  whole := same.exit ▸ faithful.whole
  two := by rw [same.dnsFailure, same.exit, faithful.two]
  none := same.exit ▸ faithful.none
  one := same.exit ▸ faithful.one
  bytes := same.bytes.trans faithful.bytes

namespace ReadOut

variable (out : ReadOut t s ms r got)
include out

/-- Whoever has read to the end has got all that was written. -/
lemma got_eq : got = (fresh.history t ms).bytes := by
  rw [← out.received_append_pending out.closed, out.empty, List.append_nil, out.received]

/-- An exit tells of a run that was left to itself. -/
lemma ne_of_exit (recorded : r.status.exit = some e) : e ≠ .stopped ∧ e ≠ .readerGone := by
  have fits := (Leads.of_steps out.steps).fits recorded
  obtain ⟨told, left, _⟩ := historyFrom_calm out.calm (t := t) fresh {}
  refine ⟨?stopped, ?gone⟩
  case stopped =>
    rintro rfl
    have told' := fits.1
    rw [history, told] at told'
    cases told'
  case gone =>
    rintro rfl
    have left' := fits.1
    rw [history, left] at left'
    cases left'

/-- The exit of a panic is that of a worker that could not be set up, and has written nothing. -/
lemma unready (pos : 0 < t.chunkSize) (recorded : r.status.exit = some .unexpected) :
    (fresh.history t ms).unready = true ∧ got = [] := by
  obtain ⟨_, _, panicked⟩ := historyFrom_calm out.calm (t := t) fresh {}
  rcases (Leads.of_steps out.steps).fits recorded with ⟨panicked' | zero, _⟩ | ⟨unready, unheard⟩
  · rw [history, panicked] at panicked'
    cases panicked'
  · omega
  · refine ⟨unready, ?_⟩
    rw [out.got_eq, History.bytes]
    exact congrArg List.flatten unheard.2.2

/-- The exit of a complete body is that of a body that was read as a whole. -/
lemma whole (recorded : r.status.exit = some .ended) :
    ∃ bs, s.Completes bs ∧ got = bs.flatten := by
  obtain ⟨replies, events, _, bytes⟩ := (Leads.of_steps out.steps).fits recorded
  obtain ⟨rest, reply, body⟩ := out.heard
  refine ⟨_, ⟨?_, rest.body, ?_⟩, out.got_eq.trans bytes⟩
  · cases answer : s.reply with
    | none =>
      rw [answer, replies] at reply
      cases reply
    | some a =>
      rw [answer, replies, Option.toList_some, List.singleton_append, List.cons.injEq] at reply
      rw [reply.1]
  · rw [body, events, List.append_assoc, List.singleton_append]

/-- Once all has been read, the status is faithful. -/
theorem faithful (pos : 0 < t.chunkSize) : Faithful s (fresh.history t ms) got r.status := by
  have leads := Leads.of_steps out.steps
  have settled := Phase.isSettled_of_isLast (out.isLast out.closed)
  obtain ⟨e, recorded, reported⟩ := (Tells.of_leads leads).reported settled
  -- Mark and exit agree where no panic comes between the two; here there is none at all.
  have calm := historyFrom_interrupted (not_mem_of_calm out.calm rfl) (t := t) fresh {}
  have mark : r.status.dnsFailure = true ↔ r.status.exit = some .dnsFailure := by
    rw [(reported.told calm).mark, recorded, Option.some.injEq]
  obtain ⟨unstopped, gone⟩ := out.ne_of_exit recorded
  have zero : Exit.code r.status.exit = 0 ↔ r.status.exit = some .ended := by
    rw [recorded, Option.some.injEq]
    exact Exit.code_eq_zero_iff unstopped
  have two : Exit.code r.status.exit = 2 ↔ r.status.dnsFailure = true := by
    rw [mark, recorded, Option.some.injEq]
    exact Exit.code_eq_two_iff e
  refine {
    recorded := ⟨e, recorded, unstopped, gone⟩
    unready := out.unready pos
    zero
    whole := fun code => out.whole (zero.1 code)
    two
    none := ?none
    one := Exit.code_eq_one r.status.exit
    bytes := ?bytes
  }
  case none =>
    intro code
    obtain ⟨_, _, writes⟩ := leads.fits (mark.1 (two.1 code))
    rw [out.got_eq, History.bytes]
    exact congrArg List.flatten writes
  case bytes => rw [(out.counts out.closed).bytes, out.got_eq, History.bytes]

end ReadOut

end Run

end StreamRelay
