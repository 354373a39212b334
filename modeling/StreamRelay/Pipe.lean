import StreamRelay.Bytes
import StreamRelay.Fault.System

/-!
# The conduit

A conduit takes bytes in at its write end and hands them out in the same order at its read end. The
write end can be closed from two sides, and only the first close counts. Here a conduit is kept as
the history of all bytes that it took in, and the number of those that have been handed out.

Main statements: a write adds its bytes to the history or nothing (`write_ok`, `write_error`), and
reading hands out the history from where the last read ended (`read_eq`, `handed_read`).
-/

namespace StreamRelay

/-- A conduit. -/
structure Pipe where
  accepted : Bytes := []
  taken : Nat := 0
  closed : Bool := false
  readerGone : Bool := false
deriving DecidableEq, Repr

/-- Why a write failed. -/
inductive WriteFault where
  /-- The write end is closed. -/
  | closed
  /-- The read end is gone. -/
  | noReader
deriving DecidableEq, Repr

/-- The text of a failed write. -/
def WriteFault.text : WriteFault → String
  | closed => "conduit write end already closed"
  | noReader => SystemError.text SystemError.brokenPipe

/-- The kind of a failed write. -/
def WriteFault.kind : WriteFault → SystemError.Kind
  | closed => .brokenPipe
  | noReader => SystemError.kind SystemError.brokenPipe

namespace Pipe

/-- The bytes that have not been handed out yet. -/
def pending (p : Pipe) : Bytes := p.accepted.drop p.taken

/-- The bytes that have been handed out. -/
def handed (p : Pipe) : Bytes := p.accepted.take p.taken

/-- Puts bytes into the conduit. -/
def push (p : Pipe) (bs : Bytes) : Pipe := { p with accepted := p.accepted ++ bs }

/-- Why a write of these bytes fails, if it does. Nothing can be written to a closed write end; with
the read end gone, nothing but the empty byte string. -/
def refusal (p : Pipe) (bs : Bytes) : Option WriteFault :=
  if p.closed then some .closed
  else if p.readerGone && !bs.isEmpty then some .noReader
  else none

/-- Writes bytes, all or none. -/
def write (p : Pipe) (bs : Bytes) : Option WriteFault × Pipe :=
  match p.refusal bs with
  | some fault => (some fault, p)
  | none => (none, p.push bs)

/-- Closes the write end, and tells whether it was open. -/
def close (p : Pipe) : Bool × Pipe := (!p.closed, { p with closed := true })

/-- Closes the write end unless a write holds it, and tells whether it was open. -/
def tryClose (p : Pipe) (held : Bool) : Option Bool × Pipe :=
  if held then (none, p) else (some p.close.1, p.close.2)

/-- Whether a read does not have to wait. -/
def isReadable (p : Pipe) : Bool := !p.pending.isEmpty || p.closed

/-- Reads at most `n` bytes of those that are there. -/
def read (p : Pipe) (n : Nat) : Bytes × Pipe :=
  let bs := p.pending.take n
  (bs, { p with taken := p.taken + bs.length })

/-- Reads all bytes that are there. -/
def readAll (p : Pipe) : Bytes × Pipe := p.read p.pending.length

/-- The read end goes away, and tells whether it was there. -/
def dropReader (p : Pipe) : Bool × Pipe := (!p.readerGone, { p with readerGone := true })

/-- A write that succeeds adds its bytes. -/
theorem write_ok {p q : Pipe} {bs : Bytes} (h : p.write bs = (none, q)) :
    q.accepted = p.accepted ++ bs := by
  unfold write at h
  split at h
  · simp at h
  · simp only [Prod.mk.injEq, true_and] at h
    exact h ▸ rfl

/-- A write that fails changes nothing. -/
theorem write_error {p q : Pipe} {bs : Bytes} {e : WriteFault} (h : p.write bs = (some e, q)) :
    q = p := by
  unfold write at h
  split at h
  · simp only [Prod.mk.injEq] at h
    exact h.2.symm
  · simp at h

/-- A read hands out the history from where the last read ended. -/
theorem read_eq (p : Pipe) (n : Nat) : (p.read n).1 = (p.accepted.drop p.taken).take n := rfl

/-- What has been handed out and what has not are all that was taken in. -/
theorem handed_append_pending (p : Pipe) : p.handed ++ p.pending = p.accepted :=
  List.take_append_drop ..

/-- A read hands out what comes next. -/
theorem handed_read (p : Pipe) (n : Nat) : (p.read n).2.handed = p.handed ++ (p.read n).1 := by
  simp only [read, handed, pending]
  rw [List.take_add, List.length_take, ← List.take_eq_take_min]

/-- No more is handed out than was taken in. -/
theorem taken_read_le {p : Pipe} (n : Nat) (within : p.taken ≤ p.accepted.length) :
    (p.read n).2.taken ≤ (p.read n).2.accepted.length := by
  simp only [read, pending, List.length_take, List.length_drop]
  omega

/-- Bytes that go in are not handed out yet. -/
theorem handed_push {p : Pipe} (within : p.taken ≤ p.accepted.length) (bs : Bytes) :
    (p.push bs).handed = p.handed :=
  List.take_append_of_le_length within

end Pipe

end StreamRelay
