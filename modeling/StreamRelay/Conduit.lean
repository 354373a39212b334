import StreamRelay.Pipe

/-!
# The lock of a conduit

The write end of a conduit is kept behind a lock, which is held for as long as a write lasts. Whoever
panics while holding it leaves it poisoned: from then on it is got with a warning, and all that is done
to the conduit goes on in spite of the warning.

Main statements: a conduit does the same with poison as without (`write_eq`, `close_eq`,
`tryClose_eq`), so that a run can be told of the conduit alone.
-/

namespace StreamRelay

/-- A conduit whose write end is kept behind a lock. -/
structure Conduit where
  pipe : Pipe := {}
  /-- Whether a holder of the lock has panicked. -/
  poisoned : Bool := false
deriving DecidableEq, Repr

namespace Conduit

/-- Gets the lock, after a wait for the one who holds it. What is behind a poisoned lock comes as an
error. -/
def lock (c : Conduit) : Except Pipe Pipe := if c.poisoned then .error c.pipe else .ok c.pipe

/-- Gets the lock unless it is held. -/
def tryLock (c : Conduit) (held : Bool) : Option (Except Pipe Pipe) :=
  if held then none else some c.lock

/-- What is behind a lock, be it poisoned or not. -/
def regardless : Except Pipe Pipe → Pipe
  | .ok p | .error p => p

/-- Writes bytes, all or none. -/
def write (c : Conduit) (bs : Bytes) : Option WriteFault × Conduit :=
  let (failure, pipe) := (regardless c.lock).write bs
  (failure, { c with pipe })

/-- Closes the write end, and tells whether it was open. -/
def close (c : Conduit) : Bool × Conduit :=
  let (first, pipe) := (regardless c.lock).close
  (first, { c with pipe })

/-- Closes the write end unless the lock is held, and tells whether it was open. -/
def tryClose (c : Conduit) (held : Bool) : Option Bool × Conduit :=
  match c.tryLock held with
  | some (.ok p) => (some p.close.1, { c with pipe := p.close.2 })
  | some (.error p) => (some p.close.1, { c with pipe := p.close.2 })
  | none => (none, c)

/-- Somebody panics while holding the lock. -/
def poison (c : Conduit) : Conduit := { c with poisoned := true }

/-- One thing that is done to a conduit. -/
inductive Use where
  | write (bs : Bytes)
  | close
  /-- The write end is to be closed unless the lock is held. -/
  | tryClose (held : Bool)
  /-- Somebody panics while holding the lock. -/
  | panic
  /-- At most `n` bytes are read. -/
  | read (n : Nat)
  /-- The read end goes away. -/
  | leave
deriving DecidableEq, Repr

/-- What comes of it. -/
inductive Answer where
  /-- Why the write failed, if it did. -/
  | wrote (failure : Option WriteFault)
  /-- Whether the write end was open. -/
  | closed (first : Bool)
  /-- Whether the write end was open; nothing is told of that if the lock was held. -/
  | tried (first : Option Bool)
  | panicked
  /-- What was read; no bytes at the end of the data. -/
  | got (bs : Bytes)
  /-- Whether the read end was there. -/
  | left (first : Bool)
deriving DecidableEq, Repr

/-- Does one thing to a conduit. There is no answer to a read that has to wait, has nobody to make it,
or asks for nothing. -/
def use (c : Conduit) : Use → Option (Answer × Conduit)
  | .write bs => some (.wrote (c.write bs).1, (c.write bs).2)
  | .close => some (.closed c.close.1, c.close.2)
  | .tryClose held => some (.tried (c.tryClose held).1, (c.tryClose held).2)
  | .panic => some (.panicked, c.poison)
  | .read n =>
    if c.pipe.isReadable && !c.pipe.readerGone && 0 < n then
      some (.got (c.pipe.read n).1, { c with pipe := (c.pipe.read n).2 })
    else none
  | .leave => some (.left c.pipe.dropReader.1, { c with pipe := c.pipe.dropReader.2 })

/-- What is behind the lock is the conduit. -/
@[simp] theorem regardless_lock (c : Conduit) : regardless c.lock = c.pipe := by
  unfold lock
  split <;> rfl

/-- A write does not depend on poison. -/
theorem write_eq (c : Conduit) (bs : Bytes) :
    c.write bs = ((c.pipe.write bs).1, { c with pipe := (c.pipe.write bs).2 }) := by
  simp [write]

/-- A close does not depend on poison. -/
theorem close_eq (c : Conduit) : c.close = (c.pipe.close.1, { c with pipe := c.pipe.close.2 }) := by
  simp [close]

/-- An attempt to close does not depend on poison. -/
theorem tryClose_eq (c : Conduit) (held : Bool) :
    c.tryClose held =
      ((c.pipe.tryClose held).1, { c with pipe := (c.pipe.tryClose held).2 }) := by
  obtain ⟨p, poisoned⟩ := c
  cases held <;> cases poisoned <;> rfl

end Conduit

end StreamRelay
