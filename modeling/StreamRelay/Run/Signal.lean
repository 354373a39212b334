/-!
# The stop signal

A signal that wakes the one who waits for it. A notification that meets nobody who waits is stored,
one at most; one that reached a waiter who then goes away is passed on.

Main statements: a notification is not lost, whoever waits (`poll_notify`, `repoll_notify`), also
when the waiter that it reached goes away (`permit_abandon_notify`).
-/

namespace StreamRelay

/-- The place for one waiter. -/
inductive Waiter where
  | absent
  | waiting
  | notified
deriving DecidableEq, Repr

/-- A stop signal: whether a notification is stored, and who waits. -/
structure Signal where
  permit : Bool := false
  waiter : Waiter := .absent
deriving DecidableEq, Repr

namespace Signal

/-- Wakes the waiter, or stores the notification. -/
def notify (s : Signal) : Signal :=
  match s.waiter with
  | .waiting => { s with waiter := .notified }
  | _ => { s with permit := true }

/-- Asks once, without waiting: whether a notification was stored, which is thereby used up. -/
def poll (s : Signal) : Bool × Signal := (s.permit, { s with permit := false })

/-- The waiter goes away; a notification that it received is passed on. -/
def abandon (s : Signal) : Signal :=
  match s.waiter with
  | .notified => { s with permit := true, waiter := .absent }
  | _ => { s with waiter := .absent }

/-- Asks, and waits if no notification is stored. A waiter that was there before goes away; a
notification that it received reaches the new one, or is stored where there is no new one. -/
def begin (s : Signal) : Bool × Signal :=
  if s.permit then (true, { s with permit := false }.abandon)
  else match s.waiter with
    | .notified => (false, s)
    | _ => (false, { s with waiter := .waiting })

/-- The waiter asks again: whether it received a notification, after which it is gone. There is no
answer where nobody waits. -/
def repoll (s : Signal) : Option Bool × Signal :=
  match s.waiter with
  | .absent => (none, s)
  | .waiting => (some false, s)
  | .notified => (some true, { s with waiter := .absent })

/-- The one for whom the signal is meant looks at it, and waits from then on. -/
def look (s : Signal) : Bool × Signal :=
  match s.repoll with
  | (some ready, t) => (ready, t)
  | (none, _) => s.begin

/-- Whether somebody waits. -/
def hasWaiter (s : Signal) : Bool := s.waiter != .absent

/-- A notification that meets nobody who waits is there for the next one who asks. -/
theorem poll_notify {s : Signal} (h : s.waiter ≠ .waiting) : s.notify.poll.1 = true := by
  unfold notify poll
  split
  · next e => exact absurd e h
  · rfl

/-- A notification reaches the one who waits. -/
theorem repoll_notify {s : Signal} (h : s.waiter = .waiting) :
    s.notify.repoll.1 = some true := by
  simp [notify, repoll, h]

/-- A notification outlives the waiter that it reached. -/
theorem permit_abandon_notify (s : Signal) : s.notify.abandon.permit = true := by
  unfold notify abandon
  cases s.waiter <;> rfl

/-- Nobody waits after the waiter went away. -/
@[simp] theorem waiter_abandon (s : Signal) : s.abandon.waiter = .absent := by
  unfold abandon
  split <;> rfl

end Signal

end StreamRelay
