import StreamRelay.Run.Machine

/-!
# Running to the end

A worker whose reader keeps up and whom nobody stops: it makes its moves one after the other, and
the transport does what a script says.

Main statement: what such a worker does is one of the ways in which a run can go
(`exists_steps_finish`).
-/

namespace StreamRelay.Run

/-- The next move of an undisturbed run, and what is left of the script behind it. There is none
when the worker is done, or waits for something that does not come. -/
def next (r : Run) (s : Script) : Option (Move × Script) :=
  match r.phase with
  | .awaiting .reply =>
    match s.lookups with
    | n + 1 => some (.resolve, { s with lookups := n })
    | 0 => s.reply.map (fun a => (.reply a, { s with reply := none }))
  | .awaiting .body =>
    match s.body with
    | [] => none
    | e :: rest => some (.receive e, { s with body := rest })
  | .writing _ left _ => some (.push left.length, s)
  | .over => none
  | _ => some (.work, s)

/-- A run and what is left of its script after at most `n` moves. -/
def drive (t : Task) : Nat → Run → Script → Run × Script
  | 0, r, s => (r, s)
  | n + 1, r, s =>
    match r.next s with
    | none => (r, s)
    | some (m, s') =>
      match r.step t m with
      | none => (r, s)
      | some r' => drive t n r' s'

/-- The number of moves that a worker makes at most for one event of a body. -/
def eventMoves : BodyEvent → Nat
  | .chunk bytes => 4 * bytes.length + 8
  | _ => 8

/-- The number of moves that a worker makes for a phase that has pieces left. -/
def phaseMoves : Phase → Nat
  | .forwarding rest => 4 * rest.length + 8
  | .entering _ rest | .writing _ _ rest | .written _ _ rest => 4 * rest.length + 12
  | _ => 12

/-- A number of moves within which an undisturbed run comes to its end. -/
def enoughMoves (r : Run) (s : Script) : Nat :=
  phaseMoves r.phase + 12 + s.lookups + (s.body.map eventMoves).foldr (· + ·) 0

/-- A run at its end, or where it waits for something that does not come, and what is left of its
script. -/
def finish (t : Task) (r : Run) (s : Script) : Run × Script := drive t (r.enoughMoves s) r s

/-- A run that is driven makes moves that it can make. -/
theorem exists_steps_drive (t : Task) (n : Nat) (r : Run) (s : Script) :
    ∃ ms, r.steps t ms = some (drive t n r s).1 := by
  induction n generalizing r s with
  | zero => exact ⟨[], rfl⟩
  | succ n ih =>
    rw [drive]
    split
    · exact ⟨[], rfl⟩
    · next m s' _ =>
      split
      · exact ⟨[], rfl⟩
      · next r' step =>
        obtain ⟨ms, steps⟩ := ih r' s'
        exact ⟨m :: ms, by rw [Run.steps, step, Option.bind_some, steps]⟩

/-- An undisturbed run makes moves that it can make. -/
theorem exists_steps_finish (t : Task) (r : Run) (s : Script) :
    ∃ ms, r.steps t ms = some (r.finish t s).1 :=
  exists_steps_drive t _ r s

end StreamRelay.Run
