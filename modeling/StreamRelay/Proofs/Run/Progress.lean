import StreamRelay.Proofs.Run.Conduit

/-!
# How a run comes to its end

A worker that is not done can always make a move, if only to ask again whether there is something
for it. Once it has been told to stop and has got the stop signal, each of its moves brings it
nearer to the end, and it makes no more of them than a bound by the chunk size allows. A write waits
for the reader, and for nobody else.

Main statements: there is a move for every worker that is not done (`Leads.exists_move`), and there
are at most `chunkSize + 10` of them once the stop signal is there (`Leads.length_le`).
-/

namespace StreamRelay

/-- Whether a move brings a worker on. -/
def Move.isWorkers : Move → Bool
  | .work | .giveUp _ | .silence | .reply _ | .receive _ | .push _ | .panic => true
  | .resolve | .clear | .notify | .tryClose | .read _ | .leave => false

/-- The moves that a worker makes at most until it is done, once it has got the stop signal. -/
def Phase.toGo : Phase → Nat
  | .over => 0
  | .closing => 1
  | .settling => 2
  | .unwinding => 3
  | .recording _ => 4
  | .telling _ => 5
  | .concluding _ => 6
  | .asking _ | .betweenChunks => 7
  | .preparing | .forwarding _ => 8
  | .awaiting _ | .written _ _ _ => 9
  | .writing _ left _ => 9 + left.length
  | .entering piece _ => 10 + piece.length

/-- A worker at work has some moves to go. -/
lemma Phase.toGo_of_isAtWork {p : Phase} (work : p.isAtWork = true) : 3 < p.toGo := by
  cases p <;> simp_all [isAtWork, toGo] <;> omega

namespace Run

variable {t : Task} {h k : History} {r r' s : Run} {m : Move} {ms : List Move}

/-- Others do not move a worker. -/
lemma Goes.phase_of_not_isWorkers (step : Goes t r m r') (others : m.isWorkers = false) :
    r'.phase = r.phase := by
  cases step <;> first | rfl | cases others

/-- A worker that is in the middle of a write has something left to write. -/
lemma Carries.left_ne_nil {piece left : Bytes} {rest : List Bytes} (carries : r.Carries h)
    (place : r.phase = .writing piece left rest) : left ≠ [] := by
  simp only [Carries, place] at carries
  obtain ⟨_, _, ne, _⟩ := carries
  exact ne

/-- A move of a worker that has got the stop signal brings it nearer to the end. -/
lemma Goes.toGo_lt (step : Goes t r m r') (carries : r.Carries h) (off : r.status.running = false)
    (armed : r.status.signal.isArmed = true ∨ r.phase.isBound = true)
    (own : m.isWorkers = true) : r'.phase.toGo < r.phase.toGo := by
  cases step with
  | await place quiet =>
    -- To wait would lead away from the end, but the signal is found before.
    rw [Signal.look_fst] at quiet
    rw [quiet, place] at armed
    simp [Phase.isBound] at armed
  | ask place on | enter place on => rw [off] at on; cases on
  | snap place | pushRest place =>
    have pos := List.length_pos_iff.2 (carries.left_ne_nil place)
    rw [place]
    simp only [goTo, Phase.toGo]
    omega
  | @pushPart piece left rest n place here pos part =>
    rw [place]
    simp only [Phase.toGo, List.length_drop]
    omega
  | panic work => exact Phase.toGo_of_isAtWork work
  | clear | notify _ | tryClose _ | read | leave | resolve _ => cases own
  | _ => simp_all [Phase.toGo] <;> omega

/-- From when a worker has got the stop signal, it makes no more moves than it had to go. -/
lemma Leads.length_add_toGo_le (leads : Leads t .fresh h r) (off : r.status.running = false)
    (notified : h.notified = true) (steps : r.steps t ms = some s) :
    (ms.filter Move.isWorkers).length + s.phase.toGo ≤ r.phase.toGo := by
  induction ms generalizing h r with
  | nil =>
    cases steps
    simp
  | cons m ms ih =>
    obtain ⟨r', step, steps⟩ := Option.bind_eq_some_iff.1 steps
    have goes := Goes.of_step step
    have notified' : (h.after r m).notified = true := by
      cases m <;> first | exact notified | rfl
    -- The signal is not lost on the way, so that every move of the worker counts.
    have rest := ih (leads.move step) (goes.off off) notified' steps
    cases own : m.isWorkers with
    | true =>
      have less := goes.toGo_lt (.of_leads leads) off (Minded.of_leads leads notified) own
      rw [List.filter_cons_of_pos own, List.length_cons]
      omega
    | false =>
      rw [List.filter_cons_of_neg (by simp [own]), ← goes.phase_of_not_isWorkers own]
      exact rest

/-- What a worker has to go is bounded by the chunk size. -/
lemma Leads.toGo_le (leads : Leads t .fresh h r) : r.phase.toGo ≤ t.chunkSize + 10 := by
  have agrees := Agrees.of_leads leads
  have carries := Carries.of_leads leads
  cases place : r.phase with
  | entering piece rest =>
    have mem : piece ∈ r.phase.atHand := by rw [place]; exact List.mem_singleton_self _
    have sized := agrees.sized mem
    simp only [Phase.toGo]
    omega
  | writing piece left rest =>
    have mem : piece ∈ r.phase.atHand := by rw [place]; exact List.mem_singleton_self _
    have sized := agrees.sized mem
    simp only [Carries, place] at carries
    obtain ⟨torn, whole, _, _⟩ := carries
    rw [whole, List.length_append] at sized
    simp only [Phase.toGo]
    omega
  | _ =>
    simp only [Phase.toGo]
    omega

/-- From when a worker has got the stop signal, the moves that it makes are few. -/
theorem Leads.length_le (leads : Leads t .fresh h r) (off : r.status.running = false)
    (notified : h.notified = true) (steps : r.steps t ms = some s) :
    (ms.filter Move.isWorkers).length ≤ t.chunkSize + 10 := by
  have bound := leads.length_add_toGo_le off notified steps
  have toGo := leads.toGo_le
  omega

/-- A worker that waits for nobody can make its next move. -/
lemma isSome_work (t : Task) (free : r.phase.holdsWriteEnd = false) (busy : r.phase ≠ .over)
    (heard : ∀ w, r.phase ≠ .awaiting w) : (r.work t).isSome = true := by
  cases place : r.phase with
  | preparing =>
    simp only [work, place]
    split <;> rfl
  | awaiting w => exact absurd place (heard w)
  | writing piece left rest =>
    rw [place] at free
    cases free
  | «over» => exact absurd place busy
  | forwarding pieces =>
    simp only [work, place]
    cases pieces <;> rfl
  | _ =>
    simp only [work, place]
    rfl

/-- A worker that has the rest of a piece to write can go on, be it to find its reader gone. -/
lemma isSome_push {piece left : Bytes} {rest : List Bytes}
    (place : r.phase = .writing piece left rest) (length : 0 < left.length) :
    (r.push 1).isSome = true := by
  simp only [push, place]
  split
  · rfl
  · rw [if_pos ⟨Nat.one_pos, length⟩]
    rfl

/-- There is a move for every worker that is not done. -/
theorem Leads.exists_move (leads : Leads t .fresh h r) (busy : r.phase ≠ .over) :
    ∃ m, m.isWorkers = true ∧ (r.step t m).isSome = true := by
  cases place : r.phase with
  | awaiting w => exact ⟨.silence, rfl, by simp only [step, place]; rfl⟩
  | writing piece left rest =>
    have left_ne := (Carries.of_leads leads).left_ne_nil place
    exact ⟨.push 1, rfl, isSome_push place (List.length_pos_iff.2 left_ne)⟩
  | _ =>
    refine ⟨.work, rfl, isSome_work t (by rw [place]; rfl) busy ?_⟩
    intro w waits
    rw [place] at waits
    cases waits

end Run

end StreamRelay
