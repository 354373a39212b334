import StreamRelay.Proofs.Run.Progress
import StreamRelay.Run.Drive

/-!
# Runs whose transport says all it has to say

A script is complete if it has an answer and, where the answer is granted, an end of the body. On
such a script no worker waits for ever, and the moves that it makes by itself and with the transport
are bounded by the script.

Main statement: wherever a run has got to, driving it with what is left of a complete script brings
it to its end, and nobody disturbs it meanwhile (`exists_finish_over`).
-/

namespace StreamRelay

/-- Whether a move is made by one who stops the run or goes away from it, or by a panic. -/
def Move.disturbs : Move → Bool
  | .clear | .notify | .tryClose | .leave | .panic => true
  | _ => false

/-- Whether a move is one of the worker, once it is set up, or its transport, other than a panic. -/
def Move.isOwn : Move → Bool
  | .work | .silence | .resolve | .reply _ | .receive _ | .push _ => true
  | _ => false

/-- The moves that a worker makes at most until it is done or receives something more of a body. -/
def Phase.toEnd : Phase → Nat
  | .over => 0
  | .closing => 1
  | .settling => 2
  | .unwinding => 3
  | .recording _ => 4
  | .telling _ => 5
  | .concluding _ => 6
  | .awaiting .body => 7
  | .asking .body => 8
  | .betweenChunks => 9
  | .awaiting .reply => 10
  | .asking .reply => 11
  | .preparing => 12
  | .forwarding rest => 4 * rest.length + 10
  | .written _ _ rest => 4 * rest.length + 11
  | .writing _ _ rest => 4 * rest.length + 12
  | .entering _ rest => 4 * rest.length + 13

/-- A run does not disturb itself. -/
lemma Move.disturbs_of_isOwn {m : Move} (own : m.isOwn = true) : m.disturbs = false := by
  cases m <;> first | rfl | cases own

namespace Script

/-- The moves that the rest of a script calls for at most. -/
def weight (s : Script) : Nat :=
  s.lookups + (s.body.map Run.eventMoves).foldr (· + ·) 0

/-- Whether `s'` is what is left of a script of which `h` has been heard. -/
structure Leaves (s : Script) (h : History) (s' : Script) : Prop where
  reply : s.reply.toList = h.replies ++ s'.reply.toList
  body : s.body = h.events ++ s'.body

/-- Whether the transport says all that a worker waits for. -/
structure IsComplete (s : Script) : Prop where
  reply : s.reply.isSome = true
  body : s.reply = some (.answered 200) → ∃ e ∈ s.body, e.chunk? = none

variable {s s' : Script} {h : History}

/-- Before anything has been heard, the whole script is left. -/
lemma Leaves.refl (s : Script) : s.Leaves {} s := ⟨rfl, rfl⟩

/-- A worker that has heard nothing gets the answer of a complete script. -/
lemma Leaves.exists_reply (leaves : s.Leaves h s') (complete : s.IsComplete)
    (unheard : h.replies = []) : ∃ a, s'.reply = some a := by
  obtain ⟨a, reply⟩ := Option.isSome_iff_exists.1 complete.reply
  have left := leaves.reply
  rw [reply, unheard, List.nil_append] at left
  exact ⟨a, Option.toList_eq_singleton_iff.1 left.symm⟩

/-- A worker that has received chunks only receives something more of a complete script. -/
lemma Leaves.body_ne_nil (leaves : s.Leaves h s') (complete : s.IsComplete)
    (replies : h.replies = [.answered 200]) (events : h.events = h.chunks.map .chunk) :
    s'.body ≠ [] := by
  have granted : s.reply = some (.answered 200) := by
    have left := leaves.reply
    rw [replies] at left
    cases reply : s.reply with
    | none => simp [reply] at left
    | some a =>
      rw [reply, Option.toList_some, List.singleton_append, List.cons.injEq] at left
      rw [left.1]
  obtain ⟨e, mem, last⟩ := complete.body granted
  rw [leaves.body] at mem
  rcases List.mem_append.1 mem with heard | left
  · rw [events] at heard
    obtain ⟨bytes, _, rfl⟩ := List.mem_map.1 heard
    cases last
  · exact List.ne_nil_of_mem left

end Script

/-- A worker that has no more moves to make is done. -/
lemma Phase.eq_over_of_toEnd {p : Phase} (zero : p.toEnd = 0) : p = .over := by
  cases p with
  | asking w | awaiting w => cases w <;> cases zero
  | «over» => rfl
  | _ => simp [toEnd] at zero

namespace Bytes

/-- A byte string has at most as many pieces as bytes. -/
lemma length_pieces_le (size : Nat) (bs : Bytes) : (bs.pieces size).length ≤ bs.length := by
  fun_induction pieces size bs with
  | case1 => simp
  | case2 bs h ih =>
    have ne : 0 < bs.length := List.length_pos_iff.2 (fun e => h (.inl e))
    have pos : size ≠ 0 := fun e => h (.inr e)
    rw [List.length_drop] at ih
    rw [List.length_cons]
    omega

end Bytes

namespace Run

variable {t : Task} {h : History} {r r' : Run} {s s' s'' : Script} {m : Move} {n : Nat}

/-- What a worker does by itself brings it nearer to the end. -/
lemma Goes.toEnd_lt (step : Goes t r .work r') : r'.phase.toEnd < r.phase.toEnd := by
  cases step with
  | @hear w place | @await w place =>
    rw [place]
    cases w <;> simp [Phase.toEnd]
  | _ => simp_all [Phase.toEnd] <;> omega

/-- What a worker makes of its answer leaves it before the wait for the body. -/
lemma toEnd_onReply_le (t : Task) (r : Run) (a : Reply) : (r.onReply t a).phase.toEnd ≤ 9 := by
  cases a with
  | answered status =>
    simp only [onReply]
    split
    · exact Nat.le_refl 9
    · show 6 ≤ 9
      omega
  | failed e =>
    show 6 ≤ 9
    omega

/-- What a worker makes of something that it receives calls for no more moves than that allows. -/
lemma toEnd_onBody_lt (t : Task) (r : Run) (e : BodyEvent) :
    (r.onBody t e).phase.toEnd < 7 + eventMoves e := by
  cases e with
  | finished | broken cause =>
    show 6 < 7 + 8
    omega
  | chunk bytes =>
    have count := Bytes.length_pieces_le t.chunkSize bytes
    simp only [onBody, goTo, eventMoves]
    split
    · simp only [Phase.toEnd]
      omega
    · simp only [Phase.toEnd]
      omega

/-- The rest of a piece is written at once, or its reader is found gone. -/
lemma exists_push {piece left : Bytes} {rest : List Bytes}
    (place : r.phase = .writing piece left rest) (length : 0 < left.length) :
    ∃ r' failure, r.push left.length = some r' ∧ r'.phase = .written piece failure rest := by
  simp only [push, place]
  split
  · exact ⟨_, _, rfl, rfl⟩
  · rw [if_pos ⟨length, Nat.le_refl _⟩]
    exact ⟨_, none, rfl, rfl⟩

/-- The next move of a run that is driven is its own, and is made by way of the script. -/
lemma next_own (next : r.next s' = some (m, s'')) :
    m.isOwn = true ∧ (s.Leaves h s' → s.Leaves (h.after r m) s'') := by
  unfold Run.next at next
  split at next
  · split at next
    · cases next
      exact ⟨rfl, fun leaves => ⟨leaves.reply, leaves.body⟩⟩
    · obtain ⟨a, reply, same⟩ := Option.map_eq_some_iff.1 next
      cases same
      refine ⟨rfl, fun leaves => ⟨?_, leaves.body⟩⟩
      rw [leaves.reply, reply]
      simp [History.after]
  · split at next
    · cases next
    · next e rest body =>
      cases next
      refine ⟨rfl, fun leaves => ⟨leaves.reply, ?_⟩⟩
      rw [leaves.body, body]
      simp [History.after]
  · cases next
    exact ⟨rfl, fun leaves => ⟨leaves.reply, leaves.body⟩⟩
  · cases next
  · cases next
    exact ⟨rfl, id⟩

/-- A run that is driven goes on by moves of its own, and by way of its script. -/
lemma exists_steps_drive_own (t : Task) (n : Nat) (leaves : s.Leaves h s') :
    ∃ ms, r.steps t ms = some (drive t n r s').1 ∧ (∀ m ∈ ms, m.isOwn = true) ∧
      s.Leaves (r.historyFrom t h ms) (drive t n r s').2 := by
  induction n generalizing h r s' with
  | zero => exact ⟨[], rfl, by simp, leaves⟩
  | succ n ih =>
    rw [drive]
    split
    · exact ⟨[], rfl, by simp, leaves⟩
    · next m s'' next =>
      split
      · exact ⟨[], rfl, by simp, leaves⟩
      · next r' step =>
        obtain ⟨own, leaves'⟩ := next_own next
        obtain ⟨ms, steps, owns, leaves''⟩ := ih (leaves' leaves)
        refine ⟨m :: ms, ?_, List.forall_mem_cons.2 ⟨own, owns⟩, ?_⟩
        · rw [Run.steps, step, Option.bind_some, steps]
        · simp only [historyFrom, step]
          exact leaves''

/-- A worker that is not done has its next move, from a complete script if it has no result yet, and
the move brings it nearer to the end. -/
lemma Leads.exists_next (leads : Leads t .fresh h r) (leaves : s.Leaves h s')
    (complete : r.phase.isBound = false → s.IsComplete) (busy : r.phase ≠ .over) :
    ∃ m s'' r', r.next s' = some (m, s'') ∧ r.step t m = some r' ∧
      r'.phase.toEnd + s''.weight < r.phase.toEnd + s'.weight := by
  have agrees := Agrees.of_leads leads
  cases place : r.phase with
  | awaiting w =>
    cases w with
    | reply =>
      simp only [Agrees, place] at agrees
      cases lookups : s'.lookups with
      | succ n =>
        refine ⟨.resolve, { s' with lookups := n }, r.log .resolved, ?_, ?_, ?_⟩
        · simp only [next, place, lookups]
        · simp only [step, place]
        · simp [Script.weight, lookups, place]
      | zero =>
        obtain ⟨a, reply⟩ := leaves.exists_reply (complete (by rw [place]; rfl)) agrees.1
        refine ⟨.reply a, { s' with reply := none }, r.stopWaiting.onReply t a, ?_, ?_, ?_⟩
        · simp [next, place, lookups, reply]
        · simp only [step, place]
        · have few := toEnd_onReply_le t r.stopWaiting a
          rw [show Phase.toEnd (.awaiting .reply) = 10 from rfl]
          simp only [Script.weight]
          omega
    | body =>
      simp only [Agrees, place] at agrees
      have left := leaves.body_ne_nil (complete (by rw [place]; rfl)) agrees.replies agrees.events
      obtain ⟨e, rest, body⟩ := List.exists_cons_of_ne_nil left
      refine ⟨.receive e, { s' with body := rest }, r.stopWaiting.onBody t e, ?_, ?_, ?_⟩
      · simp [next, place, body]
      · simp only [step, place]
      · have few := toEnd_onBody_lt t r.stopWaiting e
        rw [show Phase.toEnd (.awaiting .body) = 7 from rfl]
        simp only [Script.weight, body, List.map_cons, List.foldr_cons]
        omega
  | writing piece left rest =>
    have ne := (Carries.of_leads leads).left_ne_nil place
    obtain ⟨r', failure, push, place'⟩ := exists_push place (List.length_pos_iff.2 ne)
    refine ⟨.push left.length, s', r', ?_, push, ?_⟩
    · simp only [next, place]
    · rw [place']
      simp only [Phase.toEnd]
      omega
  | «over» => exact absurd place busy
  | _ =>
    have free : r.phase.holdsWriteEnd = false := by
      rw [place]
      rfl
    have heard : ∀ w, r.phase ≠ .awaiting w := by
      intro w waits
      rw [place] at waits
      cases waits
    obtain ⟨r', step⟩ := Option.isSome_iff_exists.1 (isSome_work t free busy heard)
    refine ⟨.work, s', r', ?_, step, ?_⟩
    · simp only [next, place]
    · have nearer := (Goes.of_work step).toEnd_lt
      rw [place] at nearer
      omega

/-- A run that is driven for long enough comes to its end, if it has a result or gets one by way of a
complete script. -/
lemma Leads.drive_over (leads : Leads t .fresh h r) (leaves : s.Leaves h s')
    (complete : r.phase.isBound = false → s.IsComplete)
    (enough : r.phase.toEnd + s'.weight ≤ n) : (drive t n r s').1.phase = .over := by
  induction n generalizing h r s' with
  | zero =>
    have zero : r.phase.toEnd = 0 := by omega
    exact Phase.eq_over_of_toEnd zero
  | succ n ih =>
    by_cases busy : r.phase = .over
    · simp only [drive, next, busy]
    · obtain ⟨m, s'', r', next, step, nearer⟩ := leads.exists_next leaves complete busy
      simp only [drive, next, step]
      refine ih (leads.move step) ((next_own next).2 leaves) ?_ (by omega)
      -- A result is never lost again, so that the script is needed only until there is one.
      intro unbound
      cases bound : r.phase.isBound with
      | false => exact complete bound
      | true =>
        rw [(Goes.of_step step).isBound bound] at unbound
        cases unbound

/-- The number of moves that a run is driven for suffices. -/
lemma toEnd_add_weight_le (r : Run) (s : Script) : r.phase.toEnd + s.weight ≤ r.enoughMoves s := by
  have phase : r.phase.toEnd + 1 ≤ phaseMoves r.phase + 12 := by
    cases r.phase with
    | asking w | awaiting w => cases w <;> simp [Phase.toEnd, phaseMoves]
    | _ =>
      simp only [Phase.toEnd, phaseMoves]
      omega
  simp only [Script.weight, enoughMoves]
  omega

/-- Wherever a run has got to, driving it brings it to its end, if it has a result or gets one by way
of what is left of a complete script. -/
theorem Leads.finish_over (leads : Leads t .fresh h r) (leaves : s.Leaves h s')
    (complete : r.phase.isBound = false → s.IsComplete) : (r.finish t s').1.phase = .over :=
  leads.drive_over leaves complete (toEnd_add_weight_le r s')

/-- A run for a URL that is none comes to its end without a transport. -/
lemma finish_over_of_invalid (invalid : Url.parse? t.url = none) (s : Script) :
    (fresh.finish t s).1.phase = .over := by
  have step : fresh.step t .work = some (fresh.conclude (.error (.invalidUrl t.url))) := by
    simp only [Run.step, work, fresh, invalid]
  have next : fresh.next s = some (.work, s) := rfl
  have enough : 12 + s.weight ≤ fresh.enoughMoves s := toEnd_add_weight_le fresh s
  obtain ⟨n, moves⟩ : ∃ n, fresh.enoughMoves s = n + 1 :=
    Nat.exists_eq_add_one.2 (by omega)
  rw [moves] at enough
  rw [finish, moves, drive]
  simp only [next, step]
  refine (Leads.refl.move step).drive_over (.refl s) ?_ ?_
  · rintro ⟨⟩
  · show 6 + s.weight ≤ n
    omega

variable {ms : List Move}

/-- By moves of its own a run does not turn out not to be set up. -/
lemma historyFrom_unready (own : ∀ m ∈ ms, m.isOwn = true) (r : Run) (h : History) :
    (r.historyFrom t h ms).unready = h.unready := by
  apply historyFrom_stays History.unready
  intro h r m mem
  cases m <;> first | rfl | cases own _ mem

/-- No move that disturbs is among moves that do not. -/
lemma not_mem_of_calm {d : Move} (calm : ∀ m ∈ ms, m.disturbs = false)
    (disturbs : d.disturbs = true) : d ∉ ms := by
  intro mem
  rw [calm d mem] at disturbs
  cases disturbs

/-- Moves that can be made can be followed by those of the driven run. -/
theorem exists_finish_over (steps : fresh.steps t ms = some r)
    (leaves : s.Leaves (fresh.history t ms) s') (complete : s.IsComplete) :
    ∃ ns, fresh.steps t (ms ++ ns) = some (r.finish t s').1 ∧ (∀ m ∈ ns, m.isOwn = true) ∧
      s.Leaves (fresh.history t (ms ++ ns)) (r.finish t s').2 ∧
      (r.finish t s').1.phase = .over := by
  obtain ⟨ns, more, own, leaves'⟩ := exists_steps_drive_own t (r.enoughMoves s') leaves
  refine ⟨ns, ?_, own, ?_,
    (Leads.of_steps steps).finish_over leaves fun _ => complete⟩
  · rw [steps_append, steps, Option.bind_some, more, finish]
  · rw [history, historyFrom_append steps]
    exact leaves'

end Run

end StreamRelay
