import StreamRelay.Proofs.Pump.Stop
import StreamRelay.Proofs.Run.Copy
import StreamRelay.Pump.Session

/-!
# What a caller does at a pump

A caller who uses a pump step by step, and lets the workers go on meanwhile, makes steps that the pump
can make. So what holds of a pump whatever its callers, workers and transports do holds of such a
caller as well.

Main statements: a caller's stop is a stop at the pump (`Session.exists_steps_stop`), and a caller
who reads the run that he has started reads what its worker has written (`Follows.readAll`).
-/

namespace StreamRelay

/-- Who stops a run disturbs it. -/
lemma Move.isRequest_of_calm {m : Move} (calm : m.disturbs = false) : m.isRequest = false := by
  cases m <;> first | rfl | cases calm

/-- Whether a step is one of the call with the number `n`, or of a run that it does not disturb. -/
def Action.IsCallOrWork (n : Nat) (a : Action) : Prop :=
  a = .advance n ∨ a = .expire n ∨ ∃ i m, m.disturbs = false ∧ a = .within i m

namespace Pipe

/-- To read all is to get what is pending. -/
lemma fst_readAll (p : Pipe) : p.readAll.1 = p.pending := List.take_length

/-- Nothing is pending once all has been read. -/
lemma pending_readAll (p : Pipe) : p.readAll.2.pending = [] := by
  simp only [readAll, read, pending, List.take_length, ← List.drop_drop]
  exact List.drop_length

end Pipe

namespace Run

variable {t : Task} {h : History} {r r' : Run} {s s' s'' : Script} {m : Move} {ms ns : List Move}

/-- What the reader gets by later moves comes behind what it got before. -/
lemma received_append (steps : r.steps t ms = some r') :
    r.received t (ms ++ ns) = r.received t ms ++ r'.received t ns := by
  induction ms generalizing r with
  | nil =>
    cases steps
    rfl
  | cons m ms ih =>
    obtain ⟨r₁, step, rest⟩ := Option.bind_eq_some_iff.1 steps
    simp only [List.cons_append, received, step]
    rw [ih rest, List.append_assoc]

/-- A run whose reader has read all that is there. -/
def drained (r : Run) : Run := { r with pipe := r.pipe.readAll.2 }

/-- To read all that is there takes one move, or none where nothing is there. -/
lemma exists_steps_drained (t : Task) (r : Run) :
    ∃ ms, r.steps t ms = some r.drained ∧ (∀ m ∈ ms, m.disturbs = false) ∧
      r.received t ms = r.pipe.pending ∧ ∀ h, r.historyFrom t h ms = h := by
  by_cases empty : r.pipe.pending = []
  · refine ⟨[], ?_, by simp, empty.symm, fun _ => rfl⟩
    simp [steps, drained, Pipe.readAll, Pipe.read, empty]
  · have length : 0 < r.pipe.pending.length := List.length_pos_iff.2 empty
    have step : r.step t (.read r.pipe.pending.length) = some r.drained := by
      simp [Run.step, Pipe.isReadable, drained, Pipe.readAll, empty, length]
    refine ⟨[.read r.pipe.pending.length], ?_, by simp [Move.disturbs], ?_, ?_⟩
    · rw [steps, step]
      rfl
    · simp only [received, step, gets, List.append_nil]
      exact r.pipe.fst_readAll
    · intro h
      simp only [historyFrom, step]
      rfl

/-- By moves of its own a run gives its reader nothing. -/
lemma received_of_isOwn (own : ∀ m ∈ ms, m.isOwn = true) : r.received t ms = [] := by
  induction ms generalizing r with
  | nil => rfl
  | cons m ms ih =>
    rw [List.forall_mem_cons] at own
    have unread : r.gets m = [] := by
      cases m <;> first | rfl | cases own.1
    simp only [received]
    split
    · rfl
    · rw [unread, ih own.2, List.append_nil]

end Run

namespace Control

variable {p : Pump} {c d : Control} {i : Nat} {r r' : Run} {ms : List Move}

/-- What a worker, its transport and its reader can do, they can do at a pump. -/
lemma steps_within (run : c.runs[i]? = some r) (steps : r.steps p.task ms = some r')
    (others : ∀ m ∈ ms, m.isRequest = false) :
    c.steps p (ms.map (.within i)) = some { c with runs := c.runs.set i r' } := by
  induction ms generalizing c r with
  | nil =>
    cases steps
    obtain ⟨bound, rfl⟩ := List.getElem?_eq_some_iff.1 run
    simp [Control.steps]
  | cons m ms ih =>
    obtain ⟨r₁, step, rest⟩ := Option.bind_eq_some_iff.1 steps
    have bound := (List.getElem?_eq_some_iff.1 run).1
    have goes : Goes p c (.within i m) _ :=
      .within (others m List.mem_cons_self) run step
    have run₁ : (c.runs.set i r₁)[i]? = some r₁ := List.getElem?_set_self bound
    rw [List.map_cons, Control.steps, goes.step, Option.bind_some,
      ih run₁ rest (fun m mem => others m (List.mem_cons_of_mem _ mem))]
    simp

/-- A pump that was started once, and whose run is `r`. -/
def ofRun (r : Run) : Control := { runs := [r], hasHandles := true, journal := [.started] }

/-- A pump whose only run goes on by moves that stop nobody is that of the run. -/
lemma steps_ofRun (steps : Run.fresh.steps p.task ms = some r)
    (others : ∀ m ∈ ms, m.isRequest = false) :
    ({} : Control).steps p (.start :: ms.map (.within 0)) = some (ofRun r) := by
  have run : (ofRun .fresh).runs[0]? = some .fresh := rfl
  have start : ({} : Control).step p .start = some (ofRun .fresh) := rfl
  rw [Control.steps, start, Option.bind_some, steps_within run steps others]
  rfl

end Control

namespace Session

/-- Whether the caller and the workers of `s` have made the steps `as` when the session is `s'`. -/
structure Makes (s : Session) (as : List Action) (s' : Session) : Prop where
  pump : s'.pump = s.pump
  steps : s.control.steps s.pump as = some s'.control

variable {s s' s'' : Session} {as bs : List Action} {n : Nat}

/-- Without steps a session stays as it is. -/
lemma Makes.refl (s : Session) : s.Makes [] s := ⟨rfl, rfl⟩

/-- Steps and then more steps are made one list after the other. -/
lemma Makes.trans (makes : s.Makes as s') (makes' : s'.Makes bs s'') : s.Makes (as ++ bs) s'' where
  pump := makes'.pump.trans makes.pump
  steps := by
    rw [Control.steps_append, makes.steps, Option.bind_some, ← makes.pump]
    exact makes'.steps

/-- Whether a session goes on to `s'` by steps of the call with the number `n` and of workers. -/
def Waits (n : Nat) (s s' : Session) : Prop := ∃ as, (∀ a ∈ as, a.IsCallOrWork n) ∧ s.Makes as s'

/-- To do nothing is to wait. -/
lemma Waits.refl (n : Nat) (s : Session) : s.Waits n s := ⟨[], by simp, .refl s⟩

/-- Two waits in a row are one. -/
lemma Waits.trans (waits : Waits n s s') (waits' : Waits n s' s'') : Waits n s s'' := by
  obtain ⟨as, own, makes⟩ := waits
  obtain ⟨bs, own', makes'⟩ := waits'
  refine ⟨as ++ bs, fun a mem => ?_, makes.trans makes'⟩
  rcases List.mem_append.1 mem with mem | mem
  · exact own a mem
  · exact own' a mem

/-- The next step of a call is one of its own. -/
lemma waits_advance (n : Nat) (s : Session) : s.Waits n (s.advance n) := by
  unfold advance
  split
  · next control step =>
    refine ⟨[.advance n], by simp [Action.IsCallOrWork], rfl, ?_⟩
    simp [Control.steps, Control.step, step]
  · exact .refl n s

/-- To give up waiting is a step of the call that waits. -/
lemma waits_expire (n : Nat) (s : Session) : s.Waits n (s.expire n) := by
  unfold expire
  split
  · next control step =>
    refine ⟨[.expire n], by simp [Action.IsCallOrWork], rfl, ?_⟩
    simp [Control.steps, Control.step, step]
  · exact .refl n s

/-- A worker that goes on disturbs nobody. -/
lemma waits_runOne (n i : Nat) (s : Session) : s.Waits n (s.runOne i) := by
  unfold runOne
  split
  · next r script run _ =>
    obtain ⟨ms, steps, own, _⟩ :=
      Run.exists_steps_drive_own (r := r) s.pump.task (r.enoughMoves script) (.refl script)
    refine ⟨ms.map (.within i), ?_, rfl, ?_⟩
    · intro a mem
      obtain ⟨m, among, rfl⟩ := List.mem_map.1 mem
      exact .inr (.inr ⟨i, m, Move.disturbs_of_isOwn (own m among), rfl⟩)
    · exact Control.steps_within run steps fun m mem =>
        Move.isRequest_of_calm (Move.disturbs_of_isOwn (own m mem))
  · exact .refl n s

/-- Workers that go on disturb nobody. -/
lemma waits_settle (n : Nat) (s : Session) : s.Waits n s.settle := by
  unfold settle
  generalize List.range s.control.runs.length = is
  induction is generalizing s with
  | nil => exact .refl n s
  | cons i is ih => exact (waits_runOne n i s).trans (ih (s.runOne i))

/-- A call that waits makes steps of its own, and lets workers go on. -/
lemma waits_await (n : Nat) (s : Session) : s.Waits n (s.await n) := by
  unfold await
  split
  · exact .refl n s
  · split
    · have settled : Waits n s (if s.pump.settings.stopWait = 0 then s else s.settle) := by
        split
        · exact .refl n s
        · exact waits_settle n s
      exact settled.trans ((waits_advance n _).trans (waits_expire n _))
    · exact .refl n s

/-- What a caller does to stop a pump is a stop at the pump, and workers may go on meanwhile. -/
theorem exists_steps_stop (kept : s.control.dropped = false) :
    ∃ as, (∀ a ∈ as, a.IsCallOrWork s.control.calls.length) ∧ s.Makes (.stop :: as) s.stop := by
  obtain ⟨control, stop⟩ : ∃ control, s.control.stop = some control :=
    ⟨_, (Control.Goes.stop kept : Control.Goes s.pump _ _ _).step⟩
  let n := s.control.calls.length
  let begun : Session := { s with control }
  have waits : Waits n begun (((begun.advance n).advance n).advance n |>.await n) :=
    (waits_advance n _).trans <| (waits_advance n _).trans <|
      (waits_advance n _).trans (waits_await n _)
  obtain ⟨as, own, makes⟩ := waits
  have same : s.stop = (((begun.advance n).advance n).advance n |>.await n) := by
    simp only [Session.stop, stop, begun, n]
  refine ⟨as, own, ?_⟩
  rw [same]
  refine ⟨makes.pump, ?_⟩
  simp only [Control.steps, Control.step, stop, Option.bind_some]
  exact makes.steps

end Session

/-! ## One run -/

/-- Whether a pump was started once by the caller of `x`, and its run has come to `r` by the moves
`ms`, which nobody disturbed, with nothing heard but what the script `s` says. -/
structure Follows (p : Pump) (s : Script) (ms : List Move) (r : Run) (x : Session) : Prop where
  pump : x.pump = p
  control : x.control = .ofRun r
  reader : x.reader = some 0
  steps : Run.fresh.steps p.task ms = some r
  calm : ∀ m ∈ ms, m.disturbs = false
  script : ∃ rest, x.scripts = [rest] ∧ s.Leaves (Run.fresh.history p.task ms) rest

namespace Follows

variable {p : Pump} {s : Script} {ms ns : List Move} {r r' : Run} {x : Session}

/-- A caller who starts a new pump follows its run from the beginning. -/
lemma start {net : Network} (start : Session.start net { pump := p } = .ok x) :
    Follows p (.ofTask net p.url) [] .fresh x := by
  cases start
  exact {
    pump := rfl
    control := rfl
    reader := rfl
    steps := rfl
    calm := by simp
    script := ⟨_, rfl, .refl _⟩
  }

/-- A run whose only caller reads is left alone. -/
lemma leftAlone (follows : Follows p s ms r x) : Run.LeftAlone p.task s ms r := by
  obtain ⟨rest, _, leaves⟩ := follows.script
  exact ⟨follows.steps, follows.calm, rest, leaves⟩

/-- The run goes on by more moves. -/
lemma go (follows : Follows p s ms r x) (steps : r.steps p.task ns = some r')
    (calm : ∀ m ∈ ns, m.disturbs = false) {rest : Script}
    (leaves : s.Leaves (r.historyFrom p.task (Run.fresh.history p.task ms) ns) rest) :
    Follows p s (ms ++ ns) r' { x with control := .ofRun r', scripts := [rest] } where
  pump := follows.pump
  control := rfl
  reader := follows.reader
  steps := by rw [Run.steps_append, follows.steps, Option.bind_some, steps]
  calm m mem := by
    rcases List.mem_append.1 mem with mem | mem
    · exact follows.calm m mem
    · exact calm m mem
  script := ⟨rest, rfl, by rw [Run.history, Run.historyFrom_append follows.steps]; exact leaves⟩

/-- The worker goes on for as long as it can. -/
lemma settle (follows : Follows p s ms r x) :
    ∃ ns rest, x.scripts = [rest] ∧ s.Leaves (Run.fresh.history p.task ms) rest ∧
      r.received p.task ns = [] ∧ Follows p s (ms ++ ns) (r.finish p.task rest).1 x.settle := by
  obtain ⟨rest, scripts, leaves⟩ := follows.script
  obtain ⟨ns, steps, own, leaves'⟩ :=
    Run.exists_steps_drive_own (r := r) p.task (r.enoughMoves rest) leaves
  refine ⟨ns, rest, scripts, leaves, Run.received_of_isOwn own, ?_⟩
  have same : x.settle = { x with
      control := .ofRun (r.finish p.task rest).1
      scripts := [(r.finish p.task rest).2] } := by
    simp [Session.settle, Session.runOne, follows.control, scripts, follows.pump, Control.ofRun]
  rw [same]
  exact follows.go steps (fun m mem => Move.disturbs_of_isOwn (own m mem)) leaves'

/-- The caller reads all that there is once the worker can go on no further. -/
theorem readAll (follows : Follows p s ms r x) :
    ∃ ns rest, x.scripts = [rest] ∧ s.Leaves (Run.fresh.history p.task ms) rest ∧
      r.received p.task ns = x.readAll.1 ∧
      Follows p s (ms ++ ns) (r.finish p.task rest).1.drained x.readAll.2 := by
  obtain ⟨ns, rest, scripts, leaves, unread, settled⟩ := follows.settle
  generalize ends : (r.finish p.task rest).1 = r₁ at settled
  -- The read is a move of its own behind those of the worker, and is heard by nobody.
  obtain ⟨ns', steps, calm, received, quiet⟩ := Run.exists_steps_drained p.task r₁
  have pipe : x.settle.pipe? = some r₁.pipe := by
    simp [Session.pipe?, settled.reader, settled.control, Control.ofRun]
  have same : x.readAll = (r₁.pipe.readAll.1, { x.settle with control := .ofRun r₁.drained }) := by
    simp [Session.readAll, pipe, Session.withPipe, settled.reader, settled.control, Control.ofRun,
      Run.drained]
  refine ⟨ns ++ ns', rest, scripts, leaves, ?received, ?follows⟩
  case received =>
    have steps₁ : r.steps p.task ns = some r₁ := by
      have whole := settled.steps
      rw [Run.steps_append, follows.steps, Option.bind_some] at whole
      exact whole
    rw [Run.received_append steps₁, unread, received, same, Pipe.fst_readAll, List.nil_append]
  case follows =>
    obtain ⟨rest', scripts', leaves'⟩ := settled.script
    rw [← quiet (Run.fresh.history p.task (ms ++ ns))] at leaves'
    have goes := settled.go steps calm leaves'
    rw [← scripts'] at goes
    rw [same, ends, ← List.append_assoc]
    exact goes

end Follows

end StreamRelay
