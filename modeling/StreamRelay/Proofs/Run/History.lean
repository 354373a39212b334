import StreamRelay.Proofs.Run.Step

/-!
# The history of a run

What a run has heard of its transport and written into its conduit in the course of a list of moves,
and what others have done to it meanwhile.

Main statement: a run after a list of moves is one that the run before leads to by way of the
history of these moves (`Leads.of_steps`), so that what holds of both is proved move by move.
-/

namespace StreamRelay

/-- The chunk that an event of a body brings. -/
def BodyEvent.chunk? : BodyEvent → Option Bytes
  | chunk bytes => some bytes
  | broken _ | finished => none

/-- Whether a worker has its result in hand, and is about to report it in one way or another. -/
def Phase.isReporting : Phase → Bool
  | .concluding _ | .telling _ | .recording _ => true
  | _ => false

/-- What has happened to a run. -/
structure History where
  /-- The answers to its request. -/
  replies : List Reply := []
  /-- What it received of the body. -/
  events : List BodyEvent := []
  /-- The pieces that it wrote with success. -/
  writes : List Bytes := []
  /-- Whether somebody told it to stop by clearing the running flag. -/
  told : Bool := false
  /-- Whether somebody gave it the stop signal. -/
  notified : Bool := false
  /-- Whether its reader left. -/
  left : Bool := false
  /-- Whether its worker panicked at a place that nothing calls for. -/
  panicked : Bool := false
  /-- Whether such a panic came upon the worker while it reported its result. -/
  interrupted : Bool := false
  /-- Whether its worker could not be set up. -/
  unready : Bool := false

/-- The piece whose write succeeds when the conduit takes in the next `n` bytes. -/
def Run.completed (r : Run) (n : Nat) : Option Bytes :=
  match r.phase with
  | .writing piece left _ => if !r.pipe.readerGone && n = left.length then some piece else none
  | _ => none

namespace History

/-- The bytes of the writes that succeeded. -/
def bytes (h : History) : Bytes := h.writes.flatten

/-- The chunks that were received. -/
def chunks (h : History) : List Bytes := h.events.filterMap BodyEvent.chunk?

/-- The history after one more move, which is made from `r`. -/
def after (h : History) (r : Run) : Move → History
  | .reply a => { h with replies := h.replies ++ [a] }
  | .receive e => { h with events := h.events ++ [e] }
  | .push n => { h with writes := h.writes ++ (r.completed n).toList }
  | .panic =>
    { h with panicked := true, interrupted := h.interrupted || r.phase.isReporting }
  | .giveUp _ => { h with unready := true }
  | .clear => { h with told := true }
  | .notify => { h with notified := true }
  | .leave => { h with left := true }
  | .work | .silence | .resolve | .tryClose | .read _ => h

/-- One history after the other. -/
def thereafter (h k : History) : History where
  replies := h.replies ++ k.replies
  events := h.events ++ k.events
  writes := h.writes ++ k.writes
  told := h.told || k.told
  notified := h.notified || k.notified
  left := h.left || k.left
  panicked := h.panicked || k.panicked
  interrupted := h.interrupted || k.interrupted
  unready := h.unready || k.unready

/-- Nothing more happens in a history that is empty. -/
@[simp] lemma thereafter_empty (h : History) : h.thereafter {} = h := by
  simp [thereafter]

/-- What happens last happens last in the second of two histories. -/
lemma after_thereafter (h k : History) (r : Run) (m : Move) :
    (h.thereafter k).after r m = h.thereafter (k.after r m) := by
  cases m <;> simp [thereafter, after, Bool.or_assoc]

end History

namespace Run

variable {t : Task} {h k : History} {r s : Run} {ms : List Move}

/-- The history `h` of a run carried on through more moves. -/
def historyFrom (t : Task) (h : History) (r : Run) : List Move → History
  | [] => h
  | m :: ms =>
    match r.step t m with
    | none => h
    | some r' => historyFrom t (h.after r m) r' ms

/-- What happens to a run in the course of some moves. -/
def history (t : Task) (r : Run) (ms : List Move) : History := r.historyFrom t {} ms

/-- Whether one run can become another, with `h` happening to it meanwhile. -/
inductive Leads (t : Task) (r : Run) : History → Run → Prop where
  | refl : Leads t r {} r
  | move {h : History} {s s' : Run} {m : Move} (leads : Leads t r h s)
      (step : s.step t m = some s') : Leads t r (h.after s m) s'

/-- A run goes on from where it has been led to. -/
lemma Leads.steps {r₀ : Run} (leads : Leads t r₀ h r) (steps : r.steps t ms = some s) :
    Leads t r₀ (r.historyFrom t h ms) s := by
  induction ms generalizing h r with
  | nil =>
    cases steps
    exact leads
  | cons m ms ih =>
    obtain ⟨r', step, steps⟩ := Option.bind_eq_some_iff.1 steps
    simp only [historyFrom, step]
    exact ih (leads.move step) steps

/-- Where a run has been led to, it is led on from. -/
lemma Leads.trans {r₀ : Run} (leads : Leads t r₀ h r) (leads' : Leads t r k s) :
    Leads t r₀ (h.thereafter k) s := by
  induction leads' with
  | refl => exact h.thereafter_empty.symm ▸ leads
  | move _ step ih => exact History.after_thereafter h _ _ _ ▸ ih.move step

/-- Moves that can be made lead on by way of their history. -/
theorem Leads.of_steps (steps : r.steps t ms = some s) : Leads t r (r.history t ms) s :=
  Leads.refl.steps steps

/-- The history of moves after moves carries on that of the first ones. -/
lemma historyFrom_append (steps : r.steps t ms = some s) (h : History) (ns : List Move) :
    r.historyFrom t h (ms ++ ns) = s.historyFrom t (r.historyFrom t h ms) ns := by
  induction ms generalizing r h with
  | nil =>
    cases steps
    rfl
  | cons m ms ih =>
    obtain ⟨r', step, steps⟩ := Option.bind_eq_some_iff.1 steps
    simp only [List.cons_append, historyFrom, step]
    exact ih steps _

/-- What no move of some changes of a history stays as it is. -/
lemma historyFrom_stays {α : Type} (f : History → α)
    (same : ∀ h r, ∀ m ∈ ms, f (h.after r m) = f h) (r : Run) (h : History) :
    f (r.historyFrom t h ms) = f h := by
  induction ms generalizing r h with
  | nil => rfl
  | cons m ms ih =>
    simp only [historyFrom]
    split
    · rfl
    · rw [ih (fun h r m mem => same h r m (List.mem_cons_of_mem _ mem)),
        same h r m List.mem_cons_self]

/-- Where nobody clears the running flag, nobody told the run to stop. -/
lemma historyFrom_told (calm : .clear ∉ ms) (r : Run) (h : History) :
    (r.historyFrom t h ms).told = h.told :=
  historyFrom_stays History.told
    (fun h r m mem => by cases m <;> first | rfl | exact absurd mem calm) r h

/-- Where the reader does not leave, it is not gone. -/
lemma historyFrom_left (calm : .leave ∉ ms) (r : Run) (h : History) :
    (r.historyFrom t h ms).left = h.left :=
  historyFrom_stays History.left
    (fun h r m mem => by cases m <;> first | rfl | exact absurd mem calm) r h

/-- Where no panic comes upon the worker, none has come upon its report. -/
lemma historyFrom_interrupted (calm : .panic ∉ ms) (r : Run) (h : History) :
    (r.historyFrom t h ms).interrupted = h.interrupted :=
  historyFrom_stays History.interrupted
    (fun h r m mem => by cases m <;> first | rfl | exact absurd mem calm) r h

/-- Where no panic comes upon the worker, it has not panicked. -/
lemma historyFrom_panicked (calm : .panic ∉ ms) (r : Run) (h : History) :
    (r.historyFrom t h ms).panicked = h.panicked :=
  historyFrom_stays History.panicked
    (fun h r m mem => by cases m <;> first | rfl | exact absurd mem calm) r h

end Run

end StreamRelay
