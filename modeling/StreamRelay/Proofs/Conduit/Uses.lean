import Mathlib.Tactic.Lemma
import StreamRelay.Conduit

/-!
# What a conduit does in the course of its uses

Whatever is done to a conduit, and in whatever order, it is closed once and hands out what was written
to it, in the order in which it was written.

Main statement: the answers to the uses of a conduit are those of a queue with one end that can be
closed and one that can go away (`fifo_of_uses`).
-/

namespace StreamRelay.Conduit

/-- What was done to a conduit, each time with what came of it. -/
abbrev Trace := List (Use × Answer)

/-- Does one thing after the other to a conduit. -/
def uses (c : Conduit) : List Use → Option (Trace × Conduit)
  | [] => some ([], c)
  | u :: us =>
    match c.use u with
    | none => none
    | some (a, d) => (d.uses us).map fun (tr, e) => ((u, a) :: tr, e)

/-- Whether a use closes the write end if that is open: the lock has to be free. -/
def Use.closes : Use → Bool
  | close | tryClose false => true
  | _ => false

/-- Whether an answer tells that the write end was closed by this use. -/
def Answer.hasClosed : Answer → Bool
  | closed first | tried (some first) => first
  | _ => false

/-- The bytes that a write with success puts in. -/
def putIn : Use × Answer → Bytes
  | (.write bs, .wrote none) => bs
  | _ => []

/-- The bytes that a read takes out. -/
def takenOut : Use × Answer → Bytes
  | (_, .got bs) => bs
  | _ => []

namespace Trace

/-- All that was written with success. -/
def written (tr : Trace) : Bytes := tr.flatMap putIn

/-- All that was read. -/
def received (tr : Trace) : Bytes := tr.flatMap takenOut

/-- How often the write end was closed, as the answers tell. -/
def closings (tr : Trace) : Nat := tr.countP (·.2.hasClosed)

/-- Whether anybody was to close the write end and found the lock free. -/
def isClosed (tr : Trace) : Bool := tr.any (·.1.closes)

/-- Whether the read end went away. -/
def hasLeft (tr : Trace) : Bool := tr.any (·.1 = .leave)

variable (tr : Trace) (u : Use) (a : Answer)

/-- What a use writes comes behind what was written before. -/
@[simp] lemma written_concat : written (tr ++ [(u, a)]) = written tr ++ putIn (u, a) := by
  simp [written]

/-- What a use reads comes behind what was read before. -/
@[simp] lemma received_concat : received (tr ++ [(u, a)]) = received tr ++ takenOut (u, a) := by
  simp [received]

/-- A use that closes the write end, as its answer tells, is counted. -/
@[simp] lemma closings_concat :
    closings (tr ++ [(u, a)]) = closings tr + a.hasClosed.toNat := by
  cases closed : a.hasClosed <;> simp [closings, closed]

/-- The last use closes the write end, or one before it has. -/
@[simp] lemma isClosed_concat : isClosed (tr ++ [(u, a)]) = (isClosed tr || u.closes) := by
  simp [isClosed]

/-- The reader leaves by the last use, or has left before. -/
@[simp] lemma hasLeft_concat : hasLeft (tr ++ [(u, a)]) = (hasLeft tr || u = .leave) := by
  simp [hasLeft]

end Trace

variable {c d : Conduit} {u : Use} {a : Answer} {us : List Use} {tr tr' : Trace}

/-- Uses in a row are made one by one. -/
lemma uses_cons (uses : c.uses (u :: us) = some (tr, d)) :
    ∃ a c₁ tr₁, c.use u = some (a, c₁) ∧ c₁.uses us = some (tr₁, d) ∧ tr = (u, a) :: tr₁ := by
  rw [Conduit.uses] at uses
  split at uses
  · cases uses
  · next a c₁ use =>
    obtain ⟨⟨tr₁, d₁⟩, uses, same⟩ := Option.map_eq_some_iff.1 uses
    cases same
    exact ⟨a, c₁, tr₁, use, uses, rfl⟩

/-- All that a use of a conduit can do. -/
inductive Goes (c : Conduit) : Use → Answer → Conduit → Prop where
  | write {bs} (opened : c.pipe.closed = false) (here : c.pipe.readerGone = false ∨ bs = []) :
    Goes c (.write bs) (.wrote none) { c with pipe := c.pipe.push bs }
  | late {bs} (closed : c.pipe.closed = true) : Goes c (.write bs) (.wrote (some .closed)) c
  | lose {bs} (opened : c.pipe.closed = false) (gone : c.pipe.readerGone = true) (ne : bs ≠ []) :
    Goes c (.write bs) (.wrote (some .noReader)) c
  | close :
    Goes c .close (.closed !c.pipe.closed) { c with pipe := { c.pipe with closed := true } }
  | tryClose :
    Goes c (.tryClose false) (.tried (some !c.pipe.closed))
      { c with pipe := { c.pipe with closed := true } }
  | held : Goes c (.tryClose true) (.tried none) c
  | panic : Goes c .panic .panicked c.poison
  | read {n bs} (ready : c.pipe.isReadable = true) (here : c.pipe.readerGone = false) (pos : 0 < n)
    (next : (c.pipe.read n).1 = bs) :
    Goes c (.read n) (.got bs) { c with pipe := (c.pipe.read n).2 }
  | leave :
    Goes c .leave (.left !c.pipe.readerGone) { c with pipe := { c.pipe with readerGone := true } }

/-- A use that can be made goes by one of the rules. -/
lemma Goes.of_use (use : c.use u = some (a, d)) : Goes c u a d := by
  cases u with
  | write bs =>
    rw [Conduit.use, write_eq, Pipe.write, Pipe.refusal] at use
    cases closed : c.pipe.closed with
    | true =>
      rw [if_pos closed] at use
      cases use
      exact .late closed
    | false =>
      rw [if_neg (by simp [closed])] at use
      cases lost : c.pipe.readerGone && !bs.isEmpty with
      | true =>
        rw [if_pos lost] at use
        cases use
        rw [Bool.and_eq_true, Bool.not_eq_true', List.isEmpty_eq_false_iff] at lost
        exact .lose closed lost.1 lost.2
      | false =>
        rw [if_neg (by simp [lost])] at use
        cases use
        refine .write closed ?_
        rw [Bool.and_eq_false_iff, Bool.not_eq_false', List.isEmpty_iff] at lost
        exact lost
  | close =>
    rw [Conduit.use, close_eq] at use
    cases use
    exact .close
  | tryClose held =>
    rw [Conduit.use, tryClose_eq] at use
    cases held <;> cases use
    · exact .tryClose
    · exact .held
  | panic =>
    cases use
    exact .panic
  | read n =>
    obtain ⟨ready, use⟩ := Option.ite_none_right_eq_some.1 use
    cases use
    simp only [Bool.and_eq_true, Bool.not_eq_true', decide_eq_true_eq] at ready
    exact .read ready.1.1 ready.1.2 ready.2 rfl
  | leave =>
    cases use
    exact .leave

/-- How the state of a conduit goes with what was done to it. -/
structure Tracks (tr : Trace) (c : Conduit) : Prop where
  accepted : c.pipe.accepted = tr.written
  handed : c.pipe.handed = tr.received
  within : c.pipe.taken ≤ c.pipe.accepted.length
  closed : c.pipe.closed = tr.isClosed
  gone : c.pipe.readerGone = tr.hasLeft
  once : tr.closings = tr.isClosed.toNat

namespace Tracks

/-- A new conduit is what an empty trace leads to. -/
lemma empty : Tracks [] {} := ⟨rfl, rfl, Nat.le_refl 0, rfl, rfl, rfl⟩

/-- What leaves the conduit alone, whatever it does to the lock. -/
lemma idle (tracks : Tracks tr c) (pipe : d.pipe = c.pipe) (put : putIn (u, a) = [])
    (taken : takenOut (u, a) = []) (open_ : u.closes = false) (here : u ≠ .leave)
    (silent : a.hasClosed = false) : Tracks (tr ++ [(u, a)]) d where
  accepted := by simp [pipe, put, tracks.accepted]
  handed := by simp [pipe, taken, tracks.handed]
  within := pipe ▸ tracks.within
  closed := by simp [pipe, open_, tracks.closed]
  gone := by simp [pipe, here, tracks.gone]
  once := by simp [open_, silent, tracks.once]

/-- What closes the write end tells whether that was open. -/
lemma shut (tracks : Tracks tr c) (put : putIn (u, a) = []) (taken : takenOut (u, a) = [])
    (closes : u.closes = true) (here : u ≠ .leave) (told : a.hasClosed = !c.pipe.closed) :
    Tracks (tr ++ [(u, a)]) { c with pipe := { c.pipe with closed := true } } where
  accepted := by simp [put, tracks.accepted]
  handed := by
    rw [Trace.received_concat, taken, List.append_nil]
    exact tracks.handed
  within := tracks.within
  closed := by simp [closes]
  gone := by simp [here, tracks.gone]
  once := by
    rw [Trace.closings_concat, Trace.isClosed_concat, told, closes, tracks.closed, tracks.once]
    cases tr.isClosed <;> rfl

/-- A use leads on to what the trace with it leads to. -/
theorem goes (tracks : Tracks tr c) (step : Goes c u a d) : Tracks (tr ++ [(u, a)]) d := by
  cases step with
  | late | lose | held | panic => exact tracks.idle rfl rfl rfl rfl (by simp) rfl
  | close | tryClose => exact tracks.shut rfl rfl rfl (by simp) rfl
  | @write bs opened here =>
    refine {
      accepted := ?accepted
      handed := ?handed
      within := ?within
      closed := ?closed
      gone := ?gone
      once := ?once
    }
    case accepted => simp [putIn, Pipe.push, tracks.accepted]
    case handed => simp [takenOut, Pipe.handed_push tracks.within, tracks.handed]
    case within => exact Nat.le_trans tracks.within (by simp [Pipe.push])
    case closed => simp [Use.closes, Pipe.push, tracks.closed]
    case gone => simp [Pipe.push, tracks.gone]
    case once => simp [Use.closes, Answer.hasClosed, tracks.once]
  | @read n bs ready here pos next =>
    subst next
    refine {
      accepted := ?accepted
      handed := ?handed
      within := ?within
      closed := ?closed
      gone := ?gone
      once := ?once
    }
    case accepted => simp [putIn, Pipe.read, tracks.accepted]
    case handed => simp [takenOut, Pipe.handed_read, tracks.handed]
    case within => exact Pipe.taken_read_le n tracks.within
    case closed => simp [Use.closes, Pipe.read, tracks.closed]
    case gone => simp [Pipe.read, tracks.gone]
    case once => simp [Use.closes, Answer.hasClosed, tracks.once]
  | leave =>
    refine {
      accepted := ?accepted
      handed := ?handed
      within := ?within
      closed := ?closed
      gone := ?gone
      once := ?once
    }
    case accepted => simp [putIn, tracks.accepted]
    case handed =>
      rw [Trace.received_concat, show takenOut (.leave, _) = [] from rfl, List.append_nil]
      exact tracks.handed
    case within => exact tracks.within
    case closed => simp [Use.closes, tracks.closed]
    case gone => simp
    case once => simp [Use.closes, Answer.hasClosed, tracks.once]

/-- Uses that are made lead on to what their trace leads to. -/
theorem of_uses (tracks : Tracks tr c) (uses : c.uses us = some (tr', d)) :
    Tracks (tr ++ tr') d := by
  induction us generalizing tr tr' c with
  | nil =>
    cases uses
    rw [List.append_nil]
    exact tracks
  | cons u us ih =>
    obtain ⟨a, c₁, tr₁, use, uses', rfl⟩ := uses_cons uses
    have tracks' := ih (tracks.goes (.of_use use)) uses'
    rw [List.append_assoc, List.singleton_append] at tracks'
    exact tracks'

end Tracks

/-- The conduit without the poison of its lock. -/
def heal (c : Conduit) : Conduit := { c with poisoned := false }

/-- But for a panic, the poison of the lock makes no difference to a use. -/
lemma use_heal (calm : u ≠ .panic) :
    c.heal.use u = (c.use u).map fun (a, d) => (a, d.heal) := by
  cases u with
  | panic => exact absurd rfl calm
  | write bs => rw [use, use, write_eq, write_eq]; rfl
  | close => rw [use, use, close_eq, close_eq]; rfl
  | tryClose held => rw [use, use, tryClose_eq, tryClose_eq]; rfl
  | read n =>
    simp only [use, heal]
    rw [apply_ite (Option.map _)]
    rfl
  | leave => rfl

/-- Poison changes no answer. -/
lemma uses_heal (uses : c.uses us = some (tr, d)) :
    c.heal.uses (us.filter (· ≠ .panic)) = some (tr.filter (·.1 ≠ .panic), d.heal) := by
  induction us generalizing c tr with
  | nil =>
    cases uses
    rfl
  | cons u us ih =>
    obtain ⟨a, c₁, tr₁, use, uses', rfl⟩ := uses_cons uses
    by_cases panics : u = .panic
    · subst panics
      cases use
      have healed := ih uses'
      exact healed
    · rw [List.filter_cons, if_pos (decide_eq_true panics), List.filter_cons,
        if_pos (decide_eq_true panics), Conduit.uses, use_heal panics, use]
      simp only [Option.map_some, ih uses']

/-- What holds of a conduit `c` that the uses `us` have led to, with the answers in `tr`. -/
structure Fifo (us : List Use) (tr : Trace) (c : Conduit) : Prop where
  /-- The write end is closed once at most, -/
  once : tr.closings ≤ 1
  /-- by the first that finds the lock free, -/
  first : ∀ u a d, c.use u = some (a, d) →
    (a.hasClosed = true ↔ u.closes = true ∧ tr.isClosed = false)
  /-- and never by one that finds it held. -/
  held : c.use (.tryClose true) = some (.tried none, c)
  /-- Nothing can be written from then on. -/
  late : ∀ bs a d, tr.isClosed = true → c.use (.write bs) = some (a, d) →
    ∃ fault, a = .wrote (some fault)
  /-- A write that fails is one to a broken pipe, and puts nothing in. -/
  failed : ∀ bs fault d, c.use (.write bs) = some (.wrote (some fault), d) →
    fault.kind = .brokenPipe ∧ d = c
  /-- To an open end it fails if nobody can read what is written. -/
  opened : ∀ bs a d, tr.isClosed = false → bs ≠ [] → c.use (.write bs) = some (a, d) →
    ((∃ fault, a = .wrote (some fault)) ↔ tr.hasLeft = true)
  /-- What is read was written, in that order. -/
  order : tr.received <+: tr.written
  /-- The end of the data comes after the close, with everything read. -/
  ended : ∀ n d, c.use (.read n) = some (.got [], d) →
    tr.isClosed = true ∧ tr.received = tr.written
  /-- Whoever panics while holding the lock changes no answer. -/
  poison : ({} : Conduit).uses (us.filter (· ≠ .panic)) =
    some (tr.filter (·.1 ≠ .panic), c.heal)
  /-- There is an answer to all but a read that asks for nothing, has nobody to make it or has to
  wait. -/
  answered : ∀ u, c.use u = none ↔ ∃ n, u = .read n ∧
    (n = 0 ∨ tr.hasLeft = true ∨ tr.isClosed = false ∧ tr.received = tr.written)

namespace Tracks

/-- Everything that was written has been read if nothing is left to hand out. -/
lemma pending_eq_nil_iff (tracks : Tracks tr c) :
    c.pipe.pending = [] ↔ tr.received = tr.written := by
  rw [← tracks.accepted, ← tracks.handed]
  constructor
  case mp =>
    intro empty
    have whole := c.pipe.handed_append_pending
    rwa [empty, List.append_nil] at whole
  case mpr =>
    intro same
    have whole := c.pipe.handed_append_pending
    rw [same] at whole
    exact List.append_right_eq_self.1 whole

/-- A use closes the write end exactly if it finds the lock free and the write end open. -/
lemma closes_iff (tracks : Tracks tr c) (step : Goes c u a d) :
    a.hasClosed = true ↔ u.closes = true ∧ tr.isClosed = false := by
  rw [← tracks.closed]
  cases step <;> simp [Answer.hasClosed, Use.closes]

/-- All uses can be made but for reads of no bytes, without a reader, or where there is nothing to
read yet. -/
lemma use_eq_none_iff (tracks : Tracks tr c) :
    c.use u = none ↔ ∃ n, u = .read n ∧
      (n = 0 ∨ tr.hasLeft = true ∨ tr.isClosed = false ∧ tr.received = tr.written) := by
  cases u with
  | read n =>
    rw [← tracks.pending_eq_nil_iff, ← tracks.closed, ← tracks.gone]
    simp only [use, Pipe.isReadable, ite_eq_right_iff, reduceCtorEq, Bool.and_eq_true,
      Bool.or_eq_true, Bool.not_eq_true', decide_eq_true_eq, List.isEmpty_eq_false_iff,
      Use.read.injEq, exists_eq_left']
    grind
  | write bs | close | tryClose held | panic | leave => simp [use]

end Tracks

/-- However a conduit is used, it is a queue that is closed once. -/
theorem fifo_of_uses (uses : ({} : Conduit).uses us = some (tr, c)) : Fifo us tr c := by
  have tracks : Tracks tr c := Tracks.empty.of_uses uses
  refine {
    once := ?once
    first := ?first
    held := ?held
    late := ?late
    failed := ?failed
    opened := ?opened
    order := ?order
    ended := ?ended
    poison := uses_heal uses
    answered := fun u => tracks.use_eq_none_iff
  }
  case once =>
    rw [tracks.once]
    exact tr.isClosed.toNat_le
  case first =>
    intro u a d use
    exact tracks.closes_iff (.of_use use)
  case held => rw [use, tryClose_eq]; rfl
  case late =>
    intro bs a d closed use
    rw [← tracks.closed] at closed
    cases Goes.of_use use with
    | write opened here => rw [closed] at opened; cases opened
    | late | lose => exact ⟨_, rfl⟩
  case failed =>
    intro bs fault d use
    cases Goes.of_use use with
    | late | lose => exact ⟨rfl, rfl⟩
  case opened =>
    intro bs a d opened ne use
    rw [← tracks.closed] at opened
    rw [← tracks.gone]
    cases Goes.of_use use with
    | write _ here =>
      rcases here with here | empty
      · simp [here]
      · exact absurd empty ne
    | late closed => rw [opened] at closed; cases closed
    | lose _ gone => exact ⟨fun _ => gone, fun _ => ⟨_, rfl⟩⟩
  case order =>
    rw [← tracks.accepted, ← tracks.handed]
    exact List.take_prefix _ _
  case ended =>
    intro n d use
    cases Goes.of_use use with
    | read ready _ pos next =>
      have empty : c.pipe.pending = [] :=
        (List.take_eq_nil_iff.1 next).resolve_left (Nat.ne_of_gt pos)
      rw [← tracks.pending_eq_nil_iff, ← tracks.closed]
      rw [Pipe.isReadable, empty] at ready
      exact ⟨ready, empty⟩

/-- A writer that panics and goes on, a reader that leaves the last byte, and three that close. -/
def closedThrice : List Use :=
  [.write [1, 2], .tryClose true, .panic, .write [3], .read 2, .tryClose false, .close, .write [4],
    .tryClose false]

/-- The close that found the lock free is the one that counts, in spite of the poison. -/
theorem fifo_closedThrice :
    ∃ tr c, ({} : Conduit).uses closedThrice = some (tr, c) ∧ Fifo closedThrice tr c ∧
      tr.map (·.2) = [.wrote none, .tried none, .panicked, .wrote none, .got [1, 2],
        .tried (some true), .closed false, .wrote (some .closed), .tried (some false)] := by
  have some_ : (({} : Conduit).uses closedThrice).map (fun x => x.1.map (·.2)) =
      some [.wrote none, .tried none, .panicked, .wrote none, .got [1, 2], .tried (some true),
        .closed false, .wrote (some .closed), .tried (some false)] := by
    decide +kernel
  obtain ⟨⟨tr, c⟩, uses, answers⟩ := Option.map_eq_some_iff.1 some_
  exact ⟨tr, c, uses, fifo_of_uses uses, answers⟩

end StreamRelay.Conduit
