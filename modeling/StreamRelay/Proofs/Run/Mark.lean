import StreamRelay.Proofs.Run.Finality

/-!
# What a run tells of a host without an address

That the host of a request has no address is told in three places: the status is marked, the journal
gets an entry, and the exit says so. The worker does this in three steps, out of the answer to the
request alone. A panic that comes upon it in between leaves the places that it has seen to as they
are, and puts the exit of a panic in place of the one that was called for.

Main statements: at the end of a run the three agree with each other and with the answer that the
worker got, unless there was such a panic, and after one each of them still is there only with those
before it (`accord_of_steps`); a panic behind the mark makes them disagree
(`not_agreement_panickedAtReport`).
-/

namespace StreamRelay

/-! ## The three places and the answer -/

/-- Whether an entry is the one about a host without an address. -/
def Event.isUnresolved (e : Event) : Bool :=
  e.level = .error && e.message = "HTTP reader DNS resolution failed"

/-- The entries about hosts without an address. -/
def Journal.unresolved (j : Journal) : List Event := j.filter Event.isUnresolved

/-- Entries of two journals are those of the first, and then those of the second. -/
@[simp] lemma Journal.unresolved_append (j k : Journal) :
    Journal.unresolved (j ++ k) = j.unresolved ++ k.unresolved :=
  List.filter_append ..

/-- An entry about something else does not count. -/
lemma Journal.unresolved_concat (j : Journal) {e : Event} (other : e.isUnresolved = false) :
    Journal.unresolved (j ++ [e]) = j.unresolved := by
  have none : Journal.unresolved [e] = [] := List.filter_cons_of_neg (by simp [other])
  rw [unresolved_append, none, List.append_nil]

/-- What is told after a write is not about hosts without an address. -/
@[simp] lemma Journal.unresolved_afterWrite (s : Status) (size : Nat) (failure : Option String) :
    Journal.unresolved (s.afterWrite size failure).journal = [] := by
  cases failure with
  | none =>
    simp only [Status.afterWrite]
    split <;> rfl
  | some error =>
    simp only [Status.afterWrite]
    split <;> rfl

/-- There are such entries if one is found. -/
lemma Journal.unresolved_ne_nil_iff {j : Journal} :
    j.unresolved ≠ [] ↔ ∃ e ∈ j, e.isUnresolved = true := by
  simp [unresolved]

/-- What is told of a chain of causes if it is that of a host without an address. -/
def Trouble.unresolved? (cause : Trouble) : Option String :=
  if Resolution.isFailure cause.trail then some (Resolution.rendered cause.trail) else none

/-- What is told of an answer if it is that the host has no address. An error that did not occur
while the client was connecting is none of these, whatever it says. -/
def Reply.unresolved? : Reply → Option String
  | .answered _ => none
  | .failed e => if e.isConnect then e.cause.unresolved? else none

/-- What is told of a result if it is that the host has no address. -/
def Outcome.unresolved? : Outcome → Option String
  | .error (.connect _ cause) => cause.unresolved?
  | _ => none

/-- What is told of the answers to a request that say that the host has no address. -/
def History.unresolved (h : History) : List String := h.replies.filterMap Reply.unresolved?

/-- What is told of an answer comes behind what is told of those before it. -/
lemma History.unresolved_concat {h : History} {a : Reply} {told : Option String}
    (same : a.unresolved? = told) :
    ({ h with replies := h.replies ++ [a] } : History).unresolved =
      h.unresolved ++ told.toList := by
  subst same
  rw [unresolved, unresolved, List.filterMap_append]
  cases told : a.unresolved? <;> simp [told]

/-- There is something to tell of the answers if one of them is an error of connecting to a host
without an address. -/
lemma History.unresolved_ne_nil_iff {h : History} :
    h.unresolved ≠ [] ↔ ∃ e : ClientError, .failed e ∈ h.replies ∧ e.isConnect = true ∧
      Resolution.isFailure e.cause.trail = true := by
  constructor
  · intro ne
    obtain ⟨text, mem⟩ := List.exists_mem_of_ne_nil _ ne
    obtain ⟨reply, mem, told⟩ := List.mem_filterMap.1 mem
    cases reply with
    | failed e =>
      simp only [Reply.unresolved?, Trouble.unresolved?] at told
      split at told
      · next connecting =>
        split at told
        · next failed => exact ⟨e, mem, connecting, failed⟩
        · cases told
      · cases told
    | answered status => cases told
  · rintro ⟨e, mem, connecting, failed⟩
    apply List.ne_nil_of_mem (a := Resolution.rendered e.cause.trail)
    apply List.mem_filterMap.2
    exact ⟨_, mem, by simp [Reply.unresolved?, Trouble.unresolved?, connecting, failed]⟩

/-- The mark that a result calls for is set where there was none. -/
lemma Outcome.dnsFailure_mark {s : Status} (unset : s.dnsFailure = false) (o : Outcome) :
    (o.mark s).dnsFailure = o.isUnresolved := by
  unfold mark
  cases called : o.isUnresolved with
  | true => rfl
  | false => exact unset

/-- A result calls for the mark only if it is that the host has no address. -/
lemma Outcome.unresolved?_ne_none {o : Outcome} (called : o.isUnresolved = true) :
    o.unresolved?.toList ≠ [] := by
  cases o with
  | ok exit => cases called
  | error f =>
    cases f with
    | connect url cause =>
      rw [isUnresolved] at called
      simp [unresolved?, Trouble.unresolved?, called]
    | _ => cases called

/-- What is told of a result does not depend on the mark. -/
lemma Outcome.verdict_mark (s : Status) (o : Outcome) : o.verdict (o.mark s) = o.verdict s := by
  cases o with
  | ok exit => simp [verdict]
  | error f => cases f <;> rfl

namespace Run

variable {t : Task} {h k : History} {r r' s : Run} {m : Move} {ms : List Move} {o : Outcome}
  {e : Exit}

/-- A worker that is left alone makes of its result what belongs to that. -/
theorem steps_conclude (place : r.phase = .concluding o) :
    r.steps t [.work, .work] =
      some (({ r with status := (o.conclude r.status).1 }.log (o.conclude r.status).2.2).goTo
        (.recording (o.conclude r.status).2.1)) := by
  simp [steps, step, work, place, Outcome.conclude, Outcome.verdict_mark]

/-! ## What has been told at a time -/

/-- Whether nothing is told of a host without an address, and nothing heard, when the run `r` with
the history `h` becomes `r'` with the history `k`. -/
structure Silent (h : History) (r : Run) (k : History) (r' : Run) : Prop where
  mark : r'.status.dnsFailure = r.status.dnsFailure
  entries : r'.journal.unresolved = r.journal.unresolved
  replies : k.unresolved = h.unresolved

/-- Nothing has been told of a host without an address, and no answer says so. -/
structure Untold (h : History) (r : Run) : Prop where
  mark : r.status.dnsFailure = false
  entries : r.journal.unresolved = []
  replies : h.unresolved = []

/-- Of the result `o` the mark is what `marked` says, and nothing else has been told. -/
structure Bears (h : History) (r : Run) (o : Outcome) (marked : Bool) : Prop where
  mark : r.status.dnsFailure = marked
  entries : r.journal.unresolved = []
  replies : h.unresolved = o.unresolved?.toList
  other : o ≠ .ok .dnsFailure

/-- With the exit `e`, it has been told in all places or in none that the host has no address. -/
structure Told (h : History) (r : Run) (e : Exit) : Prop where
  mark : r.status.dnsFailure = true ↔ e = .dnsFailure
  entries : r.journal.unresolved = h.unresolved.map .unresolved
  replies : h.unresolved.length = if e = .dnsFailure then 1 else 0

/-- Each of the places tells of a host without an address only with those before it. -/
structure Traces (h : History) (r : Run) : Prop where
  entries : r.journal.unresolved.length ≤ if r.status.dnsFailure then 1 else 0
  mark : r.status.dnsFailure = true → h.unresolved ≠ []

/-- What has been told with the exit `e`, where a panic may have come upon the worker while it
reported its result. -/
structure Reported (h : History) (r : Run) (e : Exit) : Prop where
  told : h.interrupted = false → r.Told h e
  torn : h.interrupted = true → e = .unexpected
  traces : r.Traces h

/-- What has been told when the worker is at its place. -/
def Tells (h : History) (r : Run) : Prop :=
  match r.phase with
  | .concluding o => h.interrupted = false ∧ r.Bears h o false
  | .telling o => h.interrupted = false ∧ r.Bears h o o.isUnresolved
  | .recording e => h.interrupted = false ∧ r.Told h e
  | .unwinding => (h.interrupted = false → r.Untold h) ∧ r.Traces h
  | .settling | .closing | .over => ∃ e, r.status.exit = some e ∧ r.Reported h e
  | _ => h.interrupted = false ∧ r.Untold h

/-- A worker at work that is not about to report a result has none. -/
lemma isBound_of_isAtWork {p : Phase} (work : p.isAtWork = true) (early : p.isReporting = false) :
    p.isBound = false := by
  cases p <;> simp_all [Phase.isAtWork, Phase.isReporting, Phase.isBound]

namespace Untold

/-- What is silent leaves it untold. -/
lemma stay (untold : r.Untold h) (silent : Silent h r k r') : r'.Untold k where
  mark := silent.mark.trans untold.mark
  entries := silent.entries.trans untold.entries
  replies := silent.replies.trans untold.replies

/-- Where nothing has been told there is no trace. -/
lemma traces (untold : r.Untold h) : r.Traces h where
  entries := by simp [untold.entries]
  mark set := by
    rw [untold.mark] at set
    cases set

/-- A worker that has told nothing, and has its result now, has still to report it. -/
lemma bears (untold : r.Untold h) (mark : r'.status.dnsFailure = r.status.dnsFailure)
    (entries : r'.journal.unresolved = r.journal.unresolved)
    (replies : k.unresolved = h.unresolved ++ o.unresolved?.toList) (other : o ≠ .ok .dnsFailure) :
    r'.Bears k o false where
  mark := mark.trans untold.mark
  entries := entries.trans untold.entries
  replies := by rw [replies, untold.replies, List.nil_append]
  other := other

/-- With the exit of a panic, it has been told in no place. -/
lemma told (untold : r.Untold h) : r.Told h .unexpected where
  mark := by simp [untold.mark]
  entries := by rw [untold.entries, untold.replies]; rfl
  replies := by rw [untold.replies]; rfl

end Untold

namespace Told

/-- What is silent leaves it told. -/
lemma stay (told : r.Told h e) (silent : Silent h r k r') : r'.Told k e where
  mark := by rw [silent.mark]; exact told.mark
  entries := by rw [silent.entries, silent.replies]; exact told.entries
  replies := by rw [silent.replies]; exact told.replies

/-- Where it has been told in all places or in none, each is there only with those before it. -/
lemma traces (told : r.Told h e) : r.Traces h where
  entries := by
    rw [told.entries, List.length_map, told.replies]
    simp [told.mark]
  mark set := by
    rw [← List.length_pos_iff, told.replies, if_pos (told.mark.1 set)]
    exact Nat.one_pos

end Told

/-- What is silent leaves no trace. -/
lemma Traces.stay (traces : r.Traces h) (silent : Silent h r k r') : r'.Traces k where
  entries := by rw [silent.entries, silent.mark]; exact traces.entries
  mark := by rw [silent.mark, silent.replies]; exact traces.mark

/-- What is silent leaves it reported. -/
lemma Reported.stay (reported : r.Reported h e) (silent : Silent h r k r')
    (same : k.interrupted = h.interrupted) : r'.Reported k e where
  told calm := (reported.told (same.symm.trans calm)).stay silent
  torn late := reported.torn (same.symm.trans late)
  traces := reported.traces.stay silent

namespace Bears

variable {marked : Bool}

/-- What is silent leaves a result to be reported. -/
lemma stay (bears : r.Bears h o marked) (silent : Silent h r k r') : r'.Bears k o marked where
  mark := silent.mark.trans bears.mark
  entries := silent.entries.trans bears.entries
  replies := silent.replies.trans bears.replies
  other := bears.other

/-- A mark that is set is one that the result calls for. -/
lemma traces (bears : r.Bears h o marked) (called : marked = true → o.isUnresolved = true) :
    r.Traces h where
  entries := by simp [bears.entries]
  mark set := by
    rw [bears.replies]
    exact Outcome.unresolved?_ne_none (called (bears.mark.symm.trans set))

/-- The mark, the entry and the exit that a result leads to are those of a host without an address
in all three places or in none. -/
lemma told (bears : r.Bears h o o.isUnresolved) :
    Told h ((r.log (o.verdict r.status).2).goTo (.recording (o.verdict r.status).1))
      (o.verdict r.status).1 := by
  obtain ⟨mark, entries, replies, other⟩ := bears
  -- Of all results only that of a failed connection can tell of a host without an address.
  have plain : ∀ {e : Exit} {entry : Event}, o.isUnresolved = false → o.unresolved? = none →
      e ≠ .dnsFailure → entry.isUnresolved = false →
      Told h ((r.log entry).goTo (.recording e)) e := by
    intro e entry kept silent ne plain
    rw [silent] at replies
    refine ⟨?_, ?_, ?_⟩
    · simp [mark, kept, ne]
    · rw [replies]
      exact (Journal.unresolved_concat _ plain).trans entries
    · simp [replies, ne]
  cases o with
  | ok exit =>
    refine plain rfl rfl ?_ rfl
    rintro rfl
    exact other rfl
  | error f =>
    cases f with
    | connect url cause =>
      cases failed : Resolution.isFailure cause.trail with
      | true =>
        simp only [Outcome.unresolved?, Trouble.unresolved?, failed, if_true, Option.toList_some]
          at replies
        simp only [Outcome.isUnresolved, failed] at mark
        simp only [Outcome.verdict, failed, if_true]
        refine ⟨?_, ?_, ?_⟩
        · simp [mark]
        · rw [replies]
          show Journal.unresolved (r.journal ++ [.unresolved _]) = _
          rw [Journal.unresolved_append, entries]
          rfl
        · simp [replies]
      | false =>
        simp only [Outcome.verdict, failed, Bool.false_eq_true, if_false]
        refine plain failed ?_ ?_ rfl
        · simp [Outcome.unresolved?, Trouble.unresolved?, failed]
        · intro same
          cases same
    | _ =>
      refine plain rfl rfl ?_ rfl
      intro same
      cases same

end Bears

/-! ## What a move tells -/

namespace Tells

/-- Before it has a result, a worker has told nothing of a host without an address. -/
lemma untold (tells : r.Tells h) (early : r.phase.isBound = false) :
    h.interrupted = false ∧ r.Untold h := by
  unfold Tells at tells
  split at tells
  case h_8 => exact tells
  all_goals
    next place =>
      rw [place] at early
      cases early

/-- Wherever the worker is, each of the places tells of a host without an address only with those
before it. -/
lemma traces (tells : r.Tells h) : r.Traces h := by
  unfold Tells at tells
  split at tells
  case h_1 => exact tells.2.traces fun set => by cases set
  case h_2 => exact tells.2.traces id
  case h_3 => exact tells.2.traces
  case h_4 => exact tells.2
  case h_5 | h_6 | h_7 =>
    obtain ⟨e, _, reported⟩ := tells
    exact reported.traces
  case h_8 => exact tells.2.traces

/-- What leaves the worker at its place and is silent changes nothing. -/
lemma extend (tells : r.Tells h) (place : r'.phase = r.phase)
    (exit : r'.status.exit = r.status.exit) (silent : Silent h r k r')
    (same : k.interrupted = h.interrupted) : r'.Tells k := by
  unfold Tells at tells ⊢
  rw [place, exit]
  split at tells
  case h_1 | h_2 => exact ⟨same.trans tells.1, tells.2.stay silent⟩
  case h_3 => exact ⟨same.trans tells.1, tells.2.stay silent⟩
  case h_4 =>
    exact ⟨fun calm => (tells.1 (same.symm.trans calm)).stay silent, tells.2.stay silent⟩
  case h_5 | h_6 | h_7 =>
    obtain ⟨e, recorded, reported⟩ := tells
    exact ⟨e, recorded, reported.stay silent same⟩
  case h_8 => exact ⟨same.trans tells.1, tells.2.stay silent⟩

/-- A panic leaves what has been told as it is. -/
lemma panic (tells : r.Tells h) (work : r.phase.isAtWork = true) :
    (r.stopWaiting.goTo .unwinding).Tells (h.after r .panic) := by
  have silent : Silent h r (h.after r .panic) (r.stopWaiting.goTo .unwinding) := ⟨rfl, rfl, rfl⟩
  refine ⟨fun calm => ?_, tells.traces.stay silent⟩
  obtain ⟨_, early⟩ := Bool.or_eq_false_iff.1 calm
  exact (tells.untold (isBound_of_isAtWork work early)).2.stay silent

/-- A move leads the worker to a place at which it has told what belongs there. -/
lemma goes (tells : r.Tells h) (ord : Orderly h r) (step : Goes t r m r') :
    r'.Tells (h.after r m) := by
  cases step with
  | lackRuntime place | refuse place | hear place | leaveLoop place | leavePiece place
  | leaveFailed place | finish place | breakOff place =>
    obtain ⟨calm, untold⟩ := tells.untold (by rw [place]; rfl)
    refine ⟨calm, untold.bears rfl rfl (List.append_nil _).symm ?_⟩
    intro other
    cases other
  | lackClient place | lose place =>
    obtain ⟨calm, untold⟩ := tells.untold (by rw [place]; rfl)
    refine ⟨calm, untold.bears rfl (Journal.unresolved_concat _ rfl) (List.append_nil _).symm ?_⟩
    intro other
    cases other
  | reject place =>
    obtain ⟨calm, untold⟩ := tells.untold (by rw [place]; rfl)
    refine ⟨calm, untold.bears rfl rfl (History.unresolved_concat rfl) ?_⟩
    intro other
    cases other
  | unconnected place sort | fail place sort =>
    obtain ⟨calm, untold⟩ := tells.untold (by rw [place]; rfl)
    refine ⟨calm, untold.bears rfl rfl ?_ ?_⟩
    · exact History.unresolved_concat (by simp [Reply.unresolved?, Outcome.unresolved?, sort])
    · intro other
      cases other
  | connect place =>
    obtain ⟨calm, untold⟩ := tells.untold (by rw [place]; rfl)
    exact ⟨calm, untold.stay ⟨rfl, Journal.unresolved_concat _ rfl, rfl⟩⟩
  | count place =>
    obtain ⟨calm, untold⟩ := tells.untold (by rw [place]; rfl)
    exact ⟨calm, untold.stay ⟨rfl, by simp, rfl⟩⟩
  | accept place =>
    obtain ⟨calm, untold⟩ := tells.untold (by rw [place]; rfl)
    refine ⟨calm, untold.stay ⟨rfl, Journal.unresolved_concat _ rfl, ?_⟩⟩
    exact (History.unresolved_concat rfl).trans (List.append_nil _)
  | await place | ask place | emptied place | enter place | shut place | hold place
  | silence place | cut place | snap place | pushPart place | pushRest place =>
    obtain ⟨calm, untold⟩ := tells.untold (by rw [place]; rfl)
    exact ⟨calm, untold.stay ⟨rfl, rfl, rfl⟩⟩
  | @overflow bytes place =>
    obtain ⟨_, untold⟩ := tells.untold (by rw [place]; rfl)
    have silent : Silent h r (h.after r (.receive (.chunk bytes)))
        (r.stopWaiting.goTo .unwinding) := ⟨rfl, rfl, rfl⟩
    exact ⟨fun _ => untold.stay silent, untold.traces.stay silent⟩
  | panic work => exact tells.panic work
  | mark place =>
    simp only [Tells, place] at tells
    obtain ⟨calm, unmarked, entries, replies, other⟩ := tells
    exact ⟨calm, Outcome.dnsFailure_mark unmarked _, entries, replies, other⟩
  | tell place =>
    simp only [Tells, place] at tells
    exact ⟨tells.1, tells.2.told⟩
  | @record e place =>
    have unset := ord.unset (by rw [place]; rfl)
    simp only [Tells, place] at tells
    obtain ⟨calm, told⟩ := tells
    have silent : Silent h r h { r with phase := .settling, status := r.status.recordExit e } :=
      ⟨rfl, rfl, rfl⟩
    refine ⟨e, Status.exit_recordExit_of_none unset _, fun _ => told.stay silent, ?_,
      told.traces.stay silent⟩
    intro late
    rw [History.after, calm] at late
    cases late
  | recordPanic place =>
    have unset := ord.unset (by rw [place]; rfl)
    simp only [Tells, place] at tells
    have silent : Silent h r h
        ({ r with phase := .settling, status := r.status.recordExit .unexpected }.log .panicked) :=
      ⟨rfl, Journal.unresolved_concat _ rfl, rfl⟩
    exact ⟨.unexpected, Status.exit_recordExit_of_none unset _,
      fun calm => ((tells.1 calm).stay silent).told, fun _ => rfl, tells.2.stay silent⟩
  | settle place | closeAgain place =>
    simp only [Tells, place] at tells
    obtain ⟨e, recorded, reported⟩ := tells
    exact ⟨e, recorded, reported.stay ⟨rfl, rfl, rfl⟩ rfl⟩
  | close place =>
    simp only [Tells, place] at tells
    obtain ⟨e, recorded, reported⟩ := tells
    exact ⟨e, recorded, reported.stay ⟨rfl, Journal.unresolved_concat _ rfl, rfl⟩ rfl⟩
  | resolve => exact tells.extend rfl rfl ⟨rfl, Journal.unresolved_concat _ rfl, rfl⟩ rfl
  | clear | notify | tryClose | read | leave => exact tells.extend rfl rfl ⟨rfl, rfl, rfl⟩ rfl

/-- What has been told belongs to the place of the worker, whatever moves are made. -/
lemma of_leads (leads : Leads t .fresh h r) : r.Tells h := by
  induction leads with
  | refl => exact ⟨rfl, rfl, rfl, rfl⟩
  | move leads step ih => exact ih.goes (.of_leads leads) (.of_step step)

/-- A worker that has settled has reported its exit. -/
lemma reported (tells : r.Tells h) (settled : r.phase.isSettled = true) :
    ∃ e, r.status.exit = some e ∧ r.Reported h e := by
  cases place : r.phase with
  | settling | closing | «over» =>
    simp only [Tells, place] at tells
    exact tells
  | _ =>
    rw [place] at settled
    cases settled

end Tells

/-! ## What has been told in the end -/

/-- How mark, exit, journal and answer agree at the end of a run `r` with the history `h`. -/
structure Agreement (h : History) (r : Run) : Prop where
  /-- The mark is there exactly with the exit of a host without an address. -/
  mark : r.status.dnsFailure = true ↔ r.status.exit = some .dnsFailure
  /-- That exit is there exactly if the worker got an error of connecting to such a host. -/
  reply : r.status.exit = some .dnsFailure ↔
    ∃ e : ClientError, .failed e ∈ h.replies ∧ e.isConnect = true ∧
      Resolution.isFailure e.cause.trail = true
  /-- It is there exactly if the journal has an entry about that. -/
  entry : r.status.exit = some .dnsFailure ↔ ∃ e ∈ r.journal, e.isUnresolved = true
  /-- Then there is one such entry. -/
  once : r.status.exit = some .dnsFailure → r.journal.countP Event.isUnresolved = 1

/-- How far mark, exit, journal and answer agree at the end of a run `r` with the history `h`. -/
structure Accord (h : History) (r : Run) : Prop where
  /-- They agree, unless a panic has come upon the worker while it reported its result. -/
  agree : h.interrupted = false → Agreement h r
  /-- After such a panic the exit is that of a panic. -/
  torn : h.interrupted = true → r.status.exit = some .unexpected
  /-- Even then there is no entry without the mark, -/
  entry : (∃ e ∈ r.journal, e.isUnresolved = true) → r.status.dnsFailure = true
  /-- no second entry, -/
  once : r.journal.countP Event.isUnresolved ≤ 1
  /-- and no mark unless the worker got an error of connecting to a host without an address. -/
  mark : r.status.dnsFailure = true →
    ∃ e : ClientError, .failed e ∈ h.replies ∧ e.isConnect = true ∧
      Resolution.isFailure e.cause.trail = true

/-- Where it has been told in all places or in none, these and the answer agree. -/
lemma Told.agreement (told : r.Told h e) (recorded : r.status.exit = some e) : Agreement h r := by
  have exit : r.status.exit = some .dnsFailure ↔ e = .dnsFailure := by
    rw [recorded, Option.some.injEq]
  have length : e = .dnsFailure ↔ h.unresolved ≠ [] := by
    rw [← List.length_pos_iff, told.replies]
    split <;> simp_all
  refine { mark := ?mark, reply := ?reply, entry := ?entry, once := ?once }
  case mark => rw [told.mark, exit]
  case reply => rw [exit, length, History.unresolved_ne_nil_iff]
  case entry =>
    rw [exit, length, ← Journal.unresolved_ne_nil_iff, told.entries]
    simp
  case once =>
    intro at_
    rw [List.countP_eq_length_filter]
    show r.journal.unresolved.length = 1
    rw [told.entries, List.length_map, told.replies, if_pos (exit.1 at_)]

/-- At the end of every run mark, exit, journal and answer are in accord on whether the host has an
address. -/
theorem accord_of_steps (steps : fresh.steps t ms = some r) (done : r.phase = .over) :
    Accord (fresh.history t ms) r := by
  obtain ⟨e, recorded, reported⟩ :=
    (Tells.of_leads (.of_steps steps)).reported (by rw [done]; rfl)
  have entries := reported.traces.entries
  refine { agree := ?agree, torn := ?torn, entry := ?entry, once := ?once, mark := ?mark }
  case agree => exact fun calm => (reported.told calm).agreement recorded
  case torn => exact fun late => reported.torn late ▸ recorded
  case entry =>
    intro found
    have some_ := List.length_pos_iff.2 (Journal.unresolved_ne_nil_iff.2 found)
    split at entries
    · next set => exact set
    · omega
  case once =>
    rw [List.countP_eq_length_filter]
    refine Nat.le_trans entries ?_
    split <;> omega
  case mark => exact fun set => History.unresolved_ne_nil_iff.1 (reported.traces.mark set)

/-- A task whose host has no address. -/
def toNobody : Task := { url := "http://a/", chunkSize := 1 }

/-- The error that there is no connection, since the host has no address. -/
def nobody : ClientError := ⟨true, .ofFaults (Fault.ofLookup "a" "unknown")⟩

/-- The worker learns that the host has no address, and is then told to stop. -/
def stoppedTooLate : List Move :=
  [.work, .work, .reply (.failed nobody), .clear, .notify, .work, .work, .work, .work, .work]

/-- A run that is told to stop once it has got its answer tells of the missing address everywhere. -/
theorem accord_stoppedTooLate :
    ∃ r, fresh.steps toNobody stoppedTooLate = some r ∧ r.phase = .over ∧
      r.status.exit = some .dnsFailure ∧
      (fresh.history toNobody stoppedTooLate).interrupted = false ∧
      Accord (fresh.history toNobody stoppedTooLate) r := by
  have ended : (fresh.steps toNobody stoppedTooLate).map
      (fun r => (r.phase.isOver, r.status.exit)) = some (true, some .dnsFailure) := by
    decide +kernel
  obtain ⟨r, steps, facts⟩ := Option.map_eq_some_iff.1 ended
  obtain ⟨isOver, exit⟩ := Prod.mk.inj facts
  have done := Phase.eq_over isOver
  have calm : Move.panic ∉ stoppedTooLate := by simp [stoppedTooLate]
  exact ⟨r, steps, done, exit, historyFrom_interrupted calm fresh {}, accord_of_steps steps done⟩

/-- The worker learns that the host has no address, and panics when it has set the mark. -/
def panickedAtReport : List Move :=
  [.work, .work, .reply (.failed nobody), .work, .panic, .work, .work, .work]

/-- A panic behind the mark leaves it there without the exit that belongs to it. -/
theorem not_agreement_panickedAtReport :
    ∃ r, fresh.steps toNobody panickedAtReport = some r ∧ r.phase = .over ∧
      r.status.dnsFailure = true ∧ r.status.exit = some .unexpected ∧
      ¬ Agreement (fresh.history toNobody panickedAtReport) r := by
  have ended : (fresh.steps toNobody panickedAtReport).map
      (fun r => (r.phase.isOver, r.status.dnsFailure, r.status.exit)) =
        some (true, true, some .unexpected) := by decide +kernel
  obtain ⟨r, steps, facts⟩ := Option.map_eq_some_iff.1 ended
  obtain ⟨isOver, facts⟩ := Prod.mk.inj facts
  obtain ⟨mark, exit⟩ := Prod.mk.inj facts
  refine ⟨r, steps, Phase.eq_over isOver, mark, exit, fun agreement => ?_⟩
  have called := agreement.mark.1 mark
  rw [exit] at called
  cases called

end Run

end StreamRelay
