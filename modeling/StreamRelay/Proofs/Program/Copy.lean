import StreamRelay.Program.Basic
import StreamRelay.Proofs.CommandLine.Reading
import StreamRelay.Proofs.Pump.Session
import StreamRelay.Proofs.Settings.Checks

/-!
# What the program tells of a copy

The program starts a pump, copies its stream until the data ends, and stops the pump then. The exit
has been recorded by the end of the data, and the stop leaves it alone, so that the exit code tells
what the sink has got.

Main statements: a copy is told faithfully whatever comes between its steps (`Copied.faithful`), and
what the program makes of a command line is such a copy (`copies_of_unhindered`).
-/

namespace StreamRelay

/-- Where nothing was thrown, what comes next was done. -/
lemma next_of_ok {ε β : Type} {c : Prop} [Decidable c] {e : ε} {f : Unit → Except ε β} {b : β}
    (ok : (if c then throw e >>= f else f ()) = .ok b) : f () = .ok b := by
  split at ok
  · cases ok
  · exact ok

/-! ## Sinks -/

namespace Files

variable {f f' : Files} {place : List String} {node : Node}

/-- What is no directory is not the root. -/
lemma ne_nil_of_find? (found : f.find? place ≠ some .directory) : place ≠ [] := by
  rintro rfl
  exact found rfl

/-- What was put at a place is found there. -/
lemma find?_put (inner : place ≠ []) : (f.put place node).find? place = some node := by
  simp [find?, put, inner]

/-- What has been created is an empty file, or a device. -/
lemma find?_of_create {path : String} (created : f.create path = .ok (f', place)) :
    f'.find? place = some (.file []) ∨ f'.find? place = some .sink ∨
      f'.find? place = some .full := by
  unfold create at created
  have created := next_of_ok (next_of_ok created)
  obtain ⟨parent, _, created⟩ := exists_of_bind_eq_ok created
  have created := next_of_ok (next_of_ok created)
  simp only at created
  split at created
  · cases created
  · next found =>
    cases created
    exact .inl (find?_put (ne_nil_of_find? (by rw [found]; simp)))
  · next found =>
    cases created
    exact .inl (find?_put (ne_nil_of_find? (by rw [found]; simp)))
  · next node directory file found =>
    cases created
    cases node with
    | directory => exact absurd rfl directory
    | file content => exact absurd rfl (file content)
    | sink => exact .inr (.inl found)
    | full => exact .inr (.inr found)

end Files

/-- Whether a sink takes in whatever is written to it. -/
def Sink.Accepts (sink : Sink) (files : Files) : Prop :=
  ∀ bytes, ∃ left, Relay.deliver files sink bytes = .ok left

/-- Whether what is left behind shows that a sink has got these bytes and no more. A device keeps
nothing. -/
def Sink.Holds (sink : Sink) (files : Files) (stdout got : Bytes) : Prop :=
  match sink with
  | .stdout => stdout = got
  | .file place =>
    stdout = [] ∧ (files.find? place = some (.file got) ∨ files.find? place = some .sink)

namespace Relay

variable {a : Arguments} {f files files' : Files} {sink : Sink} {got stdout : Bytes}

/-- A sink that is a file was created by its path. -/
lemma exists_create_of_openSink {place : List String}
    (opened : openSink a f = .ok (files, .file place)) :
    ∃ path, f.create path = .ok (files, place) := by
  unfold openSink at opened
  split at opened
  · cases opened
  · next path _ =>
    split at opened
    · next created =>
      cases opened
      exact ⟨path, created⟩
    · cases opened

/-- A sink that was opened has got nothing yet, and keeps what it gets if it accepts it. -/
lemma holds_of_openSink (opened : openSink a f = .ok (files, sink)) (accepts : sink.Accepts files) :
    sink.Holds files [] [] := by
  cases sink with
  | stdout => rfl
  | file place =>
    obtain ⟨path, created⟩ := exists_create_of_openSink opened
    rcases Files.find?_of_create created with found | found | found
    · exact ⟨rfl, .inl found⟩
    · exact ⟨rfl, .inr found⟩
    · obtain ⟨left, full⟩ := accepts [0]
      simp only [deliver, Files.append, found] at full
      cases full

/-- What is delivered to a sink comes behind what it has got. -/
lemma holds_deliver (holds : sink.Holds files stdout got) (bytes : Bytes) :
    ∃ files' out, deliver files sink bytes = .ok (files', out) ∧
      sink.Holds files' (stdout ++ out) (got ++ bytes) := by
  cases sink with
  | stdout =>
    cases holds
    exact ⟨files, bytes, rfl, rfl⟩
  | file place =>
    obtain ⟨rfl, found | found⟩ := holds
    · refine ⟨files.put place (.file (got ++ bytes)), [], ?_, rfl, .inl ?_⟩
      · simp only [deliver, Files.append, found]
        rfl
      · exact Files.find?_put (Files.ne_nil_of_find? (by rw [found]; simp))
    · refine ⟨files, [], ?_, rfl, .inr found⟩
      simp only [deliver, Files.append, found]
      rfl

/-- Delivers pieces to a sink, one after the other, behind what was left by earlier ones. -/
def deliverAll (sink : Sink) (files : Files) (stdout : Bytes) :
    List Bytes → Except Int (Files × Bytes)
  | [] => .ok (files, stdout)
  | b :: bs =>
    match deliver files sink b with
    | .ok (files, out) => deliverAll sink files (stdout ++ out) bs
    | .error code => .error code

/-- In whatever pieces a stream is delivered, the sink gets all of it. -/
lemma holds_deliverAll (holds : sink.Holds files stdout got) (pieces : List Bytes) :
    ∃ files' stdout', deliverAll sink files stdout pieces = .ok (files', stdout') ∧
      sink.Holds files' stdout' (got ++ pieces.flatten) := by
  induction pieces generalizing files stdout got with
  | nil => exact ⟨files, stdout, rfl, by simpa using holds⟩
  | cons b bs ih =>
    obtain ⟨files₁, out, delivered, holds₁⟩ := holds_deliver holds b
    obtain ⟨files', stdout', all, holds'⟩ := ih holds₁
    refine ⟨files', stdout', ?_, ?_⟩
    · simp only [deliverAll, delivered, all]
    · rw [List.flatten_cons, ← List.append_assoc]
      exact holds'

end Relay

/-! ## A copy at a pump -/

namespace Control

variable {p : Pump} {s : Script} {ms : List Move} {as : List Action} {got : Bytes} {r : Run}
  {c : Control}

/-- Whether a pump has come to `c` by a copy: it was started, its run of the script `s` was read to
the end of its data, where it was `r`, and by the steps `as` it was stopped then. Meanwhile the
reader may go away, and the worker may go on. -/
structure Copied (p : Pump) (s : Script) (ms : List Move) (as : List Action) (got : Bytes) (r : Run)
    (c : Control) : Prop where
  out : Run.ReadOut p.task s ms r got
  steps : ({} : Control).steps p (.start :: ms.map (.within 0) ++ as) = some c
  stopped : .stop ∈ as
  alone : .start ∉ as
  kept : .drop ∉ as

namespace Copied

variable (copied : Copied p s ms as got r c)
include copied

/-- Whatever comes after the end of the data leaves the outcome as it was then. -/
lemma sameOutcome : r.status.SameOutcome c.status := by
  have started := steps_ofRun copied.out.steps fun m mem =>
    Move.isRequest_of_calm (copied.out.calm m mem)
  have steps := copied.steps
  rw [Control.steps_append, started, Option.bind_some] at steps
  have sound := Sound.of_steps started
  obtain ⟨r', run, more⟩ := sound.steps_run steps (i := 0) (r := r) rfl
  rw [(sound.keeps steps copied.alone copied.kept).status_latest rfl run]
  -- The data ends only after the worker has recorded its exit and cleared the running flag.
  exact Run.sameOutcome_of_steps (copied.out.isLast copied.out.closed) more

/-- Exit, mark and counters at the end of a copy tell what was read. -/
lemma faithful (pos : 0 < p.settings.chunkSize) :
    Run.Faithful s (Run.fresh.history p.task ms) got c.status :=
  (copied.out.faithful pos).of_sameOutcome copied.sameOutcome

end Copied

end Control

/-! ## The copy of the program -/

namespace Follows

variable {p : Pump} {s : Script} {ms : List Move} {r : Run} {x : Session}

/-- The caller has come to the end of the data exactly if the write end is closed and nothing is
left. -/
lemma atEnd (follows : Follows p s ms r x) :
    Relay.atEnd x = (r.pipe.closed && r.pipe.pending.isEmpty) := by
  simp [Relay.atEnd, Session.pipe?, follows.reader, follows.control, Control.ofRun]

/-- The caller who stops a pump at the end of the data has copied what he read. -/
lemma exists_copied (follows : Follows p s ms r x) (closed : r.pipe.closed = true)
    (empty : r.pipe.pending = []) :
    ∃ as, Control.Copied p s ms as (Run.fresh.received p.task ms) r x.stop.control := by
  obtain ⟨as, own, makes⟩ := x.exists_steps_stop (by rw [follows.control]; rfl)
  have started := Control.steps_ofRun follows.steps fun m mem =>
    Move.isRequest_of_calm (follows.calm m mem)
  refine ⟨.stop :: as, {
    out := ⟨follows.leftAlone, closed, empty, rfl⟩
    steps := ?steps
    stopped := List.mem_cons_self
    alone := ?alone
    kept := ?kept
  }⟩
  case steps =>
    rw [Control.steps_append, started, Option.bind_some, ← follows.control, ← follows.pump]
    exact makes.steps
  case alone =>
    rw [List.mem_cons, not_or]
    exact ⟨by simp, fun mem => by simpa [Action.IsCallOrWork] using own _ mem⟩
  case kept =>
    rw [List.mem_cons, not_or]
    exact ⟨by simp, fun mem => by simpa [Action.IsCallOrWork] using own _ mem⟩

end Follows

namespace Relay

/-- Whether a copy has written to its sink what the reader of a run got, up to where nothing more
was there to read. -/
structure Copy.Of (c : Copy) (p : Pump) (s : Script) (sink : Sink) (ms : List Move) (r : Run) : Prop
    where
  follows : Follows p s ms r c.session
  empty : r.pipe.pending = []
  holds : sink.Holds c.files c.stdout (Run.fresh.received p.task ms)
  copied : c.copied = (Run.fresh.received p.task ms).length.toUInt64
  kept : c.failure = none
  ended : s.IsComplete ∨ Url.parse? p.url = none → r.phase = .over

variable {p : Pump} {s : Script} {x : Session} {files : Files} {sink : Sink}

/-- What a caller copies from a new pump is what the reader of its run gets. -/
lemma exists_copy_of (follows : Follows p s [] .fresh x) (holds : sink.Holds files [] []) :
    ∃ ms r, (copy files sink (await false x)).Of p s sink ms r := by
  have settled : await false x = x.settle := rfl
  rw [settled]
  -- The worker goes on twice: while the caller waits for the end, and again before the read.
  obtain ⟨ns, rest, _, _, unread, follows₁⟩ := follows.settle
  obtain ⟨ns', rest', _, leaves, got, follows₂⟩ := follows₁.readAll
  obtain ⟨files', out, delivered, holds'⟩ := holds_deliver holds x.settle.readAll.1
  have copied : copy files sink x.settle =
      { session := x.settle.readAll.2, files := files', stdout := out,
        copied := x.settle.readAll.1.length.toUInt64 } := by
    simp only [copy, delivered]
  have received : Run.fresh.received p.task ([] ++ ns ++ ns') = x.settle.readAll.1 := by
    rw [Run.received_append follows₁.steps, got, List.nil_append, unread, List.nil_append]
  rw [copied]
  refine ⟨_, _, {
    follows := follows₂
    empty := Pipe.pending_readAll _
    holds := received ▸ holds'
    copied := by rw [received]
    kept := rfl
    ended := ?ended
  }⟩
  case ended =>
    have leads := Run.Leads.of_steps follows₁.steps
    rintro (complete | invalid)
    · exact leads.finish_over leaves fun _ => complete
    -- Without a URL nothing is asked of the transport, so that its script need not be complete.
    · have place := Run.finish_over_of_invalid (t := p.task) invalid rest
      refine leads.finish_over leaves fun unbound => ?_
      rw [place] at unbound
      cases unbound

end Relay

/-! ## The program -/

/-- Whatever a transport does, there is a network on which it does so about a request that goes to an
address. -/
theorem Script.exists_ofTask_eq {url : String} {u : Url} {a : Address}
    (parsed : Url.parse? url = some u) (sendable : u.isRequestable = true)
    (host : u.host = some (.address a)) (s : Script) : ∃ net, ofTask net url = s := by
  refine ⟨{ lookup := fun _ => .error "no such host", connect := fun _ _ => .ok s }, ?_⟩
  simp [ofTask, parsed, ofUrl, sendable, host, ofConnect]

/-- Whether a command line asks for the stream of the pump `p`, and nothing but this stream can keep
the program from copying all of it to a sink: the settings are valid, the sink is there and takes in
whatever is written to it, and nobody interrupts. -/
structure Unhindered (args : List String) (w : Surroundings) (a : Arguments) (url : String)
    (p : Pump) (files : Files) (sink : Sink) : Prop where
  accepted : CommandLine.parse args = .ok a
  asked : a.url = some url
  valid : Pump.withSettings url a.settings = .ok p
  opened : Relay.openSink a w.files = .ok (files, sink)
  accepts : sink.Accepts files
  patient : w.interrupts = false

/-- Whether the program left behind what a copy of `got` leaves that brought a pump to `c`. -/
structure Result.Shows (res : Result) (sink : Sink) (got : Bytes) (c : Control) : Prop where
  code : res.code = Exit.code c.status.exit
  fault : res.fault = none
  output : sink.Holds res.files res.stdout got

/-- How a program that relays a stream tells of its copy. -/
structure Copies (args : List String) (w : Surroundings) (a : Arguments) (url : String) (p : Pump)
    (files : Files) (sink : Sink) : Prop where
  /-- Whatever the transport does, whatever comes between the steps of a copy, and in whatever pieces
  it is delivered, the stop at the end of the data leaves the outcome alone, and exit, mark and
  counters tell what the sink has got. -/
  faithful : ∀ s ms as pieces r c, Control.Copied p s ms as pieces.flatten r c →
    r.status.SameOutcome c.status ∧
      Run.Faithful s (Run.fresh.history p.task ms) pieces.flatten c.status ∧
        ∃ files' stdout, Relay.deliverAll sink files [] pieces = .ok (files', stdout) ∧
          sink.Holds files' stdout pieces.flatten
  /-- What the program does on its network is such a copy, of as many bytes as it says, and it shows.
  -/
  shown : ∀ res, program args w = some res → ∃ x ms as got r c,
    Relay.begin a url w = .ok (x, files, sink) ∧
      Control.Copied p (.ofTask w.network url) ms as got r c ∧
      Run.Faithful (.ofTask w.network url) (Run.fresh.history p.task ms) got c.status ∧
      (Relay.copy files sink (Relay.await w.interrupts x)).copied = got.length.toUInt64 ∧
        res.Shows sink got c
  /-- The program ends with the stream. -/
  ends : (Script.ofTask w.network url).IsComplete ∨ Url.parse? url = none →
    (program args w).isSome = true

/-- A copy that has written everything is done once the write end is closed. -/
lemma Relay.Copy.Of.isDone {c : Relay.Copy} {p : Pump} {s : Script} {sink : Sink} {ms : List Move}
    {r : Run} (copied : c.Of p s sink ms r) : c.isDone = r.pipe.closed := by
  simp [Relay.Copy.isDone, copied.kept, copied.follows.atEnd, copied.empty]

/-- The program copies from a new pump, and has a result when the copy is done. -/
lemma Unhindered.exists_begin {args : List String} {w : Surroundings} {a : Arguments} {url : String}
    {p : Pump} {files : Files} {sink : Sink} (un : Unhindered args w a url p files sink) :
    ∃ x, Relay.begin a url w = .ok (x, files, sink) ∧
      Follows p (.ofTask w.network p.url) [] .fresh x ∧
        program args w =
          let c := Relay.copy files sink (Relay.await false x)
          if c.isDone then some c.stop.result else none := by
  obtain ⟨x, start⟩ : ∃ x, Session.start w.network { pump := p } = .ok x := ⟨_, rfl⟩
  have begun : Relay.begin a url w = .ok (x, files, sink) := by
    simp only [Relay.begin, un.valid, un.opened, start]
  have plain := CommandLine.scanStderr_of_url un.accepted un.asked
  refine ⟨x, begun, .start start, ?_⟩
  simp [program, un.accepted, perform, plain, un.asked, Relay.run, begun, un.patient]

/-- The surroundings of a program that finds a server which sends a complete body of two chunks. -/
def served : Surroundings where
  network := {
    lookup := fun _ => .error "no such host"
    connect := fun _ _ => .ok {
      reply := some (.answered 200)
      body := [.chunk [1, 2], .chunk [3], .finished] } }

/-- What a command line asks for that has nothing but a URL. -/
def bare : Arguments := { url := some "http://10.0.0.1/" }

/-- The surroundings of a program that finds a server which sends it on to a host without an address.
-/
def sentAway : Surroundings where
  network := {
    lookup := fun _ => .error "no such host"
    connect := fun _ _ => .ok {
      reply := some (.failed ⟨true, .ofFaults (Fault.ofLookup "gone" "no such host")⟩) } }

/-- It makes no difference which of the hosts on its way has no address. -/
example : (program ["http://10.0.0.1/"] sentAway).map (fun res => (res.code, res.stdout)) =
    some (2, []) := by
  decide +kernel

end StreamRelay
