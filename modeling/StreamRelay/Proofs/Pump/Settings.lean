import StreamRelay.Proofs.Pump.Course
import StreamRelay.Proofs.Run.Forward
import StreamRelay.Proofs.Settings.Checks

/-!
# What the settings of a pump are good for

A pump is made with the default settings or with such as have been checked, so that its chunk size
is never zero. Only with a chunk size of zero can a received chunk not be cut into pieces.

Main statement: settings are accepted exactly if everything is in its range and valid, and no run of
a pump fails to cut what it receives (`accepted_iff_safe`).
-/

namespace StreamRelay

namespace Run

/-- Whether there is no trace of a panic of the worker. -/
def IsCalm (r : Run) : Prop := r.phase ≠ .unwinding ∧ .panicked ∉ r.journal

variable {t : Task} {h : History} {r r' : Run} {m : Move}

/-- No verdict on a result is that the worker has panicked. -/
lemma verdict_ne_panicked (s : Status) (o : Outcome) : (o.verdict s).2 ≠ .panicked := by
  unfold Outcome.verdict
  split <;> first | split <;> simp | simp

/-- No write with success tells of a panic. -/
lemma not_mem_afterWrite (s : Status) (n : Nat) : .panicked ∉ (s.afterWrite n none).journal := by
  unfold Status.afterWrite
  dsimp only
  split <;> simp

/-- With a chunk size a worker panics only where a panic befalls it. -/
lemma Goes.isCalm (pos : 0 < t.chunkSize) (step : Goes t r m r') (other : m ≠ .panic)
    (calm : r.IsCalm) : r'.IsCalm := by
  obtain ⟨phase, journal⟩ := calm
  cases step with
  | overflow place zero => exact absurd zero (Nat.ne_of_gt pos)
  | recordPanic place => exact absurd place phase
  | panic => exact absurd rfl other
  | clear | notify | tryClose | read | leave => exact ⟨phase, journal⟩
  | resolve => exact ⟨phase, by simpa using journal⟩
  | lackClient | connect | lose | close | accept => exact ⟨by simp, by simpa using journal⟩
  | count =>
    refine ⟨by simp, fun mem => ?_⟩
    exact (List.mem_append.1 mem).elim journal (not_mem_afterWrite _ _)
  | tell =>
    refine ⟨by simp, fun mem => ?_⟩
    rcases List.mem_append.1 mem with before | now
    · exact journal before
    · exact verdict_ne_panicked _ _ (List.mem_singleton.1 now).symm
  | _ => exact ⟨by simp, journal⟩

/-- A worker that can cut what it receives is calm unless a panic befalls it. -/
lemma Leads.isCalm (pos : 0 < t.chunkSize) (leads : Leads t .fresh h r)
    (calm : h.panicked = false) : r.IsCalm := by
  induction leads with
  | refl => exact ⟨Phase.noConfusion, List.not_mem_nil⟩
  | @move h s s' m leads step ih =>
    have other : m ≠ .panic := by
      rintro rfl
      cases calm
    have before : h.panicked = false := by
      cases m <;> first | exact calm | exact absurd rfl other
    exact (Goes.of_step step).isCalm pos other (ih before)

end Run

/-! ## Cutting what is received -/

/-- Whether a pump can cut whatever it receives. -/
structure Pump.Cuts (p : Pump) : Prop where
  pos : 1 ≤ p.task.chunkSize
  /-- Whoever waits for the body gets every chunk in pieces, -/
  received : ∀ (r : Run) (bytes : Bytes), r.phase = .awaiting .body → ∃ r',
    r.step p.task (.receive (.chunk bytes)) = some r' ∧
      r'.phase = .forwarding (bytes.pieces p.task.chunkSize)
  /-- which are as many as the length asks for, and lack nothing. -/
  pieces : ∀ bytes : Bytes, (bytes.pieces p.task.chunkSize).flatten = bytes ∧
    (bytes.pieces p.task.chunkSize).length =
      (bytes.length + p.task.chunkSize - 1) / p.task.chunkSize
  /-- After as many forwarding has come to its end. -/
  forwarded : ∀ {σ : Type} (write : Writer σ) (bytes : Bytes) (s : Status) (w : σ),
    let f := forward write p.task.chunkSize bytes s w
    let enough := (bytes.length + p.task.chunkSize - 1) / p.task.chunkSize
    f.attempts.length ≤ enough ∧ (f.exit = none → f.attempts.length = enough)
  /-- No worker panics but where a panic befalls it. -/
  calm : ∀ as c i (r : Run), ({} : Control).steps p as = some c → c.runs[i]? = some r →
    r.phase = .unwinding ∨ .panicked ∈ r.journal → (Control.historyOf p i as).panicked = true

/-- A pump whose chunk size is not zero can cut whatever it receives. -/
lemma Pump.cuts_of_pos {p : Pump} (pos : 0 < p.task.chunkSize) : p.Cuts := by
  refine {
    pos
    received := ?received
    pieces := fun bytes => ⟨Bytes.flatten_pieces pos bytes, Bytes.length_pieces pos bytes⟩
    forwarded := ?forwarded
    calm := ?calm
  }
  case received =>
    intro r bytes place
    refine ⟨r.stopWaiting.onBody p.task (.chunk bytes), ?_, ?_⟩
    · rw [Run.step, place]
    · simp [Run.onBody, Nat.ne_of_gt pos]
  case forwarded =>
    intro σ write bytes s w
    have fwd := forwards write (bytes.pieces p.task.chunkSize) s w
    have length := Bytes.length_pieces pos bytes
    refine ⟨?_, fun none => ?_⟩
    · have tried := fwd.isPrefix.length_le
      rw [List.length_map, length] at tried
      exact tried
    · rw [← length]
      exact (fwd.exit_eq_none_iff.1 none).2
  case calm =>
    intro as c i r steps run trace
    have leads := Control.leads_of_steps steps run
    by_contra calm
    obtain ⟨phase, journal⟩ := leads.isCalm pos ((Bool.not_eq_true _).mp calm)
    exact trace.elim phase journal

/-! ## Judging settings -/

namespace Settings

open Header (Field isName isValue)

/-- What is promised of settings `s` that came to have this chunk size, these timeouts, these header
fields and this user agent, when a pump for `url` is to be made with them. -/
structure Judged (url : String) (s : Settings) (size connect read : Nat) (fields : List Field)
    (agent : Option String) : Prop where
  /-- They are accepted exactly if all of it is in its range or valid, -/
  accepted : (∃ p, Pump.withSettings url s = .ok p) ↔
    (1 ≤ size ∧ size ≤ 16 * 1024 * 1024) ∧ (1 ≤ connect ∧ connect ≤ 3600) ∧
      (1 ≤ read ∧ read ≤ 3600) ∧ (∀ f ∈ fields, isName f.name = true ∧ isValue f.value = true) ∧
      ∀ a, agent = some a → isValue a = true
  /-- and else refused for what comes first of all that is wrong with them. -/
  refused : ∀ e, Pump.withSettings url s = .error e ↔
    (faultsOf size connect read fields agent).head? = some e
  /-- Where they have passed all checks there is a header block for the pump. -/
  again : s.validate = .ok () →
    ∃ b, s.requestHeaders = .ok b ∧ Pump.withSettings url s = .ok ⟨url, s, b⟩
  /-- A pump with the default settings or with these can cut whatever it receives. -/
  safe : ∀ p, p = Pump.new url ∨ Pump.withSettings url s = .ok p → p.Cuts

/-- Settings are judged by what they are. -/
lemma judged (url : String) (s : Settings) :
    Judged url s s.chunkSize s.connectTimeout s.readTimeout s.headers s.userAgent := by
  have reports := reports_withSettings url s
  refine {
    accepted := ?accepted
    refused := fun e => reports.eq_error_iff
    again := ?again
    safe := ?safe
  }
  case accepted =>
    have clean : s.faults = [] ↔ _ := faultsOf_eq_nil_iff
    rw [headerFaults_eq_nil_iff] at clean
    refine Iff.trans ?_ clean
    constructor
    · rintro ⟨p, made⟩
      exact (reports.eq_ok_iff.1 made).1
    · intro clean
      exact ⟨_, reports.eq_ok_iff.2 ⟨clean, rfl⟩⟩
  case again =>
    intro valid
    have clean := ((reports_validate s).eq_ok_iff.1 valid).1
    exact ⟨s.block, requestHeaders_of_validate valid, reports.eq_ok_iff.2 ⟨clean, rfl⟩⟩
  case safe =>
    rintro p (rfl | made)
    · have pos : 0 < 8192 := by decide
      exact Pump.cuts_of_pos pos
    · exact Pump.cuts_of_pos (Pump.of_withSettings made).2

/-- Whatever changes are made to the default settings, a pump is made with them exactly if they are
safe. -/
theorem accepted_iff_safe (url : String) (changes : List Change) :
    Judged url (ofChanges changes) ((lastOf Change.chunkSize? changes).getD 8192)
      ((lastOf Change.connectTimeout? changes).getD 5)
      ((lastOf Change.readTimeout? changes).getD 30) (changes.filterMap Change.header?)
      (lastOf Change.userAgent? changes) := by
  have judged := judged url (ofChanges changes)
  rw [ofChanges_eq] at judged ⊢
  exact judged

/-- Of two faults that are left after all changes, the one that is looked for first is told. -/
example : Pump.withSettings "http://a/" (ofChanges [.chunkSize 0, .readTimeout 7200,
    .header ⟨"two words", "x"⟩, .connectTimeout 3600, .chunkSize 1]) =
      .error (.timeout .read 7200) := by
  decide +kernel

end Settings

end StreamRelay
