import StreamRelay.Network
import StreamRelay.Proofs.Run.Completion
import StreamRelay.Proofs.Run.Mark
import StreamRelay.Proofs.Url.Graphic

/-!
# Refused connections

What a run makes of a connection that fails, and of one that is refused by a host named by its
address, for which no name is looked up. The trail of a refusal holds the text of the URL, and that
text is searched for phrases of failed look-ups with the rest of the trail. All phrases but one have
a blank in them, which the text of such a URL cannot have.

Main statements: a run that gets no connection ends with the exit that its trail calls for
(`Fails.of_leads`), and after a refusal that is the exit of a failed connection except where the
text of the URL has the remaining phrase in it (`refused`).
-/

namespace StreamRelay

open Text

namespace Resolution

/-- The phrase that is one word. -/
def word : List Char := "dns_error".toList

/-- Without a blank in it, a text has no phrase in it but the one that is one word. -/
lemma any_occursIn_of_not_mem {lower : List Char} (blank : ' ' ∉ lower) :
    phrases.any (fun p => occursIn p.toList lower) = occursIn word lower := by
  have others : ∀ p ∈ phrases, p.toList = word ∨ ' ' ∈ p.toList := by decide +kernel
  rw [Bool.eq_iff_iff, List.any_eq_true]
  constructor
  · rintro ⟨p, mem, found⟩
    rcases others p mem with same | blanks
    · rw [← same]
      exact found
    · rw [occursIn_of_not_mem blanks blank] at found
      cases found
  · intro found
    exact ⟨"dns_error", by decide, found⟩

/-- A text with brackets has a phrase in it exactly if there is one between them, where there is
none around them. -/
lemma any_occursIn_brackets {front back : List Char} (mid : List Char)
    (front_free : ∀ p ∈ phrases, occursIn p.toList front = false)
    (back_free : ∀ p ∈ phrases, occursIn p.toList back = false) :
    phrases.any (fun p => occursIn p.toList (front ++ '(' :: (mid ++ ')' :: back))) =
      phrases.any (fun p => occursIn p.toList mid) := by
  -- No phrase has a bracket in it, so that none is found across one.
  have brackets : ∀ p ∈ phrases, '(' ∉ p.toList ∧ ')' ∉ p.toList := by decide +kernel
  rw [Bool.eq_iff_iff, List.any_eq_true, List.any_eq_true]
  apply exists_congr
  intro p
  apply and_congr_right
  intro mem
  rw [occursIn_append_cons (brackets p mem).1, occursIn_append_cons (brackets p mem).2,
    front_free p mem, back_free p mem, Bool.false_or, Bool.or_false]

/-- A rendered chain starts with the text of its first fault. -/
lemma toList_rendered_cons (f : Fault) (fs : List Fault) :
    (rendered (f :: fs)).toList =
      f.text.toList ++ separator.toList.intercalate ([] :: fs.map (·.text.toList)) := by
  rw [rendered, String.toList_ofList, List.map_cons]
  cases fs with
  | nil => rw [List.map_nil, List.intercalate_singleton, List.intercalate_singleton, List.append_nil]
  | cons g gs =>
    rw [List.map_cons, List.intercalate_cons_cons, List.intercalate_cons_cons, List.nil_append,
      List.append_assoc]

end Resolution

/-- The lower-case form of a text without a blank is one without a blank. -/
lemma Text.Graphic.not_mem_lowercase {cs : List Char} (graphic : Graphic cs) :
    ' ' ∉ lowercase cs := by
  -- Visible characters are of ASCII, where the lower-case forms are visible as well.
  have visible : ∀ n < 0x7F, 0x20 < n → (Char.ofNat n).toLower ≠ ' ' := by decide
  intro mem
  obtain ⟨c, mem, blank⟩ := List.mem_flatMap.1 mem
  have bounds := graphic c mem
  simp only [isGraphic, Bool.and_eq_true, decide_eq_true_eq] at bounds
  rw [lowercaseChar_of_ascii (by omega), List.mem_singleton] at blank
  have other := visible c.toNat bounds.2 bounds.1
  rw [Char.ofNat_toNat] at other
  exact other blank.symm

/-- Whether the text of a URL has the phrase in it that is one word. -/
def Url.hasWord (u : Url) : Bool := occursIn Resolution.word (lowercase u.chars)

namespace Script

/-! ## The trail of a refusal -/

/-- What a request says that could not be sent. -/
def unsent (url : Url) : Fault := .plain s!"error sending request for url ({url.text})"

/-- What it is caused by when the connection is refused. -/
def refusalCauses : List Fault :=
  [.plain "client error (Connect)", .plain "tcp connect error",
    .ofSystem SystemError.connectionRefused]

/-- The chain of causes of a request whose connection is refused. -/
def refusal (url : Url) : Trouble :=
  unconnectedBecause url [.plain "tcp connect error", .ofSystem SystemError.connectionRefused]

/-- The trail of a refusal says that the request could not be sent, and why. -/
lemma trail_refusal (url : Url) : (refusal url).trail = unsent url :: refusalCauses := rfl

/-- The text of a refusal before the brackets with the URL. -/
def beforeUrl : List Char := "error sending request for url ".toList

/-- The text of a refusal behind the brackets. -/
def behindUrl : List Char :=
  Resolution.separator.toList.intercalate ([] :: refusalCauses.map (·.text.toList))

/-- A request that could not be sent tells its URL in brackets. -/
lemma toList_text_unsent (url : Url) :
    (unsent url).text.toList = beforeUrl ++ '(' :: (url.chars ++ [')']) := by
  have text : (unsent url).text = "error sending request for url (" ++ url.text ++ ")" := rfl
  have opening : "error sending request for url (".toList = beforeUrl ++ ['('] := by
    decide +kernel
  rw [text, String.toList_append, String.toList_append, opening, Url.text, String.toList_ofList,
    List.append_assoc, List.append_assoc, List.singleton_append]
  rfl

/-- The text of a refusal has the URL in brackets, and is the same around them for every URL. -/
lemma toList_rendered_refusal (url : Url) :
    (Resolution.rendered (refusal url).trail).toList =
      beforeUrl ++ '(' :: (url.chars ++ ')' :: behindUrl) := by
  rw [trail_refusal, Resolution.toList_rendered_cons, toList_text_unsent, ← behindUrl,
    List.append_assoc, List.cons_append, List.append_assoc, List.singleton_append]

/-- A request to an address that refuses the connection is answered by a refusal. -/
lemma reply_ofTask {net : Network} {text : String} {u : Url} {a : Address}
    (parsed : Url.parse? text = some u) (sendable : u.isRequestable = true)
    (host : u.host = some (.address a))
    (refuses : net.connect [a] u.targetPort = .error (.ofSystem SystemError.connectionRefused)) :
    (ofTask net text).reply = some (.failed ⟨true, refusal u.requested⟩) := by
  simp only [ofTask, parsed, Option.map_some, Option.getD_some, ofUrl, sendable, Bool.not_true,
    Bool.false_eq_true, if_false, host, refuses, ofConnect, unconnected, refusal]

/-- After an error of the client nothing more is to be heard. -/
lemma IsComplete.of_failed {s : Script} {e : ClientError} (replies : s.reply = some (.failed e)) :
    s.IsComplete := by
  refine ⟨?_, ?_⟩
  · rw [replies]
    rfl
  · intro granted
    rw [replies] at granted
    cases granted

/-- A refusal is taken for a failed look-up exactly if the text of the URL has the word in it. -/
theorem isFailure_refusal {url : Url} (graphic : Graphic url.chars) :
    Resolution.isFailure (refusal url).trail = url.hasWord := by
  have plain : (refusal url).trail.any Fault.isUnresolved = false := by
    rw [trail_refusal]
    rfl
  have front : ∀ p ∈ Resolution.phrases, occursIn p.toList (lowercase beforeUrl) = false := by
    decide +kernel
  have back : ∀ p ∈ Resolution.phrases, occursIn p.toList (lowercase behindUrl) = false := by
    decide +kernel
  have opening : lowercaseChar '(' = ['('] := rfl
  have closing : lowercaseChar ')' = [')'] := rfl
  rw [Resolution.isFailure, plain, Bool.false_or, Resolution.mentionsFailure_eq,
    toList_rendered_refusal]
  simp only [lowercase_append, lowercase_cons, opening, closing, List.singleton_append]
  rw [Resolution.any_occursIn_brackets _ front back,
    Resolution.any_occursIn_of_not_mem graphic.not_mem_lowercase]
  rfl

end Script

/-! ## Runs without a connection -/

/-- The exit of a run that gets no connection for a cause. -/
def Exit.ofUnconnected (cause : Trouble) : Exit :=
  if Resolution.isFailure cause.trail then .dnsFailure else .connectionFailed

namespace Run

/-- Where the worker of a run may be that gets no connection for `cause`, and what it has told then.
-/
def Fails (t : Task) (cause : Trouble) (r : Run) : Prop :=
  match r.phase with
  | .preparing | .asking .reply | .awaiting .reply => r.status.dnsFailure = false
  | .concluding o => o = .error (.connect t.url cause) ∧ r.status.dnsFailure = false
  | .telling o =>
    o = .error (.connect t.url cause) ∧ r.status.dnsFailure = Resolution.isFailure cause.trail
  | .recording e =>
    e = .ofUnconnected cause ∧ r.status.dnsFailure = Resolution.isFailure cause.trail
  | .settling | .closing | .over =>
    r.status.exit = some (.ofUnconnected cause) ∧
      r.status.dnsFailure = Resolution.isFailure cause.trail
  | _ => False

variable {t : Task} {h : History} {r r' : Run} {m : Move} {cause : Trouble}

/-- The exit that an error of connecting leads to is that of a run without a connection. -/
lemma verdict_connect (s : Status) (url : String) (cause : Trouble) :
    (Outcome.verdict s (.error (.connect url cause))).1 = .ofUnconnected cause := by
  simp only [Outcome.verdict, Exit.ofUnconnected]
  split <;> rfl

namespace Fails

/-- The mark is set only for a cause that calls for it. -/
lemma mark (fails : r.Fails t cause) (set : r.status.dnsFailure = true) :
    Resolution.isFailure cause.trail = true := by
  unfold Fails at fails
  split at fails
  case h_1 | h_2 | h_3 =>
    rw [set] at fails
    cases fails
  case h_4 =>
    rw [set] at fails
    cases fails.2
  case h_5 | h_6 | h_7 | h_8 | h_9 => rw [← fails.2, set]
  case h_10 => exact fails.elim

/-- Nothing leads the worker elsewhere as long as nobody tells it to stop and it hears of nothing but
the failed connection. -/
lemma goes (fails : r.Fails t cause) (ord : Orderly h r) (step : Goes t r m r')
    (valid : (Url.parse? t.url).isSome = true) (told : h.told = false) (calm : m ≠ .panic)
    (setUp : ∀ f, m ≠ .giveUp f) (heard : ∀ a, m = .reply a → a = .failed ⟨true, cause⟩) :
    r'.Fails t cause := by
  cases step with
  | lackRuntime | lackClient => exact absurd rfl (setUp _)
  | refuse place bad =>
    rw [bad] at valid
    cases valid
  | hear place ready =>
    -- The signal is there only for a run that was told to stop.
    rw [Signal.look_fst] at ready
    rcases ord.told (ord.off_of_isArmed ready) with told' | last
    · rw [told] at told'
      cases told'
    · rw [place] at last
      cases last
  | connect place =>
    simp only [Fails, place] at fails
    exact fails
  | @await w place | @silence w place =>
    simp only [Fails, place] at fails
    cases w with
    | reply => exact fails
    | body => exact fails.elim
  | accept place | reject place => cases heard _ rfl
  | fail place connected =>
    cases heard _ rfl
    cases connected
  | unconnected place =>
    cases heard _ rfl
    simp only [Fails, place] at fails
    exact ⟨rfl, fails⟩
  | mark place =>
    simp only [Fails, place] at fails
    obtain ⟨rfl, unset⟩ := fails
    exact ⟨rfl, Outcome.dnsFailure_mark unset _⟩
  | tell place =>
    simp only [Fails, place] at fails
    obtain ⟨rfl, marked⟩ := fails
    exact ⟨verdict_connect _ _ _, marked⟩
  | record place =>
    have unset := ord.unset (by rw [place]; rfl)
    simp only [Fails, place] at fails
    obtain ⟨rfl, mark⟩ := fails
    exact ⟨Status.exit_recordExit_of_none unset _, mark⟩
  | settle place | close place | closeAgain place =>
    simp only [Fails, place] at fails
    exact fails
  | panic => exact absurd rfl calm
  | resolve | clear | notify | tryClose | read | leave => exact fails
  | leaveLoop place | ask place | emptied place | leavePiece place | enter place | shut place
  | hold place | count place | lose place | leaveFailed place | recordPanic place | finish place
  | breakOff place | overflow place | cut place | snap place | pushPart place | pushRest place =>
    simp only [Fails, place] at fails

/-- As long as nobody tells a run to stop and it hears of nothing but the failed connection, it is on
the way to the exit that this calls for. -/
theorem of_leads (leads : Leads t .fresh h r) (valid : (Url.parse? t.url).isSome = true)
    (told : h.told = false) (calm : h.panicked = false) (ready : h.unready = false)
    (heard : ∀ a ∈ h.replies, a = .failed ⟨true, cause⟩) : r.Fails t cause := by
  induction leads with
  | refl => rfl
  | @move h s s' m leads step ih =>
    have before : h.told = false ∧ h.panicked = false ∧ h.unready = false ∧
        ∀ a ∈ h.replies, a = .failed ⟨true, cause⟩ := by
      cases m with
      | clear => cases told
      | panic => cases calm
      | giveUp f => cases ready
      | reply a => exact ⟨told, calm, ready, fun b mem => heard b (List.mem_append_left _ mem)⟩
      | _ => exact ⟨told, calm, ready, heard⟩
    obtain ⟨told', calm', ready', heard'⟩ := before
    refine (ih told' calm' ready' heard').goes (.of_leads leads) (.of_step step) valid told' ?_ ?_ ?_
    · rintro rfl
      cases calm
    · rintro f rfl
      cases ready
    · rintro a rfl
      exact heard a (List.mem_append_right _ (List.mem_singleton_self _))

end Fails

/-- Whether `r` comes about by the moves `ms` with nothing heard but what the script `s` says, nobody
has told it to stop, and its worker could be set up and has not panicked. -/
structure Unstopped (t : Task) (s : Script) (ms : List Move) (r : Run) : Prop where
  steps : fresh.steps t ms = some r
  untold : .clear ∉ ms
  calm : .panic ∉ ms
  ready : (fresh.history t ms).unready = false
  heard : ∃ rest, s.Leaves (fresh.history t ms) rest

variable {s rest : Script} {ms : List Move} {net : Network} {u : Url} {a : Address}

/-- How a run fares whose connection is refused, when the request was sent to the URL `url`. -/
structure Refused (t : Task) (s : Script) (url : Url) : Prop where
  /-- At its end it tells of a failed look-up exactly if the text of the URL has the word in it. -/
  exit : ∀ ms r, Unstopped t s ms r → r.phase = .over →
    r.status.exit = some (if url.hasWord then .dnsFailure else .connectionFailed) ∧
      r.status.dnsFailure = url.hasWord
  /-- Without the word, the mark is never set. -/
  mark : ∀ ms r, Unstopped t s ms r → url.hasWord = false → r.status.dnsFailure = false
  /-- Wherever it has got to, it comes to its end when it is driven on. -/
  ends : ∀ ms r rest, Unstopped t s ms r → s.Leaves (fresh.history t ms) rest →
    ∃ ns, Unstopped t s (ms ++ ns) (r.finish t rest).1 ∧ (r.finish t rest).1.phase = .over

/-- A run that makes moves of its own is stopped by nobody. -/
lemma Unstopped.append {ns : List Move} (un : Unstopped t s ms r)
    (steps : fresh.steps t (ms ++ ns) = some r') (own : ∀ m ∈ ns, m.isOwn = true)
    (leaves : s.Leaves (fresh.history t (ms ++ ns)) rest) : Unstopped t s (ms ++ ns) r' := by
  have absent : ∀ d, d.disturbs = true → d ∉ ms → d ∉ ms ++ ns := by
    intro d disturbs before mem
    rcases List.mem_append.1 mem with mem | mem
    · exact before mem
    · exact not_mem_of_calm (fun m mem => Move.disturbs_of_isOwn (own m mem)) disturbs mem
  refine ⟨steps, absent .clear rfl un.untold, absent .panic rfl un.calm, ?_, rest, leaves⟩
  rw [history, historyFrom_append un.steps, historyFrom_unready own]
  exact un.ready

/-- A run that hears of nothing but a failed connection fails for that. -/
lemma Unstopped.fails (un : Unstopped t s ms r) (valid : (Url.parse? t.url).isSome = true)
    (replies : s.reply = some (.failed ⟨true, cause⟩)) : r.Fails t cause := by
  obtain ⟨rest, leaves⟩ := un.heard
  refine .of_leads (.of_steps un.steps) valid (historyFrom_told un.untold fresh {})
    (historyFrom_panicked un.calm fresh {}) un.ready ?_
  intro a mem
  have all := leaves.reply
  rw [replies] at all
  have mem' : a ∈ (some (Reply.failed ⟨true, cause⟩)).toList := by
    rw [all]
    exact List.mem_append_left _ mem
  exact List.mem_singleton.1 mem'

/-- Such a run can be driven to its end. -/
lemma Unstopped.exists_over (un : Unstopped t s ms r) (leaves : s.Leaves (fresh.history t ms) rest)
    (complete : s.IsComplete) :
    ∃ ns, Unstopped t s (ms ++ ns) (r.finish t rest).1 ∧ (r.finish t rest).1.phase = .over := by
  obtain ⟨ns, steps, own, leaves', place⟩ := exists_finish_over un.steps leaves complete
  exact ⟨ns, un.append steps own leaves', place⟩

/-- A run that has not begun has been stopped by nobody. -/
lemma Unstopped.fresh (t : Task) (s : Script) : Unstopped t s [] .fresh := by
  refine ⟨rfl, ?_, ?_, rfl, s, .refl s⟩
  · intro mem
    cases mem
  · intro mem
    cases mem

/-- At its end such a run tells of the failed connection. -/
lemma Unstopped.told_over (un : Unstopped t s ms r) (valid : (Url.parse? t.url).isSome = true)
    (replies : s.reply = some (.failed ⟨true, cause⟩)) (done : r.phase = .over) :
    r.status.exit = some (.ofUnconnected cause) ∧
      r.status.dnsFailure = Resolution.isFailure cause.trail := by
  have fails := un.fails valid replies
  simp only [Fails, done] at fails
  exact fails

/-- A run whose connection to a host named by its address is refused ends with the exit of a failed
connection, unless the text of the URL has the word in it. -/
theorem refused (parsed : Url.parse? t.url = some u) (sendable : u.isRequestable = true)
    (host : u.host = some (.address a))
    (refuses : net.connect [a] u.targetPort = .error (.ofSystem SystemError.connectionRefused)) :
    Refused t (Script.ofTask net t.url) u.requested := by
  have valid : (Url.parse? t.url).isSome = true := by rw [parsed]; rfl
  have replies := Script.reply_ofTask parsed sendable host refuses
  have failed := Script.isFailure_refusal (Url.graphic_chars_requested parsed sendable host)
  refine { exit := ?exit, mark := ?mark, ends := ?ends }
  case exit =>
    intro ms r un done
    have told := un.told_over valid replies done
    rw [Exit.ofUnconnected, failed] at told
    exact told
  case mark =>
    intro ms r un without
    cases marked : r.status.dnsFailure with
    | false => rfl
    | true =>
      rw [← failed, (un.fails valid replies).mark marked] at without
      cases without
  case ends =>
    intro ms r rest un leaves
    exact un.exists_over leaves (.of_failed replies)

/-- A network on which every connection is refused. -/
def refusing : Network where
  lookup := fun _ => .error Resolution.noServer
  connect := fun _ _ => .error (.ofSystem SystemError.connectionRefused)

/-- A task whose URL has the word in its credentials. -/
def withWordInUser : Task := { url := "http://dns_error@127.0.0.1:9/", chunkSize := 1 }

/-- A task whose URL has the word in its path. -/
def withWordInPath : Task := { url := "http://127.0.0.1:9/dns_error", chunkSize := 1 }

/-- Credentials have no influence on what comes of a refused connection. -/
theorem refused_withWordInUser :
    ∃ u, Url.parse? withWordInUser.url = some u ∧ u.isRequestable = true ∧
      u.host = some (.address (.v4 ⟨0x7F000001⟩)) ∧ u.requested.hasWord = false ∧
      Refused withWordInUser (Script.ofTask refusing withWordInUser.url) u.requested := by
  have facts : (Url.parse? withWordInUser.url).map
      (fun u => (u.isRequestable, u.host, u.requested.hasWord)) =
        some (true, some (.address (.v4 ⟨0x7F000001⟩)), false) := by decide +kernel
  obtain ⟨u, parsed, facts⟩ := Option.map_eq_some_iff.1 facts
  obtain ⟨sendable, facts⟩ := Prod.mk.inj facts
  obtain ⟨host, word⟩ := Prod.mk.inj facts
  exact ⟨u, parsed, sendable, host, word, refused parsed sendable host rfl⟩

/-- With the word in its path, a URL makes a refused connection a failed look-up. -/
theorem not_connectionFailed_withWordInPath :
    ∃ u, Url.parse? withWordInPath.url = some u ∧ u.isRequestable = true ∧
      u.scheme = "http".toList ∧ u.host = some (.address (.v4 ⟨0x7F000001⟩)) ∧
      ¬ ∀ ms r, Unstopped withWordInPath (Script.ofTask refusing withWordInPath.url) ms r →
        r.phase = .over →
          r.status.exit = some .connectionFailed ∧ r.status.dnsFailure = false := by
  have facts : (Url.parse? withWordInPath.url).map
      (fun u => (u.isRequestable, u.scheme, u.host, u.requested.hasWord)) =
        some (true, "http".toList, some (.address (.v4 ⟨0x7F000001⟩)), true) := by decide +kernel
  obtain ⟨u, parsed, facts⟩ := Option.map_eq_some_iff.1 facts
  obtain ⟨sendable, facts⟩ := Prod.mk.inj facts
  obtain ⟨scheme, facts⟩ := Prod.mk.inj facts
  obtain ⟨host, word⟩ := Prod.mk.inj facts
  refine ⟨u, parsed, sendable, scheme, host, ?_⟩
  intro claimed
  have valid : (Url.parse? withWordInPath.url).isSome = true := by rw [parsed]; rfl
  have replies : (Script.ofTask refusing withWordInPath.url).reply = _ :=
    Script.reply_ofTask parsed sendable host rfl
  obtain ⟨ns, un, done⟩ := (Unstopped.fresh _ _).exists_over (.refl _) (.of_failed replies)
  have marked := (un.told_over valid replies done).2
  rw [Script.isFailure_refusal (Url.graphic_chars_requested parsed sendable host), word,
    (claimed _ _ un done).2] at marked
  cases marked

end Run

end StreamRelay
