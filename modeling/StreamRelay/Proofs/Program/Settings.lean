import StreamRelay.Proofs.Program.Choice
import StreamRelay.Proofs.Settings.Headers

/-!
# The settings that a command line asks for

The command line checks numbers when it reads them: timeouts are in their range then, and a chunk
size is any number. Header fields are cut at their colon and trimmed, and whether they are valid is
found out only when a pump is to be made. What is found out then leaves everything as it was.

Main statement: the settings are what the command line gives, what can still be wrong with them is
the chunk size, a header field or the user agent, and then nothing is done (`settings_as_given`).
-/

namespace StreamRelay

open CommandLine
open Header (Field isName isValue)

/-- Header fields that are set one after the other come behind those that were there. -/
lemma Settings.foldl_apply_header (s : Settings) (fields : List Field) :
    (fields.map Change.header).foldl apply s = { s with headers := s.headers ++ fields } := by
  induction fields generalizing s with
  | nil => simp
  | cons f fields ih =>
    rw [List.map_cons, List.foldl_cons, ih, apply, List.append_assoc]
    rfl

/-- The settings of a command line are what it says, and the defaults otherwise. -/
lemma Arguments.settings_eq (a : Arguments) :
    a.settings = {
      userAgent := a.userAgent, headers := a.headers, chunkSize := a.chunkSize,
      connectTimeout := a.connectTimeout, readTimeout := a.readTimeout } := by
  rw [settings, Settings.ofChanges, changes, List.foldl_append, List.foldl_append,
    Settings.foldl_apply_header]
  cases a.userAgent <;> rfl

/-! ## What can be wrong with them -/

/-- Seconds that can be read are within the range of a timeout. -/
lemma seconds?_range {value : String} {n : Nat} (read : seconds? value = some n) :
    1 ≤ n ∧ n ≤ 3600 := by
  obtain ⟨_, range⟩ := Option.filter_eq_some_iff.1 read
  simpa using range

/-- A number of seconds is in its range whether it was given or not. -/
lemma CommandLine.Sets.range {fallback n : Nat} {values : List String}
    (sets : Sets seconds? fallback values n) (usual : 1 ≤ fallback ∧ fallback ≤ 3600) :
    1 ≤ n ∧ n ≤ 3600 := by
  rcases sets with ⟨_, rfl⟩ | ⟨_, _, read⟩
  · exact usual
  · exact seconds?_range read

namespace Settings

/-- Whether `name` is that of the first of these header fields that is not valid, or where all are
valid that of the user agent, which is not. -/
def FirstBad (fields : List Field) (agent : Option String) (name : String) : Prop :=
  (∃ front f back, fields = front ++ f :: back ∧
    (∀ g ∈ front, isName g.name = true ∧ isValue g.value = true) ∧
    ¬(isName f.name = true ∧ isValue f.value = true) ∧ name = f.name) ∨
  (∀ f ∈ fields, isName f.name = true ∧ isValue f.value = true) ∧
    (∃ a, agent = some a ∧ isValue a = false) ∧ name = "user-agent"

/-- Whether no timeout is out of its range. -/
structure IsTimely (s : Settings) : Prop where
  connect : 1 ≤ s.connectTimeout ∧ s.connectTimeout ≤ 3600
  read : 1 ≤ s.readTimeout ∧ s.readTimeout ≤ 3600

variable {s : Settings} {fields : List Field} {agent : Option String} {name : String} {e : Invalid}

/-- A field is bad exactly if its name or its value is not valid. -/
lemma not_isValid_iff {f : Field} :
    (!f.isValid) = true ↔ ¬(isName f.name = true ∧ isValue f.value = true) := by
  rw [← isValid_iff, Bool.not_eq_true', Bool.not_eq_true]

/-- A field that is not a bad one has a valid name and a valid value. -/
lemma valid_of_kept {f : Field} (kept : ¬(!f.isValid) = true) :
    isName f.name = true ∧ isValue f.value = true :=
  not_not.1 (mt not_isValid_iff.2 kept)

/-- The first fault of the header is told by the name of the first bad field. -/
lemma head?_headerFaults_iff :
    (headerFaults fields agent).head? = some (.header name) ↔ FirstBad fields agent name := by
  constructor
  · intro head
    cases bad : fields.filter (!·.isValid) with
    | nil =>
      have good : ∀ f ∈ fields, isName f.name = true ∧ isValue f.value = true :=
        fun f mem => valid_of_kept (List.filter_eq_nil_iff.1 bad f mem)
      rw [headerFaults, bad] at head
      cases agent with
      | none => cases head
      | some a =>
        cases value : isValue a with
        | true => simp [value] at head
        | false =>
          have named : userAgentName = name := by simpa [value] using head
          exact .inr ⟨good, ⟨a, rfl, value⟩, named.symm⟩
    | cons f rest =>
      obtain ⟨front, back, whole, good, wrong, _⟩ := List.filter_eq_cons_iff.1 bad
      rw [headerFaults, bad] at head
      cases head
      exact .inl ⟨front, f, back, whole, fun g mem => valid_of_kept (good g mem),
        not_isValid_iff.1 wrong, rfl⟩
  · rintro (⟨front, f, back, rfl, good, bad, rfl⟩ | ⟨good, ⟨a, rfl, bad⟩, rfl⟩)
    · exact head?_headerFaults_of_field good bad
    · exact head?_headerFaults_of_agent good bad

/-- Every fault of the header is told by a name. -/
lemma exists_header_of_mem (mem : e ∈ headerFaults fields agent) : ∃ name, e = .header name := by
  rcases List.mem_append.1 mem with mem | mem
  · obtain ⟨f, _, rfl⟩ := List.mem_map.1 mem
    exact ⟨f.name, rfl⟩
  · obtain ⟨_, _, rfl⟩ := List.mem_map.1 mem
    exact ⟨userAgentName, rfl⟩

/-- There is a first bad one exactly if there is one at all. -/
lemma exists_firstBad_iff : (∃ name, FirstBad fields agent name) ↔
    (∃ f ∈ fields, ¬(isName f.name = true ∧ isValue f.value = true)) ∨
      ∃ a, agent = some a ∧ isValue a = false := by
  constructor
  · rintro ⟨name, ⟨front, f, back, rfl, _, bad, _⟩ | ⟨_, bad, _⟩⟩
    · exact .inl ⟨f, by simp, bad⟩
    · exact .inr bad
  · intro bad
    have some_ : headerFaults fields agent ≠ [] := by
      rw [ne_eq, headerFaults_eq_nil_iff]
      rintro ⟨good, goodAgent⟩
      rcases bad with ⟨f, mem, wrong⟩ | ⟨a, set, wrong⟩
      · exact wrong (good f mem)
      · rw [goodAgent a set] at wrong
        cases wrong
    obtain ⟨e, rest, whole⟩ := List.exists_cons_of_ne_nil some_
    have head : (headerFaults fields agent).head? = some e := by rw [whole]; rfl
    obtain ⟨name, rfl⟩ := exists_header_of_mem (List.mem_of_head? head)
    exact ⟨name, head?_headerFaults_iff.1 head⟩

namespace IsTimely

variable (timely : s.IsTimely)
include timely

/-- Settings with good timeouts are refused for their chunk size, or else for what comes first of
what is wrong with the header. -/
lemma faults_eq : s.faults =
    outside 1 maxChunkSize s.chunkSize (.chunkSize s.chunkSize) ++
      headerFaults s.headers s.userAgent := by
  have connect : outside minTimeout maxTimeout s.connectTimeout
      (.timeout .connect s.connectTimeout) = [] := outside_eq_nil_iff.2 timely.connect
  have read : outside minTimeout maxTimeout s.readTimeout (.timeout .read s.readTimeout) = [] :=
    outside_eq_nil_iff.2 timely.read
  rw [faults, faultsOf, connect, read]
  rfl

/-- Of settings with a bad chunk size, this is the fault that is told. -/
lemma validate_of_bad_size (bad : ¬(1 ≤ s.chunkSize ∧ s.chunkSize ≤ maxChunkSize)) :
    s.validate = .error e ↔ e = .chunkSize s.chunkSize := by
  rw [(reports_validate s).eq_error_iff, timely.faults_eq, outside, if_neg bad]
  simp [eq_comm]

/-- Of settings with a good chunk size, only the header can be at fault. -/
lemma validate_of_good_size (good : 1 ≤ s.chunkSize ∧ s.chunkSize ≤ maxChunkSize) :
    s.validate = .error e ↔ (headerFaults s.headers s.userAgent).head? = some e := by
  rw [(reports_validate s).eq_error_iff, timely.faults_eq, outside, if_pos good, List.nil_append]

/-- No timeout of the command line is at fault. -/
lemma ne_timeout (which : Timeout) (n : Nat) : s.validate ≠ .error (.timeout which n) := by
  intro refused
  by_cases good : 1 ≤ s.chunkSize ∧ s.chunkSize ≤ maxChunkSize
  · rw [timely.validate_of_good_size good] at refused
    obtain ⟨name, same⟩ := exists_header_of_mem (List.mem_of_head? refused)
    cases same
  · rw [timely.validate_of_bad_size good] at refused
    cases refused

/-- The chunk size is at fault exactly if it is zero or too great. -/
lemma chunkSize_iff (n : Nat) : s.validate = .error (.chunkSize n) ↔
    s.chunkSize = n ∧ (n = 0 ∨ 16 * 1024 * 1024 < n) := by
  by_cases good : 1 ≤ s.chunkSize ∧ s.chunkSize ≤ maxChunkSize
  · rw [timely.validate_of_good_size good]
    constructor
    · intro head
      obtain ⟨name, same⟩ := exists_header_of_mem (List.mem_of_head? head)
      cases same
    · rintro ⟨rfl, out⟩
      rw [maxChunkSize] at good
      omega
  · rw [timely.validate_of_bad_size good, Invalid.chunkSize.injEq]
    rw [maxChunkSize] at good
    omega

/-- A header field is at fault exactly if the chunk size is good and the field is the first bad one.
-/
lemma header_iff (name : String) : s.validate = .error (.header name) ↔
    (1 ≤ s.chunkSize ∧ s.chunkSize ≤ 16 * 1024 * 1024) ∧
      FirstBad s.headers s.userAgent name := by
  by_cases good : 1 ≤ s.chunkSize ∧ s.chunkSize ≤ maxChunkSize
  · rw [timely.validate_of_good_size good, head?_headerFaults_iff]
    exact (and_iff_right good).symm
  · rw [timely.validate_of_bad_size good]
    exact ⟨fun same => (by cases same), fun both => absurd both.1 good⟩

/-- A header field is at fault exactly if the chunk size is good and a name or a value is not valid.
-/
lemma exists_header_iff : (∃ name, s.validate = .error (.header name)) ↔
    (1 ≤ s.chunkSize ∧ s.chunkSize ≤ 16 * 1024 * 1024) ∧
      ((∃ f ∈ s.headers, ¬(isName f.name = true ∧ isValue f.value = true)) ∨
        ∃ a, s.userAgent = some a ∧ isValue a = false) := by
  rw [← exists_firstBad_iff, ← exists_and_left]
  exact exists_congr timely.header_iff

end IsTimely

end Settings

/-- Settings that are not valid stop a relay before it has opened its output and before there is a
pump that could send a request. -/
lemma Relay.begin_of_invalid {a : Arguments} {e : Settings.Invalid}
    (invalid : a.settings.validate = .error e) (url : String) (w : Surroundings) :
    begin a url w = .error (.failed w.files (.settings e) []) := by
  have refused : Pump.withSettings url a.settings = .error e := by
    rw [(Settings.reports_withSettings url a.settings).eq_error_iff,
      ← (Settings.reports_validate a.settings).eq_error_iff]
    exact invalid
  simp only [begin, refused]

/-! ## The settings of a command line -/

/-- Whether settings are what some things on a command line give, each value once at most but for
the header fields, and the usual ones where nothing is given. -/
structure Settings.Given (items : List Item) (s : Settings) : Prop where
  headers : (valuesOf .header items).map Field.parse = s.headers.map .ok
  userAgent : valuesOf .userAgent items = s.userAgent.toList
  chunkSize : Sets word? 8192 (valuesOf .chunkSize items) s.chunkSize
  connectTimeout : Sets seconds? 5 (valuesOf .connectTimeout items) s.connectTimeout
  readTimeout : Sets seconds? 30 (valuesOf .readTimeout items) s.readTimeout

/-- What is promised of settings that a command line asks for. -/
structure Settings.Vetted (s : Settings) : Prop where
  timely : ∀ which n, s.validate ≠ .error (.timeout which n)
  chunkSize : ∀ n, s.validate = .error (.chunkSize n) ↔
    s.chunkSize = n ∧ (n = 0 ∨ 16 * 1024 * 1024 < n)
  /-- With a good chunk size they are refused exactly if a header field or the user agent is not
  valid, -/
  header : (∃ name, s.validate = .error (.header name)) ↔
    (1 ≤ s.chunkSize ∧ s.chunkSize ≤ 16 * 1024 * 1024) ∧
      ((∃ f ∈ s.headers, ¬(isName f.name = true ∧ isValue f.value = true)) ∨
        ∃ a, s.userAgent = some a ∧ isValue a = false)
  /-- and the first of them is named. -/
  first : ∀ name, s.validate = .error (.header name) ↔
    (1 ≤ s.chunkSize ∧ s.chunkSize ≤ 16 * 1024 * 1024) ∧ FirstBad s.headers s.userAgent name

/-- Whether arguments whose settings are refused change nothing: no pump is started, whatever there
is on the network, and the files are as they were. -/
def Arguments.Harmless (args : List String) (a : Arguments) : Prop :=
  ∀ e, a.settings.validate = .error e → ∀ url w,
    Relay.begin a url w = .error (.failed w.files (.settings e) []) ∧
    Relay.run a url w = some (.failed w.files (.settings e) []) ∧
    (a.url = some url → program args w = some (.failed w.files (.settings e) []))

variable {args : List String} {a : Arguments} {items : List Item}

/-- The arguments that a command line asks for give the settings that it says. -/
lemma given_settings (asks : Asks items a) : a.settings.Given items := by
  rw [a.settings_eq]
  exact {
    headers := asks.has .header
    userAgent := asks.has .userAgent
    chunkSize := asks.has .chunkSize
    connectTimeout := asks.has .connectTimeout
    readTimeout := asks.has .readTimeout }

/-- The timeouts of a command line are within their ranges. -/
lemma Settings.Given.isTimely {s : Settings} (given : s.Given items) : s.IsTimely where
  connect := given.connectTimeout.range (by decide)
  read := given.readTimeout.range (by decide)

/-- The settings are those that a command line gives, what is wrong with them is told, and then
nothing is done. -/
theorem settings_as_given (accepted : parse args = .ok a) :
    ∃ items, (∀ others, Gives args others ↔ others = items) ∧ a.settings.Given items ∧
      a.settings.Vetted ∧ a.Harmless args := by
  obtain ⟨items, gives, asks, _⟩ := exists_gives_of_parse accepted
  have given := given_settings asks
  have timely := given.isTimely
  refine ⟨items, fun others => gives.iff, given, ?vetted, ?harmless⟩
  case vetted =>
    exact {
      timely := timely.ne_timeout
      chunkSize := timely.chunkSize_iff
      header := timely.exists_header_iff
      first := timely.header_iff }
  case harmless =>
    intro e invalid url w
    have stops := Relay.begin_of_invalid invalid url w
    have ends : Relay.run a url w = some (.failed w.files (.settings e) []) := by
      simp only [Relay.run, stops]
    refine ⟨stops, ends, fun asked => ?_⟩
    rw [program_of_url accepted asked, ends]

/-- A command line with two things that are not valid, behind a header field that is. -/
def spoilt : List String :=
  ["--user-agent", "two\nlines", "-HX-A:\tb ", "--read-timeout=+3600", "http://a/",
    "--header", " two words : c", "-oout"]

/-- The header field is named although the user agent stands before it, and the output stays as it
was. -/
theorem settings_as_given_spoilt :
    let a : Arguments := {
      url := some "http://a/", output := some "out", userAgent := some "two\nlines",
      headers := [⟨"X-A", "b"⟩, ⟨"two words", "c"⟩], readTimeout := 3600 }
    parse spoilt = .ok a ∧ a.settings.validate = .error (.header "two words") ∧
      ∃ items, (∀ others, Gives spoilt others ↔ others = items) ∧ a.settings.Given items ∧
        a.settings.Vetted ∧ a.Harmless spoilt := by
  intro a
  have accepted : parse spoilt = .ok a := by decide +kernel
  exact ⟨accepted, by decide +kernel, settings_as_given accepted⟩

end StreamRelay
