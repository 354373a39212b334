import StreamRelay.Proofs.Header.Block
import StreamRelay.Proofs.Settings.Checks

/-!
# The header fields that settings ask for

Header fields are added one after the other and a user agent is put last, so that it takes the place
of those among the fields. Names are the same when their folded forms are.

Main statement: the block that settings ask for holds what they give and nothing else, and where
there is no block the first thing that is not valid is named (`headers_as_configured`).
-/

namespace StreamRelay.Settings

open Header (Field Block isName isValue folded given)

/-- A client that names itself in requests which name no user agent. -/
structure Client (agent : String) where
  complete : Block → Block
  /-- What a request says is sent as it is. -/
  keeps : ∀ b name, b.values name ≠ [] → (complete b).values name = b.values name
  /-- A request without a user agent gets that of the client. -/
  fills : ∀ b, b.values userAgentName = [] → (complete b).values userAgentName = [agent]

/-- The client that puts its user agent in the place of none. -/
def Client.plain (agent : String) : Client agent where
  complete := fun b => if b.values userAgentName = [] then b.put userAgentName agent else b
  keeps := by
    intro b name some_
    split
    · next none =>
      refine b.values_put_of_ne agent ?_
      intro same
      rw [Block.values, same] at some_
      exact some_ none
    · rfl
  fills := by
    intro b none
    rw [if_pos none]
    exact b.values_put_self _ _

/-- The values that header fields and a user agent give to a name in its folded form. -/
def configured (fields : List Field) (agent : Option String) (name : String) : List String :=
  match agent with
  | none => given fields name
  | some a => if name = userAgentName then [a] else given fields name

/-- The header block of settings lists what they configure. -/
lemma lists_block (s : Settings) : s.block.Lists (configured s.headers s.userAgent) := by
  have added := Block.Lists.empty.addAll s.headers
  simp only [List.nil_append] at added
  unfold block configured
  cases s.userAgent with
  | none => exact added
  | some agent => exact added.put userAgentName agent

/-- What is promised of the block that header fields and a user agent ask for, where `client` sends
the request. -/
structure Configured (client : Client defaultUserAgent) (fields : List Field)
    (agent : Option String) (asked : Except Invalid Block) : Prop where
  /-- There is a block exactly if everything is valid. -/
  accepted : (∃ b, asked = .ok b) ↔
    (∀ f ∈ fields, isName f.name = true ∧ isValue f.value = true) ∧
      ∀ a, agent = some a → isValue a = true
  /-- The first field that is not valid is named as it is spelled, -/
  badField : ∀ front f back, fields = front ++ f :: back →
    (∀ g ∈ front, isName g.name = true ∧ isValue g.value = true) →
    ¬(isName f.name = true ∧ isValue f.value = true) → asked = .error (.header f.name)
  /-- and the user agent where all fields are valid. -/
  badAgent : ∀ a, agent = some a →
    (∀ f ∈ fields, isName f.name = true ∧ isValue f.value = true) →
    isValue a = false → asked = .error (.header "user-agent")
  /-- Any other name than that of the user agent has the values given under any spelling. -/
  others : ∀ b name, asked = .ok b → folded name ≠ "user-agent" →
    b.values name = (fields.filter (folded ·.name = folded name)).map (·.value)
  /-- A user agent takes the place of those given as fields, -/
  agentSet : ∀ b a, asked = .ok b → agent = some a → b.values "user-agent" = [a]
  /-- which are kept where there is none. -/
  agentUnset : ∀ b, asked = .ok b → agent = none →
    b.values "user-agent" = (fields.filter (folded ·.name = "user-agent")).map (·.value)
  /-- Where neither is given the block has no user agent, so that the client names itself, -/
  neither : ∀ b, asked = .ok b → agent = none → (∀ f ∈ fields, folded f.name ≠ "user-agent") →
    "user-agent" ∉ b.names ∧ (client.complete b).values "user-agent" = [defaultUserAgent]
  /-- and else it does not. -/
  sent : ∀ b, asked = .ok b → "user-agent" ∈ b.names →
    (client.complete b).values "user-agent" = b.values "user-agent"
  /-- No other names occur than those given, and each occurs once. -/
  names : ∀ b, asked = .ok b → b.names.Nodup ∧ ∀ name, name ∈ b.names ↔
    (∃ f ∈ fields, folded f.name = name) ∨ name = "user-agent" ∧ agent ≠ none

variable {s : Settings} {b : Block}

/-- A field is valid exactly if its name and its value are. -/
lemma isValid_iff {f : Field} :
    f.isValid = true ↔ isName f.name = true ∧ isValue f.value = true :=
  Bool.and_eq_true_iff

/-- A header block that was made lists what is configured. -/
lemma lists_of_asked (asked : s.requestHeaders = .ok b) :
    b.Lists (configured s.headers s.userAgent) := by
  obtain ⟨_, rfl⟩ := (reports_requestHeaders s).eq_ok_iff.1 asked
  exact lists_block s

/-- A header block that was made has the values that are configured for a name. -/
lemma values_of_asked (asked : s.requestHeaders = .ok b) (name : String) :
    b.values name = configured s.headers s.userAgent (folded name) :=
  (lists_of_asked asked).values (folded name)

/-- Where all fields are good, no bad one is found. -/
lemma filter_not_isValid {fields : List Field}
    (good : ∀ f ∈ fields, isName f.name = true ∧ isValue f.value = true) :
    fields.filter (!·.isValid) = [] := by
  rw [List.filter_eq_nil_iff]
  intro f mem
  simp [isValid_iff.2 (good f mem)]

/-- The first fault is that of the first bad field. -/
lemma head?_headerFaults_of_field {front back : List Field} {f : Field} {agent : Option String}
    (good : ∀ g ∈ front, isName g.name = true ∧ isValue g.value = true)
    (bad : ¬(isName f.name = true ∧ isValue f.value = true)) :
    (headerFaults (front ++ f :: back) agent).head? = some (.header f.name) := by
  have here : (!f.isValid) = true := by
    rw [Bool.not_eq_true', ← Bool.not_eq_true]
    exact fun valid => bad (isValid_iff.1 valid)
  rw [headerFaults, List.filter_append, filter_not_isValid good, List.nil_append, List.filter_cons,
    if_pos here]
  rfl

/-- The first fault is that of the user agent where all fields are good. -/
lemma head?_headerFaults_of_agent {fields : List Field} {agent : String}
    (good : ∀ g ∈ fields, isName g.name = true ∧ isValue g.value = true)
    (bad : isValue agent = false) :
    (headerFaults fields (some agent)).head? = some (.header userAgentName) := by
  simp [headerFaults, filter_not_isValid good, bad]

/-- Values are configured for a name exactly if a field or the user agent has it. -/
lemma configured_ne_nil_iff {fields : List Field} {agent : Option String} {name : String} :
    configured fields agent name ≠ [] ↔
      (∃ f ∈ fields, folded f.name = name) ∨ name = userAgentName ∧ agent ≠ none := by
  unfold configured
  cases agent with
  | none => simp [Header.given_ne_nil_iff]
  | some a =>
    by_cases here : name = userAgentName <;> simp [here, Header.given_ne_nil_iff]

/-- Header blocks are made as they are configured. -/
lemma requestHeaders_configured (client : Client defaultUserAgent) (s : Settings) :
    Configured client s.headers s.userAgent s.requestHeaders := by
  have reports := reports_requestHeaders s
  refine {
    accepted := ?accepted
    badField := ?badField
    badAgent := ?badAgent
    others := ?others
    agentSet := ?agentSet
    agentUnset := ?agentUnset
    neither := ?neither
    sent := ?sent
    names := ?names
  }
  case accepted =>
    rw [← headerFaults_eq_nil_iff]
    constructor
    · rintro ⟨b, asked⟩
      exact (reports.eq_ok_iff.1 asked).1
    · intro none
      exact ⟨s.block, reports.eq_ok_iff.2 ⟨none, rfl⟩⟩
  case badField =>
    intro front f back whole good bad
    rw [reports.eq_error_iff, whole]
    exact head?_headerFaults_of_field good bad
  case badAgent =>
    intro a set good bad
    rw [reports.eq_error_iff, set]
    exact head?_headerFaults_of_agent good bad
  case others =>
    intro b name asked other
    rw [values_of_asked asked]
    unfold configured
    cases s.userAgent with
    | none => rfl
    | some a => exact if_neg other
  case agentSet =>
    intro b a asked set
    rw [values_of_asked asked, set]
    rfl
  case agentUnset =>
    intro b asked unset
    rw [values_of_asked asked, unset]
    rfl
  case neither =>
    intro b asked unset absent
    have none : configured s.headers s.userAgent userAgentName = [] := by
      rw [← not_ne_iff, configured_ne_nil_iff]
      rintro (⟨f, mem, same⟩ | ⟨_, set⟩)
      · exact absent f mem same
      · exact set unset
    refine ⟨?_, client.fills b ?_⟩
    · rw [(lists_of_asked asked).mem_names_iff]
      exact fun some_ => some_ none
    · rw [values_of_asked asked]
      exact none
  case sent =>
    intro b asked mem
    refine client.keeps b _ ?_
    rw [values_of_asked asked]
    exact (lists_of_asked asked).mem_names_iff.1 mem
  case names =>
    intro b asked
    have lists := lists_of_asked asked
    refine ⟨lists.once, ?_⟩
    intro name
    rw [lists.mem_names_iff]
    exact configured_ne_nil_iff

/-- The block that settings ask for is what was configured, in whatever order that was done. -/
theorem headers_as_configured (client : Client defaultUserAgent) (changes : List Change) :
    Configured client (changes.filterMap Change.header?) (lastOf Change.userAgent? changes)
      (ofChanges changes).requestHeaders := by
  have configured := requestHeaders_configured client (ofChanges changes)
  have headers : (ofChanges changes).headers = changes.filterMap Change.header? := by
    rw [ofChanges_eq]
  have agent : (ofChanges changes).userAgent = lastOf Change.userAgent? changes := by
    rw [ofChanges_eq]
  rwa [headers, agent] at configured

/-- Two names in several spellings, and a user agent that is changed in between. -/
def respelled : List Change :=
  [.header ⟨"Accept", "a"⟩, .userAgent "first", .header ⟨"User-Agent", "given"⟩, .chunkSize 0,
    .header ⟨"ACCEPT", "b"⟩, .userAgent "last", .header ⟨"accept", "a"⟩]

/-- The values of a name stand in their order under one spelling, and the last user agent stands
alone. -/
theorem headers_as_configured_respelled :
    (ofChanges respelled).requestHeaders =
      .ok [("accept", ["a", "b", "a"]), ("user-agent", ["last"])] ∧
    Configured (.plain defaultUserAgent) (respelled.filterMap Change.header?)
      (lastOf Change.userAgent? respelled) (ofChanges respelled).requestHeaders :=
  ⟨by decide +kernel, headers_as_configured _ respelled⟩

end StreamRelay.Settings
