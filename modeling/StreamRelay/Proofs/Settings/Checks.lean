import Mathlib.Data.List.Induction
import StreamRelay.Pump.Basic

/-!
# What settings are checked for

Settings are the default ones with changes made one after the other, of which the last of a kind
counts. A check goes through the faults that there can be in an order of its own and tells the first
that it finds.

Main statements: the last change of a kind makes the setting (`ofChanges_eq`), and a pump is refused
for the first of the faults of its settings and made where there is none (`reports_withSettings`).
-/

namespace StreamRelay

/-! ## Checks -/

/-- Whether a check that goes through these faults tells the first of them, and comes to `a` where
there is none. -/
def Reports {ε α : Type} (check : Except ε α) (faults : List ε) (a : α) : Prop :=
  match faults with
  | [] => check = .ok a
  | e :: _ => check = .error e

namespace Reports

variable {ε α β : Type} {check : Except ε α} {faults more : List ε} {a a' : α} {b : β} {e : ε}
  {next : α → Except ε β}

/-- One check after the other goes through the faults of both. -/
lemma bind (first : Reports check faults a) (second : Reports (next a) more b) :
    Reports (check >>= next) (faults ++ more) b := by
  cases faults with
  | nil =>
    cases (first : check = .ok a)
    exact second
  | cons e faults =>
    cases (first : check = .error e)
    rfl

/-- A check passes exactly if there are no faults. -/
lemma eq_ok_iff (reports : Reports check faults a) : check = .ok a' ↔ faults = [] ∧ a = a' := by
  cases faults with
  | nil =>
    cases (reports : check = .ok a)
    simp
  | cons e faults =>
    cases (reports : check = .error e)
    simp

/-- A check tells the first of the faults. -/
lemma eq_error_iff (reports : Reports check faults a) :
    check = .error e ↔ faults.head? = some e := by
  cases faults with
  | nil =>
    cases (reports : check = .ok a)
    simp
  | cons e faults =>
    cases (reports : check = .error e)
    simp

end Reports

namespace Settings

open Header (Field Block isName isValue)

/-- What is wrong with a number that is out of its range. -/
def outside (least greatest n : Nat) (fault : Invalid) : List Invalid :=
  if least ≤ n ∧ n ≤ greatest then [] else [fault]

/-- What is wrong with header fields and a user agent. -/
def headerFaults (fields : List Field) (agent : Option String) : List Invalid :=
  (fields.filter (!·.isValid)).map (.header ·.name) ++
    (agent.toList.filter (!isValue ·)).map (fun _ => .header userAgentName)

/-- What is wrong with a chunk size, two timeouts, header fields and a user agent, in the order in
which it is looked for. -/
def faultsOf (size connect read : Nat) (fields : List Field) (agent : Option String) :
    List Invalid :=
  outside 1 maxChunkSize size (.chunkSize size) ++
    (outside minTimeout maxTimeout connect (.timeout .connect connect) ++
      (outside minTimeout maxTimeout read (.timeout .read read) ++ headerFaults fields agent))

def faults (s : Settings) : List Invalid :=
  faultsOf s.chunkSize s.connectTimeout s.readTimeout s.headers s.userAgent

/-- The block that settings ask for if all of it is valid. -/
def block (s : Settings) : Block :=
  let b := s.headers.foldl Block.add []
  s.userAgent.elim b (b.put userAgentName)

variable {s : Settings}

/-- A number is at fault exactly if it is out of its range. -/
lemma outside_eq_nil_iff {least greatest n : Nat} {fault : Invalid} :
    outside least greatest n fault = [] ↔ least ≤ n ∧ n ≤ greatest := by
  simp [outside]

/-- A header is without faults exactly if every name and value in it is valid. -/
lemma headerFaults_eq_nil_iff {fields : List Field} {agent : Option String} :
    headerFaults fields agent = [] ↔
      (∀ f ∈ fields, isName f.name = true ∧ isValue f.value = true) ∧
      ∀ a, agent = some a → isValue a = true := by
  simp [headerFaults, Field.isValid]

/-- Settings are without faults exactly if everything is in its range and valid. -/
lemma faultsOf_eq_nil_iff {size connect read : Nat} {fields : List Field} {agent : Option String} :
    faultsOf size connect read fields agent = [] ↔
      (1 ≤ size ∧ size ≤ maxChunkSize) ∧ (minTimeout ≤ connect ∧ connect ≤ maxTimeout) ∧
      (minTimeout ≤ read ∧ read ≤ maxTimeout) ∧ headerFaults fields agent = [] := by
  simp only [faultsOf, List.append_eq_nil_iff, outside_eq_nil_iff]

/-- Fields that are added to a block are checked one after the other. -/
lemma reports_addFields (b : Block) (fields : List Field) :
    Reports (addFields b fields) ((fields.filter (!·.isValid)).map (.header ·.name))
      (fields.foldl Block.add b) := by
  induction fields generalizing b with
  | nil => rfl
  | cons f fields ih =>
    cases valid : f.isValid with
    | true =>
      rw [addFields, if_pos valid, List.filter_cons_of_neg (by simp [valid])]
      exact ih (b.add f)
    | false =>
      rw [addFields, if_neg (by simp [valid]), List.filter_cons_of_pos (by simp [valid])]
      rfl

/-- A header block is made once every field and the user agent have been checked. -/
lemma reports_requestHeaders (s : Settings) :
    Reports s.requestHeaders (headerFaults s.headers s.userAgent) s.block := by
  refine (reports_addFields [] s.headers).bind ?_
  rw [block]
  cases s.userAgent with
  | none => rfl
  | some agent =>
    cases valid : isValue agent <;> simp [valid, Reports] <;> rfl

/-- The chunk size is checked against its range. -/
lemma reports_checkChunkSize (size : Nat) :
    Reports (checkChunkSize size) (outside 1 maxChunkSize size (.chunkSize size)) () := by
  rw [checkChunkSize, outside]
  split <;> rfl

/-- A timeout is checked against its range. -/
lemma reports_checkTimeout (which : Timeout) (seconds : Nat) :
    Reports (checkTimeout which seconds)
      (outside minTimeout maxTimeout seconds (.timeout which seconds)) () := by
  rw [checkTimeout, outside]
  split <;> rfl

/-- Settings are checked for all their faults, one after the other. -/
lemma reports_validate (s : Settings) : Reports s.validate s.faults () := by
  refine (reports_checkChunkSize _).bind ?_
  refine (reports_checkTimeout _ _).bind ?_
  refine (reports_checkTimeout _ _).bind ?_
  have last : Reports (pure () : Except Invalid Unit) [] () := rfl
  have headers : Reports (s.requestHeaders >>= fun _ => pure ())
      (headerFaults s.headers s.userAgent ++ []) () := (reports_requestHeaders s).bind last
  rwa [List.append_nil] at headers

/-- Where all checks have been passed the header fields are valid. -/
lemma requestHeaders_of_validate (valid : s.validate = .ok ()) : s.requestHeaders = .ok s.block := by
  obtain ⟨none, _⟩ := (reports_validate s).eq_ok_iff.1 valid
  exact (reports_requestHeaders s).eq_ok_iff.2 ⟨(faultsOf_eq_nil_iff.1 none).2.2.2, rfl⟩

/-- A pump is refused for the first fault of its settings, and made where there is none. -/
theorem reports_withSettings (url : String) (s : Settings) :
    Reports (Pump.withSettings url s) s.faults ⟨url, s, s.block⟩ := by
  have checked := reports_validate s
  cases found : s.faults with
  | nil =>
    rw [found] at checked
    have valid : s.validate = .ok () := checked
    rw [Pump.withSettings, valid, requestHeaders_of_validate valid]
    rfl
  | cons e rest =>
    rw [found] at checked
    have refused : s.validate = .error e := checked
    rw [Pump.withSettings, refused]
    rfl

/-! ## Changes

Each kind of change has a function that tells what a change of that kind sets. -/

namespace Change

def userAgent? : Change → Option String
  | userAgent agent => some agent
  | _ => none

def header? : Change → Option Field
  | header field => some field
  | _ => none

def chunkSize? : Change → Option Nat
  | chunkSize bytes => some bytes
  | _ => none

def connectTimeout? : Change → Option Nat
  | connectTimeout seconds => some seconds
  | _ => none

def readTimeout? : Change → Option Nat
  | readTimeout seconds => some seconds
  | _ => none

def stopWait? : Change → Option Nat
  | stopWait millis => some millis
  | _ => none

end Change

/-- What the last of those changes sets that set something of a kind. -/
def lastOf {α : Type} (kind : Change → Option α) (changes : List Change) : Option α :=
  (changes.filterMap kind).getLast?

/-- The last of a kind is the last change if that is of this kind. -/
lemma lastOf_concat {α : Type} (kind : Change → Option α) (changes : List Change) (c : Change) :
    lastOf kind (changes ++ [c]) = (kind c).or (lastOf kind changes) := by
  rw [lastOf, List.filterMap_append, List.getLast?_append]
  cases set : kind c <;> simp [set, lastOf]

/-- Of the changes of a kind the last counts, but header fields are all kept. -/
theorem ofChanges_eq (changes : List Change) :
    ofChanges changes =
      { userAgent := lastOf Change.userAgent? changes
        headers := changes.filterMap Change.header?
        chunkSize := (lastOf Change.chunkSize? changes).getD 8192
        connectTimeout := (lastOf Change.connectTimeout? changes).getD 5
        readTimeout := (lastOf Change.readTimeout? changes).getD 30
        stopWait := (lastOf Change.stopWait? changes).getD 2000 } := by
  induction changes using List.reverseRecOn with
  | nil => rfl
  | append_singleton changes c ih =>
    have step : ofChanges (changes ++ [c]) = (ofChanges changes).apply c := by
      simp [ofChanges]
    rw [step, ih]
    cases c <;> simp [apply, lastOf_concat, Change.userAgent?, Change.header?, Change.chunkSize?,
      Change.connectTimeout?, Change.readTimeout?, Change.stopWait?]

end Settings

/-- A pump that was made is one for its URL, and it has a chunk size. -/
lemma Pump.of_withSettings {url : String} {settings : Settings} {p : Pump}
    (made : withSettings url settings = .ok p) : p.url = url ∧ 0 < p.settings.chunkSize := by
  obtain ⟨clean, rfl⟩ := (Settings.reports_withSettings url settings).eq_ok_iff.1 made
  exact ⟨rfl, (Settings.faultsOf_eq_nil_iff.1 clean).1.1⟩

end StreamRelay
