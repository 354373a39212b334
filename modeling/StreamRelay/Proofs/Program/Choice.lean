import Mathlib.Logic.Basic
import StreamRelay.Program.Basic
import StreamRelay.Proofs.CommandLine.Reading

/-!
# What the program is asked to do

A command line that is accepted asks for the stream of a URL or for a scan, and for one of these
only. What asks for a scan may be any of its arguments, and so may be the URL, even one that looks
like an option if the separator stands before it.

Main statement: the program relays the URL that it is given, or scans, and never finds out too late
that there is no URL (`relays_or_scans`).
-/

namespace StreamRelay

open CommandLine

namespace Relay

variable {a : Arguments} {url : String} {w : Surroundings} {res : Result}

/-- Where a relay does not begin, the settings, the output or the start of the pump are at fault. -/
lemma fault_of_begin (stops : begin a url w = .error res) : res.fault ≠ some .noUrl := by
  unfold begin at stops
  split at stops
  · cases stops
    simp [Result.failed]
  · split at stops
    · next fault opened =>
      cases stops
      unfold openSink at opened
      split at opened
      · cases opened
      · split at opened
        · cases opened
        · cases opened
          simp [Result.failed]
    · split at stops
      · cases stops
        simp [Result.failed]
      · cases stops

/-- A copy that was made does not lack a URL. -/
lemma fault_result (c : Copy) : c.result.fault ≠ some .noUrl := by
  unfold Copy.result
  split <;> simp [Result.failed]

/-- A relay that was begun does not lack a URL. -/
lemma fault_of_run (ended : run a url w = some res) : res.fault ≠ some .noUrl := by
  unfold run at ended
  split at ended
  · next stops =>
    cases ended
    exact fault_of_begin stops
  · simp only at ended
    split at ended
    · cases ended
      exact fault_result _
    · cases ended

end Relay

/-- A scan does not lack a URL. -/
lemma fault_scanDiagnostics (w : Surroundings) : (scanDiagnostics w).fault ≠ some .noUrl := by
  unfold scanDiagnostics
  simp only
  split <;> simp [Result.failed]

variable {args : List String} {a : Arguments} {url : String} {w : Surroundings} {res : Result}

/-- A program that was given a URL relays. -/
lemma program_of_url (accepted : parse args = .ok a) (asked : a.url = some url) (w : Surroundings) :
    program args w = Relay.run a url w := by
  have plain := scanStderr_of_url accepted asked
  simp [program, accepted, perform, plain, asked]

/-- A program without a URL scans. -/
lemma program_of_no_url (accepted : parse args = .ok a) (absent : a.url = none)
    (w : Surroundings) : program args w = some (scanDiagnostics w) := by
  have scan := scanStderr_of_none accepted absent
  simp [program, accepted, perform, scan]

/-- A program whose arguments were accepted does not lack a URL. -/
lemma fault_program (accepted : parse args = .ok a) (ended : program args w = some res) :
    res.fault ≠ some .noUrl := by
  cases asked : a.url with
  | none =>
    rw [program_of_no_url accepted asked] at ended
    cases ended
    exact fault_scanDiagnostics w
  | some url =>
    rw [program_of_url accepted asked] at ended
    exact Relay.fault_of_run ended

/-- What is promised of a program whose command line was accepted as `a` and gives some things. -/
structure Chooses (args : List String) (items : List Item) (a : Arguments) : Prop where
  /-- There is a URL, be it empty, and no scan, or there is a scan and no URL. -/
  one : Xor ((∃ url, a.url = some url) ∧ a.scanStderr = false) (a.url = none ∧ a.scanStderr = true)
  /-- The URL is the only plain argument, -/
  url : plains items = a.url.toList
  /-- and the scan is asked for by its flag. -/
  scan : a.scanStderr = true ↔ .flag .scanStderr ∈ items
  relays : ∀ url, a.url = some url → ∀ w, program args w = Relay.run a url w
  scans : a.url = none → ∀ w, program args w = some (scanDiagnostics w)
  /-- In neither case is a URL found missing. -/
  reached : ∀ w res, program args w = some res → res.fault ≠ some .noUrl

/-- A command line that is accepted makes the program either relay a URL or scan. -/
theorem relays_or_scans (accepted : parse args = .ok a) :
    ∃ items, (∀ others, Gives args others ↔ others = items) ∧ Chooses args items a := by
  obtain ⟨items, gives, asks, _⟩ := exists_gives_of_parse accepted
  refine ⟨items, fun others => gives.iff, {
    one := ?one
    url := asks.url
    scan := asks.scanStderr
    relays := fun _ asked => program_of_url accepted asked
    scans := fun absent => program_of_no_url accepted absent
    reached := fun _ _ ended => fault_program accepted ended
  }⟩
  case one =>
    cases asked : a.url with
    | none =>
      have scan := scanStderr_of_none accepted asked
      exact .inr ⟨⟨rfl, scan⟩, fun both => by simp at both⟩
    | some url =>
      have plain := scanStderr_of_url accepted asked
      exact .inl ⟨⟨⟨url, rfl⟩, plain⟩, fun both => by simp at both⟩

/-- A command line with short options in one argument, a value in the next, and a URL behind the
separator that is spelled like the flag of a scan. -/
def misleading : List String := ["-vqoout", "-vH", "X-A:b", "--chunk-size=0", "--", "--scan-stderr"]

/-- It is taken as one that gives this URL, and relays it. -/
theorem relays_or_scans_misleading :
    let a : Arguments := {
      url := some "--scan-stderr", output := some "out", headers := [⟨"X-A", "b"⟩], chunkSize := 0,
      verbose := 2, quiet := true }
    parse misleading = .ok a ∧
      ∃ items, (∀ others, Gives misleading others ↔ others = items) ∧
        Chooses misleading items a := by
  intro a
  have accepted : parse misleading = .ok a := by decide +kernel
  exact ⟨accepted, relays_or_scans accepted⟩

end StreamRelay
