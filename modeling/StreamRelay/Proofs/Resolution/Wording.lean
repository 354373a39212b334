import Mathlib.Tactic.Lemma
import StreamRelay.Run.Outcome
import StreamRelay.Scan

/-!
# What a failed look-up says

A failed look-up is told from other faults by its sort and by its text, and the text alone would do:
it begins with a phrase of the table, which neither the faults around it nor the lower-case forms of
the characters next to it can hide.

Main statement: the verdict on a chain of causes is that on its text, so that a scan of what is told
of a failed connection finds it exactly if the exit is that of a host without an address
(`verdicts_agree`).
-/

namespace StreamRelay

/-- Whether a scan finds a text that stands on a line of its own. -/
def Scan.finds (text : String) : Bool := !(scanLines 1 [Bytes.ofText text]).found.isEmpty

namespace Resolution

open Text

/-- The phrase that a failed look-up begins with. -/
def opening : String := "name resolution failed"

/-- The scan of diagnostics looks for the phrases of failed look-ups. -/
lemma finds_eq_mentionsFailure (text : String) : Scan.finds text = mentionsFailure text := by
  simp only [Scan.finds, Scan.scanLines, Bytes.text?_ofText]
  cases mentionsFailure text <;> rfl

/-- Each of the lists that are joined stands in the whole. -/
lemma exists_intercalate_eq {α : Type} {sep x : List α} {xs : List (List α)} (mem : x ∈ xs) :
    ∃ front back, sep.intercalate xs = front ++ x ++ back := by
  induction xs with
  | nil => cases mem
  | cons y ys ih =>
    cases ys with
    | nil =>
      rw [List.mem_singleton.1 mem]
      exact ⟨[], [], by rw [List.intercalate_singleton, List.append_nil, List.nil_append]⟩
    | cons z zs =>
      rw [List.intercalate_cons_cons]
      rcases List.mem_cons.1 mem with rfl | mem
      · exact ⟨[], sep ++ sep.intercalate (z :: zs), by simp⟩
      · obtain ⟨front, back, rest⟩ := ih mem
        exact ⟨y ++ sep ++ front, back, by simp [rest]⟩

/-- The text of a failed look-up has a phrase in front of host and detail. -/
lemma toList_text_unresolved (host detail : String) :
    (Fault.unresolved host detail).text.toList =
      opening.toList ++ (" for ".toList ++ host.toList ++ ": ".toList ++ detail.toList) := by
  have text : (Fault.unresolved host detail).text =
      "name resolution failed for " ++ host ++ ": " ++ detail := rfl
  have front : "name resolution failed for ".toList = opening.toList ++ " for ".toList := by
    decide +kernel
  rw [text]
  simp only [String.toList_append, front, List.append_assoc]

/-- A chain with a failed look-up in it says so, whatever stands around that. -/
lemma mentionsFailure_of_mem {trail : List Fault} {f : Fault} (mem : f ∈ trail)
    (unresolved : f.isUnresolved = true) : mentionsFailure (rendered trail) = true := by
  cases f with
  | plain text => cases unresolved
  | unresolved host detail =>
    have mem' := List.mem_map_of_mem (f := fun f : Fault => f.text.toList) mem
    obtain ⟨front, back, whole⟩ := @exists_intercalate_eq _ separator.toList _ _ mem'
    have lower : lowercase opening.toList = opening.toList := by decide
    have found : occursIn opening.toList opening.toList = true :=
      occursIn_iff.2 ⟨[], [], by rw [List.nil_append, List.append_nil]⟩
    rw [mentionsFailure_eq, List.any_eq_true]
    refine ⟨opening, by decide, ?_⟩
    rw [rendered, String.toList_ofList, whole, toList_text_unresolved]
    simp only [lowercase_append, lower]
    -- What stands before and behind the phrase is lowered apart from it.
    rw [← List.append_assoc, List.append_assoc]
    exact occursIn_append found _ _

/-- A chain of causes is one of a failed look-up exactly if its text has a phrase in it. -/
lemma isFailure_eq_mentionsFailure (trail : List Fault) :
    isFailure trail = mentionsFailure (rendered trail) := by
  rw [isFailure]
  cases unresolved : trail.any Fault.isUnresolved with
  | false => rfl
  | true =>
    obtain ⟨f, mem, unresolved⟩ := List.any_eq_true.1 unresolved
    rw [mentionsFailure_of_mem mem unresolved]
    rfl

/-- What a journal tells of a connection that failed is the text of the chain of causes, whatever the
verdict. -/
lemma error?_conclude_connect (s : Status) (url : String) (cause : Trouble) :
    (Outcome.conclude s (.error (.connect url cause))).2.2.error? = some (rendered cause.trail) := by
  simp only [Outcome.conclude, Outcome.verdict]
  split <;> rfl

/-- However faults are linked to their causes, a chain with a failed look-up in it has a phrase of the
table in its text, and the verdict on the chain is that on its text. A connection that failed is
therefore recorded with the exit of a host without an address exactly if a scan finds what the journal
tells of it. -/
theorem verdicts_agree :
    (∀ (ι : Type) [DecidableEq ι] (c : Causes ι) (i : ι),
      ((∃ f ∈ c.trail i, f.isUnresolved = true) →
          mentionsFailure (rendered (c.trail i)) = true) ∧
        isFailure (c.trail i) = mentionsFailure (rendered (c.trail i))) ∧
    ∀ (s : Status) (url : String) (cause : Trouble), ∃ exit event error,
      (Outcome.conclude s (.error (.connect url cause))).2 = (exit, event) ∧
        event.error? = some error ∧ (exit = .dnsFailure ↔ mentionsFailure error = true) ∧
        (exit = .dnsFailure ↔ Scan.finds error = true) := by
  refine ⟨?chains, ?connections⟩
  case chains =>
    intro ι _ c i
    refine ⟨?_, isFailure_eq_mentionsFailure _⟩
    rintro ⟨f, mem, unresolved⟩
    exact mentionsFailure_of_mem mem unresolved
  case connections =>
    intro s url cause
    have exit := Outcome.verdict_error_eq_dnsFailure_iff s (.connect url cause)
    rw [Outcome.isUnresolved, isFailure_eq_mentionsFailure] at exit
    refine ⟨_, _, _, rfl, error?_conclude_connect s url cause, exit, ?_⟩
    rw [finds_eq_mentionsFailure]
    exact exit

/-- A fault that is its own cause's cause, with a failed look-up between. -/
def roundAbout : Causes Bool where
  fault
    | true => .plain "no connection"
    | false => .unresolved "a" "unknown"
  cause i := some !i

/-- A chain that comes back to its beginning is told by its text as well. -/
theorem verdicts_agree_roundAbout :
    (∃ f ∈ roundAbout.trail true, f.isUnresolved = true) ∧
      mentionsFailure (rendered (roundAbout.trail true)) = true ∧
      isFailure (roundAbout.trail true) = mentionsFailure (rendered (roundAbout.trail true)) := by
  have there : ∃ f ∈ roundAbout.trail true, f.isUnresolved = true :=
    ⟨.unresolved "a" "unknown", by decide, rfl⟩
  obtain ⟨told, same⟩ := verdicts_agree.1 Bool roundAbout true
  exact ⟨there, told there, same⟩

end Resolution

end StreamRelay
