import StreamRelay.Bytes
import StreamRelay.Resolution.Phrases

/-!
# Scanning diagnostics

The search for lines that tell of a failed look-up in the diagnostics of another program.

Main statement: the scan of a list of lines is that of its first part, followed by that of the rest
with its numbers shifted (`scanLines_append`).
-/

namespace StreamRelay

/-- What a scan found: the lines that tell of a failed look-up, with their numbers, and whether all
lines were text. -/
structure Scan where
  found : List (Nat × String) := []
  complete : Bool := true
deriving DecidableEq, Repr

namespace Scan

/-- Scans lines, the first of which has number `n`, up to one that is no text. -/
def scanLines (n : Nat) : List Bytes → Scan
  | [] => {}
  | line :: rest =>
    match Bytes.text? line with
    | none => { complete := false }
    | some text =>
      let later := scanLines (n + 1) rest
      if Resolution.mentionsFailure text then { later with found := (n, text) :: later.found }
      else later

/-- Scans the lines of a byte string; they are numbered from 1 on. -/
def ofBytes (input : Bytes) : Scan := scanLines 1 input.lines

/-- What is shown of a line. -/
def lineText (entry : Nat × String) : String := s!"{entry.1}: {entry.2}\n"

/-- What is shown of the lines that were found. -/
def text (s : Scan) : String := String.join (s.found.map lineText)

/-- Two scans one after the other. -/
def append (s t : Scan) : Scan := ⟨s.found ++ t.found, t.complete⟩

/-- The scan of lines of text goes on with the lines behind them. -/
theorem scanLines_append (n : Nat) (as bs : List Bytes) (h : (scanLines n as).complete = true) :
    scanLines n (as ++ bs) = (scanLines n as).append (scanLines (n + as.length) bs) := by
  induction as generalizing n with
  | nil => simp [scanLines, append]
  | cons a as ih =>
    simp only [List.cons_append, scanLines] at h ⊢
    split at h
    · simp at h
    · next text _ =>
      have complete : (scanLines (n + 1) as).complete = true := by
        split at h <;> exact h
      rw [ih (n + 1) complete, List.length_cons,
        show n + 1 + as.length = n + (as.length + 1) by omega]
      split <;> simp [append]

end Scan

end StreamRelay
