import StreamRelay.Bytes
import StreamRelay.Journal
import StreamRelay.Run.Status

/-!
# Forwarding

How a received chunk is written piece by piece. Forwarding looks at the running flag before every
piece and once more after a write that failed, and it counts what it wrote.
-/

namespace StreamRelay

/-- After each of this many pieces the journal gets an entry. -/
def progressInterval : UInt64 := 1000

/-- Where forwarding stands after a write. -/
structure AfterWrite where
  status : Status
  exit : Option Exit
  journal : Journal

/-- What follows the write of a piece of `size` bytes, of which `failure` tells whether it failed.
-/
def Status.afterWrite (s : Status) (size : Nat) (failure : Option String) : AfterWrite :=
  match failure with
  | none =>
    let counted := s.recordPiece size
    let report := counted.pieces % progressInterval = 0
    ⟨counted, none, if report then [.streamed counted.pieces] else []⟩
  | some error =>
    if s.running then ⟨s, some .readerGone, [.readerWentAway error]⟩ else ⟨s, some .stopped, []⟩

/-- One attempt to write a piece, and why it failed if it did. -/
structure Attempt where
  piece : Bytes
  failure : Option String
deriving DecidableEq, Repr

/-- A way to write pieces that keeps a state of type `σ`. A write may change the status of the run.
-/
abbrev Writer (σ : Type) := Bytes → Status → σ → Option String × Status × σ

/-- Where forwarding got to. -/
structure Forwarded (σ : Type) where
  exit : Option Exit
  attempts : List Attempt
  status : Status
  writer : σ
  journal : Journal

/-- Writes pieces one after the other until the run has to end. -/
def forwardPieces {σ : Type} (write : Writer σ) : List Bytes → Status → σ → Forwarded σ
  | [], s, w => ⟨none, [], s, w, []⟩
  | piece :: rest, s, w =>
    if s.running then
      let (failure, s, w) := write piece s w
      let after := s.afterWrite piece.length failure
      match after.exit with
      | some exit => ⟨some exit, [⟨piece, failure⟩], after.status, w, after.journal⟩
      | none =>
        let later := forwardPieces write rest after.status w
        { later with
          attempts := ⟨piece, failure⟩ :: later.attempts
          journal := after.journal ++ later.journal }
    else ⟨some .stopped, [], s, w, []⟩

/-- Writes a received chunk in pieces of at most `size` bytes. -/
def forward {σ : Type} (write : Writer σ) (size : Nat) (chunk : Bytes) (s : Status) (w : σ) :
    Forwarded σ :=
  forwardPieces write (chunk.pieces size) s w

/-- Writes received chunks one after the other, each from where the one before it got to. -/
def forwardEach {σ : Type} (write : Writer σ) (size : Nat) :
    List Bytes → Status → σ → List (Forwarded σ)
  | [], _, _ => []
  | chunk :: rest, s, w =>
    let f := forward write size chunk s w
    f :: forwardEach write size rest f.status f.writer

/-- The bytes that were written. -/
def Forwarded.written {σ : Type} (f : Forwarded σ) : Bytes :=
  ((f.attempts.filter (·.failure.isNone)).map (·.piece)).flatten

end StreamRelay
