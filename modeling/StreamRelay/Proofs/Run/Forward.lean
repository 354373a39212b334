import Mathlib.Tactic.Lemma
import StreamRelay.Run.Forward

/-!
# What forwarding does

A received chunk is written block by block by a callback that may fail at any block and may change
the status meanwhile, the running flag above all. The flag is looked at before each block and after
a write that failed, but not after one that succeeded, so that a run which is stopped during the
last block has still written the whole chunk.

What a call can come to is said once (`Forwards`); what holds of every call follows by an induction
on that. Main statement: each of the calls that forward one chunk after the other keeps to what is
promised of it, on the status that the one before it has left (`forwardEach_keeps`).
-/

namespace StreamRelay

/-! ## Blocks -/

namespace Bytes

variable {size : Nat}

/-- The pieces of a byte string are its consecutive blocks. -/
lemma getElem?_pieces (pos : 0 < size) (bs : Bytes) (k : Nat) :
    (pieces size bs)[k]? =
      if k * size < bs.length then some ((bs.drop (k * size)).take size) else none := by
  induction k generalizing bs with
  | zero =>
    by_cases ne : bs = []
    · rw [ne, pieces_nil]
      rfl
    · rw [pieces_of_ne_nil pos ne, Nat.zero_mul, if_pos (List.length_pos_iff.2 ne)]
      rfl
  | succ k ih =>
    by_cases ne : bs = []
    · rw [ne, pieces_nil]
      rfl
    · have behind : k * size < (bs.drop size).length ↔ k * size + size < bs.length := by
        rw [List.length_drop]
        omega
      rw [pieces_of_ne_nil pos ne, List.getElem?_cons_succ, ih, List.drop_drop, Nat.succ_mul,
        Nat.add_comm size]
      simp only [behind]

/-- There is a piece with a number exactly if the chunk goes on beyond those before it. -/
lemma lt_length_pieces_iff (pos : 0 < size) (bs : Bytes) (k : Nat) :
    k < (pieces size bs).length ↔ k * size < bs.length := by
  have block := getElem?_pieces pos bs k
  split at block
  · next within =>
    obtain ⟨here, _⟩ := List.getElem?_eq_some_iff.1 block
    exact iff_of_true here within
  · next beyond => exact iff_of_false (Nat.not_lt.2 (List.getElem?_eq_none_iff.1 block)) beyond

end Bytes

/-! ## What a call can come to -/

/-- What forwarding pieces from a status on can come to: nothing is left to be written, or the run
is found stopped before a piece, or a write fails and the run is found stopped after it or still
going on, or a piece is written and counted, whatever has become of the run meanwhile, and the
others follow. -/
inductive Forwards {σ : Type} (write : Writer σ) :
    List Bytes → Status → σ → Forwarded σ → Prop
  | done {s : Status} {w : σ} : Forwards write [] s w ⟨none, [], s, w, []⟩
  | halted {piece : Bytes} {rest : List Bytes} {s : Status} {w : σ} (rests : s.running = false) :
      Forwards write (piece :: rest) s w ⟨some .stopped, [], s, w, []⟩
  | cut {piece : Bytes} {rest : List Bytes} {s s' : Status} {w w' : σ} {error : String}
      (runs : s.running = true) (fails : write piece s w = (some error, s', w'))
      (rests : s'.running = false) :
      Forwards write (piece :: rest) s w ⟨some .stopped, [⟨piece, some error⟩], s', w', []⟩
  | lost {piece : Bytes} {rest : List Bytes} {s s' : Status} {w w' : σ} {error : String}
      (runs : s.running = true) (fails : write piece s w = (some error, s', w'))
      (still : s'.running = true) :
      Forwards write (piece :: rest) s w
        ⟨some .readerGone, [⟨piece, some error⟩], s', w', [.readerWentAway error]⟩
  | wrote {piece : Bytes} {rest : List Bytes} {s s' : Status} {w w' : σ} {f : Forwarded σ}
      (runs : s.running = true) (writes : write piece s w = (none, s', w'))
      (later : Forwards write rest (s'.recordPiece piece.length) w' f) :
      Forwards write (piece :: rest) s w
        { f with
          attempts := ⟨piece, none⟩ :: f.attempts
          journal := (s'.afterWrite piece.length none).journal ++ f.journal }

variable {σ β : Type} {write : Writer σ}

/-- Whatever pieces are forwarded, it comes to one of these. -/
lemma forwards (write : Writer σ) (pieces : List Bytes) (s : Status) (w : σ) :
    Forwards write pieces s w (forwardPieces write pieces s w) := by
  induction pieces generalizing s w with
  | nil => exact .done
  | cons piece rest ih =>
    rw [forwardPieces]
    cases runs : s.running with
    | false => exact .halted runs
    | true =>
      rcases outcome : write piece s w with ⟨_ | error, s', w'⟩
      · exact .wrote runs outcome (ih _ _)
      · rw [if_pos rfl]
        simp only [Status.afterWrite]
        cases after : s'.running with
        | false => exact .cut runs outcome after
        | true => exact .lost runs outcome after

/-- The pieces that were written. -/
def succeeded (attempts : List Attempt) : List Bytes :=
  (attempts.filter (·.failure.isNone)).map (·.piece)

/-- Of two lists of attempts, those that succeeded are those of the one and those of the other. -/
lemma succeeded_append (as bs : List Attempt) :
    succeeded (as ++ bs) = succeeded as ++ succeeded bs := by
  rw [succeeded, List.filter_append, List.map_append]
  rfl

/-- The warnings among what is told. -/
def Journal.warnings (journal : Journal) : Journal := journal.filter (·.level = .warn)

namespace Forwards

variable {pieces : List Bytes} {s : Status} {w : σ} {f : Forwarded σ} {a : Attempt} {k : Nat}

/-- The pieces that are tried are the first ones. -/
lemma isPrefix (fwd : Forwards write pieces s w f) : f.attempts.map (·.piece) <+: pieces := by
  induction fwd with
  | done | halted => exact List.nil_prefix
  | cut | lost => exact (List.cons_prefix_cons).2 ⟨rfl, List.nil_prefix⟩
  | wrote _ _ _ ih => exact (List.cons_prefix_cons).2 ⟨rfl, ih⟩

/-- The piece of an attempt is the one with the same number. -/
lemma getElem?_piece (fwd : Forwards write pieces s w f) (here : f.attempts[k]? = some a) :
    pieces[k]? = some a.piece := by
  obtain ⟨rest, whole⟩ := fwd.isPrefix
  have tried : (f.attempts.map (·.piece))[k]? = some a.piece := by
    rw [List.getElem?_map, here]
    rfl
  obtain ⟨within, _⟩ := List.getElem?_eq_some_iff.1 tried
  rw [← whole, List.getElem?_append_left within]
  exact tried

/-- The bytes that are written are the first of all. -/
lemma written_isPrefix (fwd : Forwards write pieces s w f) : f.written <+: pieces.flatten := by
  induction fwd with
  | done | halted | cut | lost => exact List.nil_prefix
  | wrote _ _ _ ih => exact (List.prefix_append_right_inj _).2 ih

/-- An attempt that failed is the last. -/
lemma only_last (fwd : Forwards write pieces s w f) :
    ∀ a ∈ f.attempts.dropLast, a.failure = none := by
  induction fwd with
  | done | halted | cut | lost => exact fun _ mem => absurd mem List.not_mem_nil
  | @wrote piece rest s s' w w' f _ _ _ ih =>
    intro a mem
    show a.failure = none
    cases later : f.attempts with
    | nil =>
      rw [later] at mem
      exact absurd mem List.not_mem_nil
    | cons b bs =>
      rw [later, List.dropLast_cons_cons] at mem
      rw [later] at ih
      rcases List.mem_cons.1 mem with rfl | mem
      · rfl
      · exact ih a mem

/-- There is no exit exactly if no write failed and every piece was tried. -/
lemma exit_eq_none_iff (fwd : Forwards write pieces s w f) :
    f.exit = none ↔ (∀ a ∈ f.attempts, a.failure = none) ∧ f.attempts.length = pieces.length := by
  induction fwd with
  | done | halted | cut | lost => simp
  | wrote _ _ _ ih => simpa using ih

/-- The exit is that of a stop exactly if the run is found stopped and a write failed or a piece is
left. -/
lemma exit_eq_stopped_iff (fwd : Forwards write pieces s w f) :
    f.exit = some .stopped ↔ f.status.running = false ∧
      ((∃ a ∈ f.attempts, a.failure ≠ none) ∨ f.attempts.length < pieces.length) := by
  induction fwd with
  | done => simp
  | halted rests => simp [rests]
  | cut _ _ rests => simp [rests]
  | lost _ _ still => simp [still]
  | wrote _ _ _ ih => simpa using ih

/-- The exit is that of a lost reader exactly if a write failed and the run was still going on. -/
lemma exit_eq_readerGone_iff (fwd : Forwards write pieces s w f) :
    f.exit = some .readerGone ↔
      (∃ a ∈ f.attempts, a.failure ≠ none) ∧ f.status.running = true := by
  induction fwd with
  | done | halted => simp
  | cut _ _ rests => simp [rests]
  | lost _ _ still => simp [still]
  | wrote _ _ _ ih => simpa using ih

/-- There is no exit, or that of a stop or a lost reader. -/
lemma exit_mem (fwd : Forwards write pieces s w f) :
    f.exit ∈ [none, some .stopped, some .readerGone] := by
  induction fwd with
  | done | halted | cut | lost => simp
  | wrote _ _ _ ih => exact ih

/-- There is no warning after a write that succeeded. -/
lemma warnings_afterWrite (s : Status) (n : Nat) : (s.afterWrite n none).journal.warnings = [] := by
  unfold Status.afterWrite
  dsimp only
  split <;> rfl

/-- There is a warning only of a write that failed while the run was going on. -/
lemma warnings (fwd : Forwards write pieces s w f) :
    f.journal.warnings =
      if f.exit = some .readerGone then (f.attempts.filterMap (·.failure)).map .readerWentAway
      else [] := by
  induction fwd with
  | done | halted | cut | lost => rfl
  | @wrote piece rest s s' w w' f _ _ _ ih =>
    show ((s'.afterWrite piece.length none).journal ++ f.journal).warnings = _
    rw [Journal.warnings, List.filter_append]
    exact (congrArg (· ++ _) (warnings_afterWrite s' piece.length)).trans ih

end Forwards

/-! ## The account of a call -/

/-- Whether attempts lead from a status to a status: each is made while the run is going on, what it
leaves of the status is counted if it succeeds, and after one that failed none is made. -/
inductive Tries {σ : Type} (write : Writer σ) : List Attempt → Status → σ → Status → σ → Prop
  | none {s : Status} {w : σ} : Tries write [] s w s w
  | failed {piece : Bytes} {s s' : Status} {w w' : σ} {error : String} (runs : s.running = true)
      (fails : write piece s w = (some error, s', w')) :
      Tries write [⟨piece, some error⟩] s w s' w'
  | wrote {piece : Bytes} {rest : List Attempt} {s s' s'' : Status} {w w' w'' : σ}
      (runs : s.running = true) (writes : write piece s w = (none, s', w'))
      (later : Tries write rest (s'.recordPiece piece.length) w' s'' w'') :
      Tries write (⟨piece, none⟩ :: rest) s w s'' w''

/-- The attempts lead from the status at the start of a call to that at its end. -/
lemma Forwards.tries {pieces : List Bytes} {s : Status} {w : σ} {f : Forwarded σ}
    (fwd : Forwards write pieces s w f) : Tries write f.attempts s w f.status f.writer := by
  induction fwd with
  | done | halted => exact .none
  | cut runs fails | lost runs fails => exact .failed runs fails
  | wrote runs writes _ ih => exact .wrote runs writes ih

/-- Whether a callback leaves a part of the status alone. -/
def Writer.Spares (write : Writer σ) (part : Status → β) : Prop :=
  ∀ piece s w, part (write piece s w).2.1 = part s

/-- What a callback leaves alone is the same after one call of it. -/
lemma Writer.Spares.eq {part : Status → β} {piece : Bytes} {failure : Option String} {s s' : Status}
    {w w' : σ} (spares : write.Spares part) (writes : write piece s w = (failure, s', w')) :
    part s' = part s := by
  have same := spares piece s w
  rw [writes] at same
  exact same

/-- Whether the counters of the status `s'` are those of `s` with `counted` added, modulo 2^64. -/
structure Status.Adds (s s' : Status) (counted : List Bytes) : Prop where
  pieces : s'.pieces = s.pieces + counted.length.toUInt64
  bytes : s'.bytes = s.bytes + counted.flatten.length.toUInt64

namespace Status.Adds

variable {s s' s'' : Status} {as bs : List Bytes}

/-- Nothing is added where the counters stay as they are. -/
lemma none (pieces : s'.pieces = s.pieces) (bytes : s'.bytes = s.bytes) : s.Adds s' [] where
  pieces := pieces.trans (UInt64.add_zero _).symm
  bytes := bytes.trans (UInt64.add_zero _).symm

/-- A piece that is recorded is added. -/
lemma one (pieces : s'.pieces = s.pieces) (bytes : s'.bytes = s.bytes) (piece : Bytes) :
    s.Adds (s'.recordPiece piece.length) [piece] where
  pieces := congrArg (· + 1) pieces
  bytes := by
    rw [List.flatten_singleton, ← bytes]
    rfl

/-- What is added later comes behind what was added before. -/
lemma append (front : s.Adds s' as) (back : s'.Adds s'' bs) : s.Adds s'' (as ++ bs) where
  pieces := by
    rw [back.pieces, front.pieces, List.length_append, UInt64.add_assoc]
    exact congrArg _ (UInt64.ofNat_add _ _).symm
  bytes := by
    rw [back.bytes, front.bytes, List.flatten_append, List.length_append, UInt64.add_assoc]
    exact congrArg _ (UInt64.ofNat_add _ _).symm

end Status.Adds

namespace Tries

variable {attempts : List Attempt} {s s' : Status} {w w' : σ}

/-- What neither counting nor the callback touches stays as it is. -/
lemma part_eq {part : Status → β} (uncounted : ∀ s n, part (s.recordPiece n) = part s)
    (spares : write.Spares part) (tries : Tries write attempts s w s' w') : part s' = part s := by
  induction tries with
  | none => rfl
  | failed _ fails => exact spares.eq fails
  | wrote _ writes _ ih => exact ih.trans ((uncounted _ _).trans (spares.eq writes))

/-- The counters tell of the pieces that were written, if the callback leaves them alone. -/
lemma adds (pieces : write.Spares Status.pieces) (bytes : write.Spares Status.bytes)
    (tries : Tries write attempts s w s' w') : s.Adds s' (succeeded attempts) := by
  induction tries with
  | none => exact .none rfl rfl
  | failed _ fails => exact .none (pieces.eq fails) (bytes.eq fails)
  | @wrote piece _ _ _ _ _ _ _ _ writes _ ih =>
    have counted := Status.Adds.one (pieces.eq writes) (bytes.eq writes) piece
    exact counted.append ih

end Tries

/-! ## What is promised of a call -/

/-- Whether a call that forwards a chunk from a status on came to what is promised of it. The blocks
of the chunk are tried in order from its start on, none is empty, and only the last block of the
chunk is shorter than the others. What becomes of the status is the work of the attempts: nothing
but a successful one is counted, and what the callback leaves alone stays as it is but for the
counters. -/
structure Forwarded.Keeps (write : Writer σ) (size : Nat) (chunk : Bytes) (s : Status) (w : σ)
    (f : Forwarded σ) : Prop where
  blocks : ∀ k a, f.attempts[k]? = some a →
    k * size < chunk.length ∧ a.piece = (chunk.drop (k * size)).take size
  sizes : ∀ k a, f.attempts[k]? = some a → 0 < a.piece.length ∧
    (a.piece.length = size ∨ a.piece.length < size ∧ chunk.length < (k + 1) * size)
  only_last : ∀ a ∈ f.attempts.dropLast, a.failure = none
  written : f.written <+: chunk
  exit_eq_none : f.exit = none ↔
    ∀ k, k * size < chunk.length → ∃ a, f.attempts[k]? = some a ∧ a.failure = none
  exit_eq_stopped : f.exit = some .stopped ↔ f.status.running = false ∧
    ((∃ a ∈ f.attempts, a.failure ≠ none) ∨ f.attempts.length * size < chunk.length)
  exit_eq_readerGone : f.exit = some .readerGone ↔
    (∃ a ∈ f.attempts, a.failure ≠ none) ∧ f.status.running = true
  exit_mem : f.exit ∈ [none, some .stopped, some .readerGone]
  tries : Tries write f.attempts s w f.status f.writer
  adds : write.Spares Status.pieces → write.Spares Status.bytes →
    s.Adds f.status (succeeded f.attempts)
  part_eq : ∀ {β : Type} (part : Status → β), (∀ s n, part (s.recordPiece n) = part s) →
    write.Spares part → part f.status = part s
  warnings : f.journal.warnings =
    if f.exit = some .readerGone then (f.attempts.filterMap (·.failure)).map .readerWentAway else []

namespace Forwards

variable {size k : Nat} {chunk : Bytes} {s : Status} {w : σ} {f : Forwarded σ} {a : Attempt}

/-- An attempt takes in the piece that belongs to its number. -/
lemma block (pos : 0 < size) (fwd : Forwards write (chunk.pieces size) s w f)
    (here : f.attempts[k]? = some a) :
    k * size < chunk.length ∧ a.piece = (chunk.drop (k * size)).take size := by
  have block := fwd.getElem?_piece here
  rw [Bytes.getElem?_pieces pos] at block
  split at block
  · next within => exact ⟨within, (Option.some.inj block).symm⟩
  · cases block

/-- Only the last block of a chunk is shorter than the others. -/
lemma length_block (pos : 0 < size) (fwd : Forwards write (chunk.pieces size) s w f)
    (here : f.attempts[k]? = some a) : 0 < a.piece.length ∧
      (a.piece.length = size ∨ a.piece.length < size ∧ chunk.length < (k + 1) * size) := by
  obtain ⟨within, block⟩ := fwd.block pos here
  have length : a.piece.length = min size (chunk.length - k * size) := by
    rw [block, List.length_take, List.length_drop]
  rw [Nat.succ_mul]
  omega

/-- Everything is written exactly if no attempt fails and no block is left. -/
lemma all_written_iff (pos : 0 < size) (fwd : Forwards write (chunk.pieces size) s w f) :
    (∀ k, k * size < chunk.length → ∃ a, f.attempts[k]? = some a ∧ a.failure = none) ↔
      (∀ a ∈ f.attempts, a.failure = none) ∧ f.attempts.length = (chunk.pieces size).length := by
  have le : f.attempts.length ≤ (chunk.pieces size).length := by
    have tried := fwd.isPrefix.length_le
    rwa [List.length_map] at tried
  constructor
  · intro all
    refine ⟨?_, ?_⟩
    · intro a mem
      obtain ⟨k, here⟩ := List.mem_iff_getElem?.1 mem
      obtain ⟨b, there, good⟩ := all k (fwd.block pos here).1
      rw [here] at there
      cases there
      exact good
    · refine Nat.le_antisymm le (Nat.le_of_not_lt ?_)
      intro more
      obtain ⟨b, there, _⟩ := all _ ((Bytes.lt_length_pieces_iff pos chunk _).1 more)
      rw [List.getElem?_eq_none (Nat.le_refl _)] at there
      cases there
  · rintro ⟨good, all⟩ k within
    have within' : k < f.attempts.length := by
      rw [all]
      exact (Bytes.lt_length_pieces_iff pos chunk k).2 within
    exact ⟨_, List.getElem?_eq_getElem within', good _ (List.getElem_mem within')⟩

end Forwards

variable {size : Nat}

/-- A call keeps to what is promised of it. -/
theorem forward_keeps (write : Writer σ) (pos : 0 < size) (chunk : Bytes) (s : Status) (w : σ) :
    (forward write size chunk s w).Keeps write size chunk s w := by
  have fwd : Forwards write (chunk.pieces size) s w (forward write size chunk s w) := forwards ..
  refine
    { blocks := fun k a => fwd.block pos
      sizes := fun k a => fwd.length_block pos
      only_last := fwd.only_last
      written := ?written
      exit_eq_none := fwd.exit_eq_none_iff.trans (fwd.all_written_iff pos).symm
      exit_eq_stopped := ?stopped
      exit_eq_readerGone := fwd.exit_eq_readerGone_iff
      exit_mem := fwd.exit_mem
      tries := fwd.tries
      adds := fun pieces bytes => fwd.tries.adds pieces bytes
      part_eq := fun part uncounted spares => fwd.tries.part_eq uncounted spares
      warnings := fwd.warnings }
  case written =>
    have front := fwd.written_isPrefix
    rwa [Bytes.flatten_pieces pos] at front
  case stopped =>
    rw [fwd.exit_eq_stopped_iff, Bytes.lt_length_pieces_iff pos]

/-! ## One call after the other -/

/-- Whether each of the calls that forward chunks one after the other came to what is promised of
it, on what the one before it has left. -/
inductive KeepsEach {σ : Type} (write : Writer σ) (size : Nat) :
    List Bytes → Status → σ → List (Forwarded σ) → Prop
  | none {s : Status} {w : σ} : KeepsEach write size [] s w []
  | next {chunk : Bytes} {chunks : List Bytes} {s : Status} {w : σ} {f : Forwarded σ}
      {fs : List (Forwarded σ)} (call : f.Keeps write size chunk s w)
      (later : KeepsEach write size chunks f.status f.writer fs) :
      KeepsEach write size (chunk :: chunks) s w (f :: fs)

/-- The status that calls leave which begin with `s`. -/
def leftBy (s : Status) (calls : List (Forwarded σ)) : Status :=
  calls.foldl (fun _ f => f.status) s

namespace KeepsEach

variable {chunks : List Bytes} {s : Status} {w : σ} {fs : List (Forwarded σ)}

/-- What each call leaves alone is the same after all of them. -/
lemma part_eq {part : Status → β} (uncounted : ∀ s n, part (s.recordPiece n) = part s)
    (spares : write.Spares part) (each : KeepsEach write size chunks s w fs) :
    part (leftBy s fs) = part s := by
  induction each with
  | none => rfl
  | next call _ ih => exact ih.trans (call.part_eq part uncounted spares)

/-- The counters have grown by what was written in all calls. -/
lemma adds (pieces : write.Spares Status.pieces) (bytes : write.Spares Status.bytes)
    (each : KeepsEach write size chunks s w fs) :
    s.Adds (leftBy s fs) (succeeded (fs.flatMap (·.attempts))) := by
  induction each with
  | none => exact .none rfl rfl
  | next call _ ih =>
    rw [List.flatMap_cons, succeeded_append]
    exact (call.adds pieces bytes).append ih

end KeepsEach

/-- Each of the calls keeps account, wherever those before it have got to. -/
lemma keepsEach (write : Writer σ) (pos : 0 < size) (chunks : List Bytes) (s : Status) (w : σ) :
    KeepsEach write size chunks s w (forwardEach write size chunks s w) := by
  induction chunks generalizing s w with
  | nil => exact .none
  | cons chunk chunks ih => exact .next (forward_keeps write pos chunk s w) (ih _ _)

/-- Each of the calls that forward one chunk after the other keeps to what is promised of it,
whatever the callback does. If the callback leaves the counters alone, these tell in the end of all
pieces that were written, and whatever else it leaves alone is as it was. -/
theorem forwardEach_keeps (write : Writer σ) (pos : 0 < size) (chunks : List Bytes) (s : Status)
    (w : σ) :
    KeepsEach write size chunks s w (forwardEach write size chunks s w) ∧
    (write.Spares Status.pieces → write.Spares Status.bytes →
      s.Adds (leftBy s (forwardEach write size chunks s w))
        (succeeded ((forwardEach write size chunks s w).flatMap (·.attempts)))) ∧
    ∀ {β : Type} (part : Status → β), (∀ s n, part (s.recordPiece n) = part s) →
      write.Spares part → part (leftBy s (forwardEach write size chunks s w)) = part s := by
  have each := keepsEach write pos chunks s w
  refine ⟨each, ?adds, ?part⟩
  case adds => exact fun pieces bytes => each.adds pieces bytes
  case part => exact fun part uncounted spares => each.part_eq uncounted spares

/-- A callback that does as it is told: for each piece why its write fails, if it does, and whether
the run is stopped meanwhile. -/
def obey : Writer (List (Option String × Bool))
  | _, s, [] => (none, s, [])
  | _, s, (failure, stops) :: rest => (failure, if stops then s.markStopped else s, rest)

/-- A run that is stopped while its fourth piece is not written has counted three pieces, and of the
chunks that follow only an empty one is forwarded. -/
theorem forwardEach_keeps_stoppedInWrite :
    let chunks : List Bytes := [[1, 2, 3], [4, 5, 6], [], [7]]
    let told := [(none, false), (none, false), (none, false), (some "Broken pipe", true)]
    let calls := forwardEach obey 2 chunks .fresh told
    0 < 2 ∧ KeepsEach obey 2 chunks .fresh told calls ∧
      calls.map (·.exit) = [none, some .stopped, none, some .stopped] ∧
      (leftBy .fresh calls).pieces = 3 ∧ (leftBy .fresh calls).bytes = 5 ∧
      (leftBy .fresh calls).exit = none := by
  intro chunks told calls
  have pieces : obey.Spares Status.pieces := by
    rintro piece s (_ | ⟨⟨failure, _ | _⟩, rest⟩) <;> rfl
  have bytes : obey.Spares Status.bytes := by
    rintro piece s (_ | ⟨⟨failure, _ | _⟩, rest⟩) <;> rfl
  have exit : obey.Spares Status.exit := by
    rintro piece s (_ | ⟨⟨failure, _ | _⟩, rest⟩) <;> rfl
  obtain ⟨each, adds, part⟩ := forwardEach_keeps obey Nat.two_pos chunks .fresh told
  have counted : succeeded (calls.flatMap (·.attempts)) = [[1, 2], [3], [4, 5]] := by
    decide +kernel
  obtain ⟨number, length⟩ := adds pieces bytes
  rw [counted] at number length
  exact ⟨by decide, each, by decide +kernel, number, length, part Status.exit (fun _ _ => rfl) exit⟩

end StreamRelay
