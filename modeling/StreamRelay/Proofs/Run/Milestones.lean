import StreamRelay.Proofs.Run.Count
import StreamRelay.Proofs.Run.Forward

/-!
# How a run tells of its progress

A run counts its pieces through all the chunks that it receives, and tells of every thousandth.
Which chunk a piece is of makes no difference, since the counter is looked at and not the chunk.

Main statement: the journal of a run, and those of calls that forward one chunk after the other,
tell of the multiples of a thousand up to the number of pieces, each once and in order
(`progress_told`).
-/

namespace StreamRelay

/-- The multiples of a thousand up to `n`. -/
def milestones (n : Nat) : List Nat := (List.range (n / 1000)).map fun k => 1000 * (k + 1)

/-- The number of pieces that an entry about the progress of a run tells. -/
def Event.progress? : Event → Option Nat
  | streamed pieces => some pieces.toNat
  | _ => none

/-- An entry that is not about progress has another message. -/
lemma Event.message_ne_of_progress? {e : Event} (untold : e.progress? = none) :
    (e.message = "HTTP reader streamed chunks") = False := by
  cases e with
  | streamed pieces => cases untold
  | _ => simp [message]

/-- The line of an entry about progress carries its number and nothing else. -/
lemma Event.line_of_progress? {e : Event} {n : Nat} (told : e.progress? = some n) :
    (e.message = "HTTP reader streamed chunks") = True ∧
      e.line = s!"DEBUG HTTP reader streamed chunks chunks={n}" := by
  cases e with
  | streamed pieces =>
    cases told
    exact ⟨by simp [message], rfl⟩
  | _ => cases told

namespace Journal

/-- The numbers of pieces that a journal tells of the progress of a run. -/
def progress (journal : Journal) : List Nat := journal.filterMap Event.progress?

/-- The lines of a journal that are about the progress of a run. -/
def progressLines (journal : Journal) : List String :=
  (journal.filter (·.message = "HTTP reader streamed chunks")).map Event.line

/-- The numbers of two journals in a row are those of the one and those of the other. -/
lemma progress_append (j k : Journal) : (j ++ k).progress = j.progress ++ k.progress :=
  List.filterMap_append

/-- An entry that is not about progress adds no number. -/
lemma progress_concat {e : Event} (silent : e.progress? = none) (journal : Journal) :
    Journal.progress (journal ++ [e]) = journal.progress := by
  rw [progress_append]
  show journal.progress ++ [e].filterMap Event.progress? = _
  rw [List.filterMap_cons, silent]
  exact List.append_nil _

/-- Each line about the progress carries one number and nothing else. -/
lemma progressLines_eq (journal : Journal) :
    journal.progressLines =
      journal.progress.map fun n => s!"DEBUG HTTP reader streamed chunks chunks={n}" := by
  induction journal with
  | nil => rfl
  | cons e journal ih =>
    rw [progressLines, progress, List.filter_cons, List.filterMap_cons]
    cases told : e.progress? with
    | none =>
      have other := Event.message_ne_of_progress? told
      simp only [other]
      exact ih
    | some n =>
      obtain ⟨same, line⟩ := Event.line_of_progress? told
      simp only [same]
      rw [decide_true, if_pos rfl, List.map_cons, List.map_cons, line]
      exact congrArg _ ih

end Journal

/-- What is told of a result is not about progress. -/
lemma Outcome.progress?_verdict (s : Status) (o : Outcome) : (o.verdict s).2.progress? = none := by
  unfold verdict
  split <;> first | split <;> rfl | rfl

/-- One more piece is a milestone if its number is a multiple of a thousand. -/
lemma milestones_succ (n : Nat) :
    milestones (n + 1) = milestones n ++ if (n + 1) % 1000 = 0 then [n + 1] else [] := by
  rw [milestones, milestones]
  split
  · next whole =>
    have next : (n + 1) / 1000 = n / 1000 + 1 := by omega
    have last : 1000 * (n / 1000 + 1) = n + 1 := by omega
    rw [next, List.range_succ, List.map_append, List.map_singleton, last]
  · next part =>
    have same : (n + 1) / 1000 = n / 1000 := by omega
    rw [same, List.append_nil]

/-- A counter with room for one more piece counts it. -/
lemma Status.toNat_recordPiece {s : Status} (room : s.pieces.toNat + 1 < UInt64.size)
    (size : Nat) : (s.recordPiece size).pieces.toNat = s.pieces.toNat + 1 := by
  simp only [recordPiece]
  rw [UInt64.toNat_add]
  exact Nat.mod_eq_of_lt room

/-- A piece that is counted is told exactly if it is the next milestone. -/
lemma Status.progress_afterWrite {s : Status} (room : s.pieces.toNat + 1 < UInt64.size)
    (size : Nat) :
    milestones s.pieces.toNat ++ Journal.progress (s.afterWrite size none).journal =
      milestones (s.recordPiece size).pieces.toNat := by
  have counted := toNat_recordPiece room size
  have tells : (s.recordPiece size).pieces % progressInterval = 0 ↔
      (s.pieces.toNat + 1) % 1000 = 0 := by
    rw [← UInt64.toNat_inj, UInt64.toNat_mod, counted]
    rfl
  rw [counted, milestones_succ]
  simp only [afterWrite, tells]
  split
  · rw [← counted]
    rfl
  · rfl

/-! ## A run -/

namespace Run

variable {t : Task} {h : History} {r r' : Run} {m : Move}

/-- Whether a run has told of the milestones up to the number of pieces that it has counted. It has
counted no more than were written, and one less when it has just written one. -/
structure Paced (h : History) (r : Run) : Prop where
  behind : r.status.pieces.toNat + r.phase.uncounted.length ≤ h.writes.length
  told : h.writes.length < UInt64.size → r.journal.progress = milestones r.status.pieces.toNat

/-- No move takes a write back. -/
lemma length_writes_le (h : History) (r : Run) (m : Move) :
    h.writes.length ≤ (h.after r m).writes.length := by
  cases m <;> simp [History.after]

/-- No move writes more than one piece. -/
lemma length_writes_historyFrom_le (r : Run) (h : History) (ms : List Move) :
    (r.historyFrom t h ms).writes.length ≤ h.writes.length + ms.length := by
  induction ms generalizing r h with
  | nil => exact Nat.le_refl _
  | cons m ms ih =>
    have one : (h.after r m).writes.length ≤ h.writes.length + 1 := by
      cases m with
      | push n =>
        simp only [History.after, List.length_append]
        exact Nat.add_le_add_left (Option.length_toList_le) _
      | _ => exact Nat.le_succ _
    rw [historyFrom, List.length_cons]
    split
    · omega
    · next r' _ =>
      have later := ih r' (h.after r m)
      omega

/-- There are no more writes than moves. -/
lemma length_writes_history_le (t : Task) (r : Run) (ms : List Move) :
    (r.history t ms).writes.length ≤ ms.length :=
  (Nat.zero_add ms.length) ▸ length_writes_historyFrom_le r {} ms

namespace Paced

/-- What counts nothing and tells of no progress keeps the pace. -/
lemma stay (paced : r.Paced h) (m : Move)
    (place : r'.phase.uncounted.length ≤ r.phase.uncounted.length)
    (pieces : r'.status.pieces = r.status.pieces)
    (journal : r'.journal.progress = r.journal.progress) : r'.Paced (h.after r m) where
  behind := by
    have kept := length_writes_le h r m
    have behind := paced.behind
    rw [pieces]
    omega
  told few := by
    rw [journal, pieces]
    exact paced.told (Nat.lt_of_le_of_lt (length_writes_le h r m) few)

/-- A move leaves the journal as far as the counter. -/
lemma goes (paced : r.Paced h) (step : Goes t r m r') : r'.Paced (h.after r m) := by
  cases step with
  | @count piece rest place =>
    have behind : r.status.pieces.toNat + 1 ≤ h.writes.length := by
      have behind := paced.behind
      rwa [place] at behind
    refine ⟨?behind, ?told⟩
    case behind =>
      -- A counter that wraps falls behind all the more.
      have wraps :
          (r.status.recordPiece piece.length).pieces.toNat ≤ r.status.pieces.toNat + 1 := by
        simp only [Status.recordPiece]
        rw [UInt64.toNat_add]
        exact Nat.mod_le _ _
      exact Nat.le_trans wraps behind
    case told =>
      intro few
      show Journal.progress (r.journal ++ _) = _
      rw [Journal.progress_append, paced.told few]
      exact Status.progress_afterWrite (Nat.lt_of_le_of_lt behind few) piece.length
  | @pushRest piece left rest place here =>
    have done : r.completed left.length = some piece := by simp [completed, place, here]
    have more : (h.after r (.push left.length)).writes.length = h.writes.length + 1 := by
      simp [History.after, done]
    refine ⟨?behind, ?told⟩
    case behind =>
      rw [more]
      have behind := paced.behind
      rw [place] at behind
      exact Nat.succ_le_succ behind
    case told =>
      intro few
      rw [more] at few
      exact paced.told (Nat.lt_of_succ_lt few)
  | mark place => exact paced.stay .work (Nat.zero_le _) (Outcome.mark_pieces _ _) rfl
  | tell place =>
    exact paced.stay .work (Nat.zero_le _) rfl
      (Journal.progress_concat (Outcome.progress?_verdict _ _) _)
  | lackClient => exact paced.stay _ (Nat.zero_le _) rfl (Journal.progress_concat rfl _)
  | connect => exact paced.stay _ (Nat.zero_le _) rfl (Journal.progress_concat rfl _)
  | lose => exact paced.stay _ (Nat.zero_le _) rfl (Journal.progress_concat rfl _)
  | recordPanic => exact paced.stay _ (Nat.zero_le _) rfl (Journal.progress_concat rfl _)
  | close => exact paced.stay _ (Nat.zero_le _) rfl (Journal.progress_concat rfl _)
  | accept => exact paced.stay _ (Nat.zero_le _) rfl (Journal.progress_concat rfl _)
  | resolve => exact paced.stay _ (Nat.le_refl _) rfl (Journal.progress_concat rfl _)
  | clear | notify | tryClose | read | leave => exact paced.stay _ (Nat.le_refl _) rfl rfl
  | _ => exact paced.stay _ (Nat.zero_le _) rfl rfl

/-- The journal is as far as the counter, whatever moves are made. -/
lemma of_leads (leads : Leads t .fresh h r) : r.Paced h := by
  induction leads with
  | refl => exact ⟨Nat.le_refl _, fun _ => rfl⟩
  | move _ step ih => exact ih.goes (.of_step step)

end Paced

end Run

/-! ## One call after the other -/

/-- The journals of calls, one after the other. -/
def toldBy {σ : Type} (calls : List (Forwarded σ)) : Journal := calls.flatMap (·.journal)

section Calls

variable {σ : Type} {write : Writer σ} {size : Nat} {s : Status} {w : σ} {f : Forwarded σ}
  {pieces chunks : List Bytes}

/-- Whether a journal tells of the milestones between two numbers of pieces, of which the second
counts `pieces` on from the first. -/
structure Journal.Bridges (journal : Journal) (n : Nat) (pieces : List Bytes) (n' : Nat) :
    Prop where
  told : milestones n ++ journal.progress = milestones n'
  counted : n' = n + pieces.length

/-- What leads from number to number can be put together. -/
lemma Journal.Bridges.trans {j k : Journal} {n n' n'' : Nat} {as bs : List Bytes}
    (front : j.Bridges n as n') (back : k.Bridges n' bs n'') :
    (j ++ k).Bridges n (as ++ bs) n'' where
  told := by rw [progress_append, ← List.append_assoc, front.told, back.told]
  counted := by rw [back.counted, front.counted, List.length_append, Nat.add_assoc]

/-- A call tells of the milestones between the numbers that it counts from and to. -/
lemma Forwards.bridges (fwd : Forwards write pieces s w f) (spares : write.Spares Status.pieces)
    (few : s.pieces.toNat + (succeeded f.attempts).length < UInt64.size) :
    f.journal.Bridges s.pieces.toNat (succeeded f.attempts) f.status.pieces.toNat := by
  induction fwd with
  | done | halted => exact ⟨List.append_nil _, rfl⟩
  | cut _ fails | lost _ fails =>
    have kept := congrArg UInt64.toNat (spares.eq fails)
    exact ⟨(List.append_nil _).trans (congrArg _ kept.symm), kept⟩
  | @wrote piece rest s s' w w' f _ writes _ ih =>
    -- The callback may change the rest of the status, but what is counted is what stood before it.
    have kept : s'.pieces = s.pieces := spares.eq writes
    have few' : s'.pieces.toNat + 1 + (succeeded f.attempts).length < UInt64.size := by
      have length : (succeeded (⟨piece, none⟩ :: f.attempts)).length =
        (succeeded f.attempts).length + 1 := rfl
      rw [length] at few
      rw [kept]
      omega
    have room : s'.pieces.toNat + 1 < UInt64.size := by omega
    have counted := Status.toNat_recordPiece room piece.length
    have here : (s'.afterWrite piece.length none).journal.Bridges s.pieces.toNat [piece]
        (s'.recordPiece piece.length).pieces.toNat := by
      rw [← kept]
      exact ⟨Status.progress_afterWrite room piece.length, counted⟩
    exact here.trans (ih (counted ▸ few'))

/-- Several calls tell of the milestones between the numbers that they count from and to. -/
lemma bridges_forwardEach (spares : write.Spares Status.pieces)
    (few : s.pieces.toNat + (succeeded
      ((forwardEach write size chunks s w).flatMap (·.attempts))).length < UInt64.size) :
    (toldBy (forwardEach write size chunks s w)).Bridges s.pieces.toNat
      (succeeded ((forwardEach write size chunks s w).flatMap (·.attempts)))
      (leftBy s (forwardEach write size chunks s w)).pieces.toNat := by
  induction chunks generalizing s w with
  | nil => exact ⟨List.append_nil _, rfl⟩
  | cons chunk chunks ih =>
    have fwd : Forwards write (chunk.pieces size) s w (forward write size chunk s w) :=
      forwards ..
    simp only [forwardEach] at few ⊢
    generalize forward write size chunk s w = f at few fwd ⊢
    rw [List.flatMap_cons, succeeded_append] at few ⊢
    rw [List.length_append] at few
    have here := fwd.bridges spares (by omega)
    -- The call has counted its own pieces, so that the later ones fit in behind them.
    have few' : f.status.pieces.toNat +
        (succeeded ((forwardEach write size chunks f.status f.writer).flatMap
          (·.attempts))).length < UInt64.size := by
      rw [here.counted]
      omega
    exact here.trans (ih few')

end Calls

/-! ## Either way -/

/-- Whether a journal tells of the multiples of a thousand up to `n`, each once and in order, and of
no other progress. -/
structure Journal.Tells (journal : Journal) (n : Nat) : Prop where
  progress : journal.progress = milestones n
  lines : journal.progressLines =
    (milestones n).map fun n => s!"DEBUG HTTP reader streamed chunks chunks={n}"

/-- With the numbers of the milestones, a journal has their lines. -/
lemma Journal.Tells.of_progress {journal : Journal} {n : Nat}
    (progress : journal.progress = milestones n) : journal.Tells n where
  progress := progress
  lines := journal.progressLines_eq.trans (congrArg _ progress)

/-- A run tells of every thousandth piece, however its pieces lie in the chunks that it receives and
however it ends, and so do calls of which each counts on from where the one before it got to. -/
theorem progress_told :
    (∀ (t : Task) (ms : List Move) (r : Run), Run.fresh.steps t ms = some r →
      (Run.fresh.history t ms).writes.length < UInt64.size →
        r.journal.Tells r.status.pieces.toNat) ∧
    ∀ {σ : Type} (write : Writer σ) (size : Nat) (chunks : List Bytes) (s : Status) (w : σ),
      write.Spares Status.pieces → s.pieces = 0 →
        (succeeded
          ((forwardEach write size chunks s w).flatMap (·.attempts))).length < UInt64.size →
        (toldBy (forwardEach write size chunks s w)).Tells
          (leftBy s (forwardEach write size chunks s w)).pieces.toNat := by
  refine ⟨?run, ?calls⟩
  case run =>
    intro t ms r steps few
    exact .of_progress ((Run.Paced.of_leads (.of_steps steps)).told few)
  case calls =>
    intro σ write size chunks s w spares none few
    have zero : s.pieces.toNat = 0 := by rw [none]; rfl
    have few' : s.pieces.toNat + (succeeded
        ((forwardEach write size chunks s w).flatMap (·.attempts))).length < UInt64.size := by
      rwa [zero, Nat.zero_add]
    have told := (bridges_forwardEach spares few').told
    rw [zero] at told
    exact .of_progress told

/-- A task that cuts chunks into single bytes. -/
def byBytes : Task := { url := "http://a/", chunkSize := 1 }

/-- The thousandth piece is the first of the second chunk, and the run is stopped right after it. -/
def stoppedAtThousand : List Move :=
  [.work, .work, .reply (.answered 200), .work, .work, .receive (.chunk (.replicate 999 0))] ++
  (List.replicate 999 [.work, .work, .push 1, .work]).flatten ++
  [.work, .work, .work, .receive (.chunk [1, 2]), .work, .work, .push 1, .work, .clear, .work]

/-- The same chunks and the same stop, with one call a chunk. -/
def forwardedToThousand : List (Forwarded (List (Option String × Bool))) :=
  forwardEach obey 1 [.replicate 999 0, [1, 2]] .fresh
    (.replicate 999 (none, false) ++ [(none, true)])

/-- A run that is stopped at its thousandth piece has told of it, and so have the calls that forward
the same chunks. -/
theorem progress_told_stoppedAtThousand :
    (∃ r, Run.fresh.steps byBytes stoppedAtThousand = some r ∧
      (Run.fresh.history byBytes stoppedAtThousand).writes.length < UInt64.size ∧
      r.journal.progressLines = ["DEBUG HTTP reader streamed chunks chunks=1000"]) ∧
    (succeeded (forwardedToThousand.flatMap (·.attempts))).length < UInt64.size ∧
    (toldBy forwardedToThousand).progress = [1000] := by
  obtain ⟨run, calls⟩ := progress_told
  refine ⟨?stopped, ?forwarded⟩
  case stopped =>
    have counted : (Run.fresh.steps byBytes stoppedAtThousand).map (·.status.pieces) =
        some 1000 := by decide +kernel
    have length : stoppedAtThousand.length < UInt64.size := by decide +kernel
    have few : (Run.fresh.history byBytes stoppedAtThousand).writes.length < UInt64.size :=
      Nat.lt_of_le_of_lt (Run.length_writes_history_le _ _ _) length
    obtain ⟨r, steps, pieces⟩ := Option.map_eq_some_iff.1 counted
    have tells := run _ _ r steps few
    rw [pieces] at tells
    exact ⟨r, steps, few, tells.lines⟩
  case forwarded =>
    have spares : obey.Spares Status.pieces := by
      rintro piece s (_ | ⟨⟨failure, _ | _⟩, rest⟩) <;> rfl
    have few : (succeeded (forwardedToThousand.flatMap (·.attempts))).length < UInt64.size := by
      decide +kernel
    have tells := calls obey 1 _ .fresh _ spares rfl few
    have left : (leftBy .fresh forwardedToThousand).pieces = 1000 := by decide +kernel
    rw [forwardedToThousand] at left
    rw [left] at tells
    exact ⟨few, tells.progress⟩

end StreamRelay
