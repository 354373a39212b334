import Mathlib.Logic.Basic
import Mathlib.Tactic.Lemma
import StreamRelay.Program.Basic

/-!
# What a scan of diagnostics shows

Diagnostics are cut into lines, which are numbered from 1 on and searched one after the other up to
the first that is no text. How lines are cut is told by a relation of its own, and what is shown of
them by the places at which they stand.

Main statement: a scan shows exactly those lines that tell of a failed look-up, and its exit code
tells whether there are any (`scan_shows_matches`).
-/

namespace StreamRelay

/-! ## Lines -/

namespace Bytes

/-- A line without the carriage return that it ends with. -/
def withoutReturn (line : Bytes) : Bytes :=
  if line.getLast? = some carriageReturn then line.dropLast else line

/-- How a byte string is cut into lines: at each line feed, before which one carriage return is no
part of the line, and with a last line that has no line feed unless it would be empty. -/
inductive Cut : Bytes → List Bytes → Prop
  | none : Cut [] []
  | last {line : Bytes} (ne : line ≠ []) (one : lineFeed ∉ line) : Cut line [line]
  | next {line rest : Bytes} {ls : List Bytes} (one : lineFeed ∉ line) (cut : Cut rest ls) :
    Cut (line ++ lineFeed :: rest) (withoutReturn line :: ls)

variable {line bs rest : Bytes} {ls : List Bytes}

/-- To drop the return in front of a reversed line is to drop it behind the line. -/
lemma reverse_dropReturn (line : Bytes) :
    (dropReturn line.reverse).reverse = withoutReturn line := by
  rcases List.eq_nil_or_concat line with rfl | ⟨front, b, rfl⟩
  · rfl
  · rw [List.concat_eq_append, List.reverse_append]
    simp only [List.reverse_singleton, List.singleton_append, dropReturn, withoutReturn]
    by_cases back : b = carriageReturn <;> simp [back]

/-- Up to the next line feed all belongs to the current line. -/
lemma linesAfter_append_lineFeed (one : lineFeed ∉ bs) (line rest : Bytes) :
    linesAfter line (bs ++ lineFeed :: rest) =
      withoutReturn (line.reverse ++ bs) :: lines rest := by
  induction bs generalizing line with
  | nil =>
    rw [List.append_nil, ← reverse_dropReturn, List.reverse_reverse, List.nil_append, linesAfter,
      if_pos rfl]
    rfl
  | cons b bs ih =>
    obtain ⟨other, one⟩ := not_or.1 (fun mem => one (List.mem_cons.2 mem))
    rw [List.cons_append, linesAfter, if_neg (Ne.symm other), ih one, List.reverse_cons,
      List.append_assoc]
    rfl

/-- Bytes without a line feed are the rest of the last line, if there is one. -/
lemma linesAfter_of_not_mem (one : lineFeed ∉ bs) (line : Bytes) :
    linesAfter line bs = if line.reverse ++ bs = [] then [] else [line.reverse ++ bs] := by
  induction bs generalizing line with
  | nil => simp [linesAfter]
  | cons b bs ih =>
    obtain ⟨other, one⟩ := not_or.1 (fun mem => one (List.mem_cons.2 mem))
    rw [linesAfter, if_neg (Ne.symm other), ih one, List.reverse_cons, List.append_assoc]
    rfl

/-- A line without a line feed in it is cut off at the next. -/
lemma cut_linesAfter (one : lineFeed ∉ line) (bs : Bytes) :
    Cut (line.reverse ++ bs) (linesAfter line bs) := by
  -- The start of the current line is held back to front, and no line feed is in it so far.
  induction bs generalizing line with
  | nil =>
    rw [List.append_nil]
    cases line with
    | nil => exact .none
    | cons b line => exact .last (by simp) (fun mem => one (List.mem_reverse.1 mem))
  | cons b bs ih =>
    by_cases feed : b = lineFeed
    · subst feed
      rw [linesAfter, if_pos rfl, ← List.reverse_reverse line, List.reverse_reverse line.reverse,
        reverse_dropReturn]
      exact .next (fun mem => one (List.mem_reverse.1 mem)) (ih List.not_mem_nil)
    · have one' : lineFeed ∉ b :: line := fun mem =>
        (List.mem_cons.1 mem).elim (Ne.symm feed) one
      have cut := ih one'
      rw [List.reverse_cons, List.append_assoc] at cut
      rw [linesAfter, if_neg feed]
      exact cut

/-- A byte string is cut into its lines, and in no other way. -/
theorem cut_iff : Cut bs ls ↔ ls = bs.lines := by
  constructor
  case mp =>
    intro cut
    induction cut with
    | none => rfl
    | last ne one => rw [lines, linesAfter_of_not_mem one]; exact (if_neg ne).symm
    | next one _ ih => rw [lines, linesAfter_append_lineFeed one, ih]; rfl
  case mpr =>
    rintro rfl
    exact cut_linesAfter List.not_mem_nil bs

/-- The bytes of one text behind another are those of both. -/
lemma ofText_append (s t : String) : ofText (s ++ t) = ofText s ++ ofText t := by
  simp only [ofText, ByteArray.toList, toList_loop, String.toUTF8_eq_toByteArray]
  simp

def IsText (line : Bytes) : Prop := (text? line).isSome = true

instance : DecidablePred IsText := fun _ => inferInstanceAs (Decidable (_ = true))

end Bytes

/-! ## What is found -/

namespace Scan

open Bytes (IsText)

variable {n i : Nat} {line : Bytes} {ls : List Bytes} {t : String}

/-- The text of a line tells of a failed look-up. -/
def Tells (line : Bytes) (t : String) : Prop :=
  Bytes.text? line = some t ∧ Resolution.mentionsFailure t = true

/-- Of lines that are numbered from `n` on, the one with number `i` tells of a failed look-up by its
text `t`, and all before it are text. -/
def Shows (n : Nat) (ls : List Bytes) (i : Nat) (t : String) : Prop :=
  ∃ front line back, ls = front ++ line :: back ∧ i = n + front.length ∧ Tells line t ∧
    ∀ l ∈ front, IsText l

def raise (k : Nat) (entry : Nat × String) : Nat × String := (entry.1 + k, entry.2)

/-- What is shown of the lines that were found. -/
def shown (found : List (Nat × String)) : Bytes := Bytes.ofText (String.join (found.map lineText))

/-- What is shown of two lists is shown of one after the other. -/
lemma shown_append (found found' : List (Nat × String)) :
    shown (found ++ found') = shown found ++ shown found' := by
  rw [shown, List.map_append, String.join_append, Bytes.ofText_append]
  rfl

/-- Without lines nothing is shown. -/
lemma not_shows_nil : ¬ Shows n [] i t := by
  rintro ⟨front, line, back, whole, -⟩
  exact List.append_ne_nil_of_right_ne_nil front (List.cons_ne_nil line back) whole.symm

/-- The first line is shown, or one of the others behind a text. -/
lemma shows_cons_iff :
    Shows n (line :: ls) i t ↔ (i = n ∧ Tells line t) ∨ (IsText line ∧ Shows (n + 1) ls i t) := by
  constructor
  case mp =>
    rintro ⟨front, hit, back, whole, number, tells, texts⟩
    cases front with
    | nil =>
      obtain ⟨rfl, rfl⟩ := List.cons.inj whole
      exact .inl ⟨number, tells⟩
    | cons l front =>
      obtain ⟨rfl, rfl⟩ := List.cons.inj whole
      obtain ⟨isText, texts⟩ := List.forall_mem_cons.1 texts
      refine .inr ⟨isText, front, hit, back, rfl, ?_, tells, texts⟩
      rw [number, List.length_cons]
      omega
  case mpr =>
    rintro (⟨rfl, tells⟩ | ⟨isText, front, hit, back, rfl, rfl, tells, texts⟩)
    · exact ⟨[], line, ls, rfl, rfl, tells, fun _ mem => nomatch mem⟩
    · refine ⟨line :: front, hit, back, rfl, ?_, tells, List.forall_mem_cons.2 ⟨isText, texts⟩⟩
      rw [List.length_cons]
      omega

/-- No line is shown with a number below that of the first. -/
lemma Shows.le_number (hit : Shows n ls i t) : n ≤ i := by
  obtain ⟨front, -, -, -, rfl, -⟩ := hit
  exact Nat.le_add_right n front.length

/-- Among lines of text, each that tells of a failed look-up has a number. -/
lemma exists_shows_iff (texts : ∀ l ∈ ls, IsText l) :
    (∃ i t, Shows n ls i t) ↔ ∃ l ∈ ls, ∃ t, Tells l t := by
  constructor
  case mp =>
    rintro ⟨i, t, front, line, back, rfl, -, tells, -⟩
    exact ⟨line, List.mem_append_right front List.mem_cons_self, t, tells⟩
  case mpr =>
    rintro ⟨line, mem, t, tells⟩
    obtain ⟨front, back, rfl⟩ := List.append_of_mem mem
    exact ⟨n + front.length, t, front, line, back, rfl, rfl, tells, fun l mem =>
      texts l (List.mem_append_left _ mem)⟩

/-- What is found are the lines that tell of a failed look-up, up to the first that is no text. -/
lemma mem_found_iff : (i, t) ∈ (scanLines n ls).found ↔ Shows n ls i t := by
  fun_induction scanLines n ls with
  | case1 n => exact iff_of_false List.not_mem_nil not_shows_nil
  | case2 n line rest noText =>
    rw [shows_cons_iff, Tells, IsText, noText]
    simp
  | case3 n line rest text isText later hit ih =>
    rw [shows_cons_iff, ← ih, List.mem_cons, Tells, IsText, isText]
    simp only [Prod.mk.injEq, Option.some.injEq, Option.isSome_some, true_and]
    refine or_congr_left (and_congr_right fun _ => ⟨?_, fun tells => tells.1.symm⟩)
    rintro rfl
    exact ⟨rfl, hit⟩
  | case4 n line rest text isText later miss ih =>
    rw [shows_cons_iff, ← ih, Tells, IsText, isText]
    simp only [Option.some.injEq, Option.isSome_some, true_and]
    refine (or_iff_right ?_).symm
    rintro ⟨-, rfl, hit⟩
    exact miss hit

/-- Lines are found in their order, and each only once. -/
lemma pairwise_found (n : Nat) (ls : List Bytes) :
    (scanLines n ls).found.Pairwise fun a b => a.1 < b.1 := by
  fun_induction scanLines n ls with
  | case1 n | case2 n line rest noText => exact .nil
  | case3 n line rest text isText later hit ih =>
    exact List.pairwise_cons.2 ⟨fun _ mem => (mem_found_iff.1 mem).le_number, ih⟩
  | case4 n line rest text isText later miss ih => exact ih

/-- A scan comes to the end of its lines exactly if all of them are texts. -/
lemma complete_iff : (scanLines n ls).complete = true ↔ ∀ l ∈ ls, IsText l := by
  fun_induction scanLines n ls with
  | case1 n => exact iff_of_true rfl (fun _ mem => nomatch mem)
  | case2 n line rest noText =>
    rw [List.forall_mem_cons, IsText, noText]
    simp
  | case3 n line rest text isText later hit ih | case4 n line rest text isText later hit ih =>
    rw [List.forall_mem_cons, ← ih, IsText, isText]
    exact (and_iff_right rfl).symm

/-- A scan of texts finds nothing exactly if none of them tells of a failed look-up. -/
lemma found_eq_nil_iff (texts : ∀ l ∈ ls, IsText l) :
    (scanLines n ls).found = [] ↔ ¬ ∃ l ∈ ls, ∃ t, Tells l t := by
  rw [← exists_shows_iff texts, List.eq_nil_iff_forall_not_mem]
  constructor
  · rintro none ⟨i, t, hit⟩
    exact none (i, t) (mem_found_iff.2 hit)
  · rintro none ⟨i, t⟩ mem
    exact none ⟨i, t, mem_found_iff.1 mem⟩

/-- Where the numbers begin makes no other difference. -/
lemma found_scanLines_add (n k : Nat) (ls : List Bytes) :
    (scanLines (n + k) ls).found = (scanLines n ls).found.map (raise k) := by
  fun_induction scanLines n ls with
  | case1 n => rfl
  | case2 n line rest noText => rw [scanLines, noText]; rfl
  | case3 n line rest text isText later hit ih =>
    rw [scanLines, isText]
    simp only [hit, if_true, List.map_cons]
    rw [Nat.add_right_comm, ih]
    rfl
  | case4 n line rest text isText later miss ih =>
    rw [scanLines, isText]
    simp only [miss]
    rw [Nat.add_right_comm, ← ih]
    rfl

/-- Behind lines of text the search goes on, with numbers raised by as many as these lines are. -/
lemma found_append (n : Nat) {as : List Bytes} (texts : ∀ l ∈ as, IsText l) (bs : List Bytes) :
    (scanLines n (as ++ bs)).found =
      (scanLines n as).found ++ (scanLines n bs).found.map (raise as.length) := by
  rw [scanLines_append n as bs (complete_iff.2 texts), ← found_scanLines_add]
  rfl

end Scan

/-! ## What is left behind -/

open Scan
open Bytes (IsText)

namespace Result

def Alarms (r : Result) : Prop := r.fault = none ∧ r.code = Exit.dnsFailureCode

def Succeeds (r : Result) : Prop := r.fault = none ∧ r.code = 0

/-- A program fails because the diagnostics are no text. -/
def Breaks (r : Result) : Prop := r.fault = some .diagnostics ∧ r.code = failureCode

end Result

/-- What is left behind when an input that is cut into the lines `ls` has been scanned, where `found`
are the lines that are shown, with their numbers. -/
structure Scanned (w : Surroundings) (ls : List Bytes) (found : List (Nat × String)) : Prop where
  cut : ∀ ms, Bytes.Cut w.input ms ↔ ms = ls
  inOrder : found.Pairwise fun a b => a.1 < b.1
  mem_iff : ∀ i t, (i, t) ∈ found ↔ Shows 1 ls i t
  stdout : (scanDiagnostics w).stdout = shown found
  alarms_iff : (scanDiagnostics w).Alarms ↔
    (∀ l ∈ ls, IsText l) ∧ ∃ l ∈ ls, ∃ t, Tells l t
  succeeds_iff : (scanDiagnostics w).Succeeds ↔
    (∀ l ∈ ls, IsText l) ∧ ¬ ∃ l ∈ ls, ∃ t, Tells l t
  breaks_iff : (scanDiagnostics w).Breaks ↔ ∃ l ∈ ls, ¬ IsText l

/-- What is left behind by the scan of two inputs, one after the other, told by what the scans of each
leave behind. -/
structure GoesOn (w : Surroundings) (a b : Bytes) (found found' : List (Nat × String)) : Prop where
  first : Scanned { w with input := a } a.lines found
  second : Scanned { w with input := b } b.lines found'
  both : Scanned { w with input := a ++ b } (a.lines ++ b.lines)
    (found ++ found'.map (raise a.lines.length))
  stdout : (scanDiagnostics { w with input := a ++ b }).stdout =
    (scanDiagnostics { w with input := a }).stdout ++ shown (found'.map (raise a.lines.length))
  alarms_iff : (scanDiagnostics { w with input := a ++ b }).Alarms ↔
    (scanDiagnostics { w with input := a }).Alarms ∨ (scanDiagnostics { w with input := b }).Alarms

variable {w : Surroundings}

/-- A scan writes what it shows of the lines that it has found. -/
lemma stdout_scanDiagnostics (w : Surroundings) :
    (scanDiagnostics w).stdout = shown (scanLines 1 w.input.lines).found := by
  simp only [scanDiagnostics]
  split <;> rfl

/-- A scan that finds something among texts says so by its exit code. -/
lemma alarms_of_tells (texts : ∀ l ∈ w.input.lines, IsText l)
    (tells : ∃ l ∈ w.input.lines, ∃ t, Tells l t) : (scanDiagnostics w).Alarms := by
  have complete : (Scan.ofBytes w.input).complete = true := complete_iff.2 texts
  have some_ : (Scan.ofBytes w.input).found.isEmpty = false :=
    List.isEmpty_eq_false_iff.2 (fun none_ => (found_eq_nil_iff texts).1 none_ tells)
  rw [Result.Alarms, scanDiagnostics, if_pos complete, some_]
  exact ⟨rfl, rfl⟩

/-- A scan that finds nothing among texts succeeds. -/
lemma succeeds_of_not_tells (texts : ∀ l ∈ w.input.lines, IsText l)
    (silent : ¬ ∃ l ∈ w.input.lines, ∃ t, Tells l t) : (scanDiagnostics w).Succeeds := by
  have complete : (Scan.ofBytes w.input).complete = true := complete_iff.2 texts
  have none_ : (Scan.ofBytes w.input).found.isEmpty = true :=
    List.isEmpty_iff.2 ((found_eq_nil_iff texts).2 silent)
  rw [Result.Succeeds, scanDiagnostics, if_pos complete, none_]
  exact ⟨rfl, rfl⟩

/-- A scan breaks off at a line that is no text. -/
lemma breaks_of_not_texts (broken : ¬ ∀ l ∈ w.input.lines, IsText l) :
    (scanDiagnostics w).Breaks := by
  have incomplete : ¬ (Scan.ofBytes w.input).complete = true := mt complete_iff.1 broken
  rw [Result.Breaks, scanDiagnostics, if_neg incomplete]
  exact ⟨rfl, rfl⟩

namespace Result

variable {r : Result}

/-- A scan that has found something does not end as if there were nothing. -/
lemma Alarms.not_succeeds (alarms : r.Alarms) : ¬ r.Succeeds := by
  rintro ⟨-, zero⟩
  exact absurd (alarms.2.symm.trans zero) (by decide)

/-- A scan that has found something in texts does not break off. -/
lemma Alarms.not_breaks (alarms : r.Alarms) : ¬ r.Breaks := by
  rintro ⟨fault, -⟩
  exact nomatch alarms.1.symm.trans fault

/-- A scan that succeeds does not break off. -/
lemma Succeeds.not_breaks (succeeds : r.Succeeds) : ¬ r.Breaks := by
  rintro ⟨fault, -⟩
  exact nomatch succeeds.1.symm.trans fault

end Result

/-- Every scan shows what it finds, and ends in the one of three ways that the lines ask for. -/
lemma scanned (w : Surroundings) :
    Scanned w w.input.lines (scanLines 1 w.input.lines).found := by
  refine
    { cut := fun ms => Bytes.cut_iff
      inOrder := pairwise_found 1 w.input.lines
      mem_iff := fun i t => mem_found_iff
      stdout := stdout_scanDiagnostics w
      alarms_iff := ?alarms
      succeeds_iff := ?succeeds
      breaks_iff := ?breaks }
  -- The lines ask for one of three ends, and these exclude each other.
  case alarms =>
    refine ⟨fun alarms => ?_, fun asked => alarms_of_tells asked.1 asked.2⟩
    have texts := not_imp_comm.1 breaks_of_not_texts alarms.not_breaks
    exact ⟨texts, not_imp_comm.1 (succeeds_of_not_tells texts) alarms.not_succeeds⟩
  case succeeds =>
    refine ⟨fun succeeds => ?_, fun asked => succeeds_of_not_tells asked.1 asked.2⟩
    have texts := not_imp_comm.1 breaks_of_not_texts succeeds.not_breaks
    exact ⟨texts, fun tells => (alarms_of_tells texts tells).not_succeeds succeeds⟩
  case breaks =>
    have broken_iff : (¬ ∀ l ∈ w.input.lines, IsText l) ↔ ∃ l ∈ w.input.lines, ¬ IsText l := by
      simp only [not_forall, exists_prop]
    rw [← broken_iff]
    refine ⟨fun breaks texts => ?_, breaks_of_not_texts⟩
    by_cases tells : ∃ l ∈ w.input.lines, ∃ t, Tells l t
    · exact (alarms_of_tells texts tells).not_breaks breaks
    · exact (succeeds_of_not_tells texts tells).not_breaks breaks

/-- Among texts, the exit code says whether one of them tells of a failed look-up. -/
lemma Scanned.alarms_of_texts {ls : List Bytes} {found : List (Nat × String)}
    (scan : Scanned w ls found) (texts : ∀ l ∈ ls, IsText l) :
    (scanDiagnostics w).Alarms ↔ ∃ l ∈ ls, ∃ t, Tells l t :=
  scan.alarms_iff.trans (and_iff_right texts)

/-- The scan of an input that ends with a line feed goes on with the input behind it. -/
lemma goesOn {a b : Bytes} (feed : a.getLast? = some Bytes.lineFeed)
    (texts : ∀ l ∈ a.lines, IsText l) (texts' : ∀ l ∈ b.lines, IsText l) :
    GoesOn w a b (scanLines 1 a.lines).found (scanLines 1 b.lines).found := by
  have first := scanned { w with input := a }
  have second := scanned { w with input := b }
  have both : Scanned { w with input := a ++ b } (a.lines ++ b.lines)
      ((scanLines 1 a.lines).found ++ (scanLines 1 b.lines).found.map (raise a.lines.length)) := by
    obtain ⟨front, rfl⟩ := List.getLast?_eq_some_iff.1 feed
    rw [← found_append 1 texts, ← Bytes.lines_append]
    exact scanned { w with input := front ++ [Bytes.lineFeed] ++ b }
  refine { first, second, both, stdout := ?stdout, alarms_iff := ?alarms }
  case stdout => rw [both.stdout, first.stdout, shown_append]
  case alarms =>
    rw [both.alarms_of_texts (List.forall_mem_append.2 ⟨texts, texts'⟩),
      first.alarms_of_texts texts, second.alarms_of_texts texts']
    simp only [List.mem_append, or_and_right, exists_or]

/-- A scan shows exactly the lines that tell of a failed look-up, in their order and with their
numbers, up to the first that is no text. It reports a failed look-up, succeeds or breaks off as these
lines ask for, and goes on from one input to the next. -/
theorem scan_shows_matches (w : Surroundings) :
    (∃ found, Scanned w w.input.lines found) ∧
      ∀ a b : Bytes, a.getLast? = some Bytes.lineFeed → (∀ l ∈ a.lines, IsText l) →
        (∀ l ∈ b.lines, IsText l) → ∃ found found', GoesOn w a b found found' :=
  ⟨⟨_, scanned w⟩, fun _ _ feed texts texts' => ⟨_, _, goesOn feed texts texts'⟩⟩

/-- The diagnostics of two programs, the first of which ends its lines with carriage returns. -/
def diagnostics : Bytes × Bytes :=
  (Bytes.ofText "dns_error\r\n", Bytes.ofText "retrying\nDNS_ERROR")

/-- The second line that is shown has the number 3 in both diagnostics together. -/
theorem scan_shows_matches_inTurn :
    ∃ found found', GoesOn { network := .isolated } diagnostics.1 diagnostics.2 found found' ∧
      (scanDiagnostics { network := .isolated, input := diagnostics.1 ++ diagnostics.2 }).stdout =
        Bytes.ofText "1: dns_error\n3: DNS_ERROR\n" := by
  obtain ⟨found, found', goesOn⟩ := (scan_shows_matches { network := .isolated }).2
    diagnostics.1 diagnostics.2 (by decide +kernel) (by decide +kernel) (by decide +kernel)
  exact ⟨found, found', goesOn, by decide +kernel⟩

end StreamRelay
