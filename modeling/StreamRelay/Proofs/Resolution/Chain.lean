import StreamRelay.Proofs.Fault.Walk

/-!
# Verdicts on chains

The verdict on a chain of faults is reached by a search through their joined texts, which are
lowered as a whole. Yet each fault is judged by itself: no phrase can reach across what joins two
texts, and the lower-case form of a text depends on what stands around it by its sigmas only, which
no phrase has.

Main statements: a phrase is found in joined texts exactly if it is found in one of them
(`occursIn_joined`), and a chain tells of a failed look-up exactly if one of its faults does
(`isFailure_iff`).
-/

namespace StreamRelay.Resolution

open Text

/-! ## Joined texts -/

/-- Joined texts in lower case are the texts in lower case, joined by the separator in lower case.
-/
lemma lowercase_intercalate (sep : List Char) (texts : List (List Char)) :
    lowercase (sep.intercalate texts) = (lowercase sep).intercalate (texts.map lowercase) := by
  induction texts with
  | nil => rfl
  | cons t texts ih =>
    cases texts with
    | nil => simp only [List.map_cons, List.map_nil, List.intercalate_singleton]
    | cons u texts =>
      rw [List.intercalate_cons_cons, lowercase_append, lowercase_append, ih]
      exact List.intercalate_cons_cons.symm

/-- What neither has a colon in it nor begins with a blank is not found across a separator. -/
lemma occursIn_intercalate {p : List Char} (nonempty : p ≠ []) (colon : ':' ∉ p)
    (blank : p.head? ≠ some ' ') (texts : List (List Char)) :
    occursIn p (separator.toList.intercalate texts) = texts.any (occursIn p) := by
  have sep : separator.toList = [':', ' '] := by decide
  obtain ⟨a, p, rfl⟩ := List.exists_cons_of_ne_nil nonempty
  have other : (a == ' ') = false := beq_false_of_ne (fun e => blank (congrArg some e))
  induction texts with
  | nil => rfl
  | cons t texts ih =>
    cases texts with
    | nil => rw [List.intercalate_singleton, List.any_cons, List.any_nil, Bool.or_false]
    | cons u texts =>
      rw [List.intercalate_cons_cons, sep, List.append_assoc, List.cons_append, List.cons_append,
        List.nil_append, occursIn_append_cons colon, occursIn, List.isPrefixOf, other,
        Bool.false_and, Bool.false_or, ← sep, ih]
      rfl

/-- A phrase is found in joined texts exactly if it is found in one of them. -/
theorem occursIn_joined {p : String} (mem : p ∈ phrases) (texts : List String) :
    occursIn p.toList (lowercaseText (separator.intercalate texts).toList) =
      texts.any (fun t => occursIn p.toList (lowercaseText t.toList)) := by
  have shapes : ∀ p ∈ phrases, p.toList ≠ [] ∧ ':' ∉ p.toList ∧ p.toList.head? ≠ some ' ' := by
    decide +kernel
  have sep : lowercase separator.toList = separator.toList := by decide
  obtain ⟨nonempty, colon, blank⟩ := shapes p mem
  rw [occursIn_lowercaseText mem, String.toList_intercalate, lowercase_intercalate, sep,
    occursIn_intercalate nonempty colon blank, List.map_map, List.any_map]
  apply congrArg texts.any
  funext t
  exact (occursIn_lowercaseText mem t.toList).symm

/-- Joined texts tell of a failed look-up exactly if one of them does. -/
lemma mentionsFailure_joined (texts : List String) :
    mentionsFailure (separator.intercalate texts) = texts.any mentionsFailure := by
  rw [Bool.eq_iff_iff, mentionsFailure, List.any_eq_true, List.any_eq_true]
  constructor
  · rintro ⟨p, mem, found⟩
    rw [occursIn_joined mem] at found
    obtain ⟨t, here, found⟩ := List.any_eq_true.1 found
    exact ⟨t, here, List.any_eq_true.2 ⟨p, mem, found⟩⟩
  · rintro ⟨t, here, found⟩
    obtain ⟨p, mem, found⟩ := List.any_eq_true.1 found
    refine ⟨p, mem, ?_⟩
    rw [occursIn_joined mem]
    exact List.any_eq_true.2 ⟨t, here, found⟩

/-! ## Chains -/

/-- The text of a trail is made of those of its faults. -/
lemma rendered_eq (trail : List Fault) :
    rendered trail = separator.intercalate (trail.map Fault.text) := by
  rw [← String.toList_inj, rendered, String.toList_ofList, String.toList_intercalate, List.map_map]
  rfl

/-- A trail tells of a failed look-up exactly if one of its faults is one or has a phrase in its own
text. -/
theorem isFailure_iff (trail : List Fault) :
    isFailure trail = true ↔
      ∃ f ∈ trail, f.isUnresolved = true ∨ mentionsFailure f.text = true := by
  rw [isFailure, rendered_eq, mentionsFailure_joined, List.any_map, Bool.or_eq_true,
    List.any_eq_true, List.any_eq_true]
  constructor
  · rintro (⟨f, mem, found⟩ | ⟨f, mem, found⟩)
    · exact ⟨f, mem, .inl found⟩
    · exact ⟨f, mem, .inr found⟩
  · rintro ⟨f, mem, found | found⟩
    · exact .inl ⟨f, mem, found⟩
    · exact .inr ⟨f, mem, found⟩

/-- What makes a chain of causes one of a failed look-up makes every longer one so. -/
lemma isFailure_of_subset {a b : List Fault} (within : a ⊆ b) (failed : isFailure a = true) :
    isFailure b = true := by
  obtain ⟨f, mem, found⟩ := (isFailure_iff a).1 failed
  exact (isFailure_iff b).2 ⟨f, within mem, found⟩

variable {ι : Type} [DecidableEq ι] {c : Causes ι} {i w : ι}

/-- A wrapper does not hide a failed look-up, unless the walk has come to its end by giving up. -/
lemma isFailure_of_cause (cause : c.cause w = some i) (short : (c.walk i).length < Causes.maxDepth)
    (failed : isFailure (c.trail i) = true) : isFailure (c.trail w) = true :=
  isFailure_of_subset (List.map_subset _ fun _ => Causes.mem_walk_of_mem_walk cause short) failed

/-- Each phrase is found in joined texts exactly if it is found in one of them, so that these tell
of a failed look-up exactly if one of them does. So it is with a chain of causes: the verdict on it
is that on one of the faults that a walk visits. A wrapper put in front of a chain that is visited
as a whole does not hide a failed look-up, whether it is new or one of the faults. -/
theorem verdict_of_faults :
    (∀ texts : List String,
      (∀ p ∈ phrases,
        (occursIn p.toList (lowercaseText (separator.intercalate texts).toList) = true ↔
          ∃ t ∈ texts, occursIn p.toList (lowercaseText t.toList) = true)) ∧
      (mentionsFailure (separator.intercalate texts) = true ↔
        ∃ t ∈ texts, mentionsFailure t = true)) ∧
    ∀ (ι : Type) [DecidableEq ι] (c : Causes ι) (i : ι),
      rendered (c.trail i) = separator.intercalate ((c.trail i).map Fault.text) ∧
      (isFailure (c.trail i) = true ↔
        ∃ f ∈ c.trail i, f.isUnresolved = true ∨ mentionsFailure f.text = true) ∧
      ((c.walk i).length < Causes.maxDepth → isFailure (c.trail i) = true →
        (∀ f, isFailure ((c.wrap f i).trail none) = true) ∧
          ∀ w, c.cause w = some i → isFailure (c.trail w) = true) := by
  refine ⟨?texts, ?chains⟩
  case texts =>
    intro texts
    refine ⟨?_, ?_⟩
    · intro p mem
      rw [occursIn_joined mem, List.any_eq_true]
    · rw [mentionsFailure_joined, List.any_eq_true]
  case chains =>
    intro ι _ c i
    refine ⟨rendered_eq _, isFailure_iff _, ?_⟩
    intro short failed
    refine ⟨?_, fun w cause => isFailure_of_cause cause short failed⟩
    intro f
    have behind : (c.wrap f i).cause none = some (some i) := rfl
    refine isFailure_of_cause behind ?_ ?_
    · rw [Causes.walk_wrap, List.length_map]
      exact short
    · rw [Causes.trail_wrap]
      exact failed

/-- Two faults that are caused by each other; the text of the second is a phrase in capitals, with a
Kelvin sign among them. -/
def inTurn : Causes Bool where
  fault
    | true => .plain "no stream"
    | false => .plain "NAME OR SERVICE NOT \u212ANOWN"
  cause i := some !i

/-- A failed look-up that the second of two faults tells of is told of by both, and by whatever
wraps them. -/
theorem verdict_of_faults_inTurn :
    (inTurn.walk true).length < Causes.maxDepth ∧ isFailure (inTurn.trail true) = true ∧
      isFailure ((inTurn.wrap (.plain "no relay") true).trail none) = true ∧
      inTurn.cause false = some true ∧ isFailure (inTurn.trail false) = true := by
  have short : (inTurn.walk true).length < Causes.maxDepth := by decide +kernel
  have told : mentionsFailure (inTurn.fault false).text = true := by decide +kernel
  have visited : inTurn.fault false ∈ inTurn.trail true := by decide +kernel
  obtain ⟨-, verdict, wrapped⟩ := verdict_of_faults.2 Bool inTurn true
  have failed := verdict.2 ⟨_, visited, .inr told⟩
  obtain ⟨front, within⟩ := wrapped short failed
  exact ⟨short, failed, front _, rfl, within false rfl⟩

end StreamRelay.Resolution
