import Mathlib.Data.List.TakeWhile
import Mathlib.Tactic.Lemma
import StreamRelay.Text.Blank

/-!
# The parts of a text

A text is cut at the first occurrence of a character, and the white space around a part is taken
away. Both are told here by what the text is put together from.

Main statements: what trimming leaves of a text is its core (`trim_eq_iff`), and a text either lacks
a character or is cut at the first one (`eq_or_exists_first`).
-/

namespace StreamRelay.Text

variable {cs core front back : List Char} {c : Char}

/-! ## The first occurrence of a character -/

/-- Every character of a text without another differs from it. -/
lemma bne_of_not_mem (lacks : c ∉ cs) : ∀ d ∈ cs, (d != c) = true := by
  intro d mem
  rw [bne_iff_ne]
  rintro rfl
  exact lacks mem

/-- What comes before the first of its kind is taken up to it. -/
lemma takeWhile_of_first (lacks : c ∉ front) :
    (front ++ c :: back).takeWhile (· != c) = front := by
  rw [List.takeWhile_append_of_pos (bne_of_not_mem lacks)]
  simp

/-- What comes before the first of its kind is dropped up to it. -/
lemma dropWhile_of_first (lacks : c ∉ front) :
    (front ++ c :: back).dropWhile (· != c) = c :: back := by
  rw [List.dropWhile_append_of_pos (bne_of_not_mem lacks)]
  simp

/-- All is taken where the character is not there. -/
lemma takeWhile_of_not_mem (lacks : c ∉ cs) : cs.takeWhile (· != c) = cs :=
  List.takeWhile_eq_self_iff.2 (bne_of_not_mem lacks)

/-- All is dropped where the character is not there. -/
lemma dropWhile_of_not_mem (lacks : c ∉ cs) : cs.dropWhile (· != c) = [] :=
  List.dropWhile_eq_nil_iff.2 (bne_of_not_mem lacks)

/-- A character is not there, or has a first place. -/
lemma eq_or_exists_first (c : Char) (cs : List Char) :
    c ∉ cs ∨ ∃ front back, cs = front ++ c :: back ∧ c ∉ front := by
  by_cases mem : c ∈ cs
  · exact .inr (List.eq_append_cons_of_mem mem)
  · exact .inl mem

/-! ## White space around a text -/

instance : DecidablePred AllBlank := fun cs => List.decidableBAll (isBlank · = true) cs

/-- Whether a text has white space at neither end. -/
structure IsTight (cs : List Char) : Prop where
  first : ∀ c, cs.head? = some c → isBlank c = false
  last : ∀ c, cs.getLast? = some c → isBlank c = false

/-- Whether `core` is what a text has but for white space around it. -/
def IsCore (core cs : List Char) : Prop :=
  IsTight core ∧ ∃ w w', AllBlank w ∧ AllBlank w' ∧ cs = w ++ core ++ w'

/-- A text has blanks in front of what is left when it is trimmed there. -/
lemma exists_append_trimStart (cs : List Char) : ∃ w, AllBlank w ∧ cs = w ++ trimStart cs := by
  refine ⟨cs.takeWhile isBlank, ?_, List.takeWhile_append_dropWhile.symm⟩
  intro c mem
  exact List.mem_takeWhile_imp mem

/-- A text has blanks behind what is left when it is trimmed there. -/
lemma exists_trimEnd_append (cs : List Char) : ∃ w, AllBlank w ∧ cs = trimEnd cs ++ w := by
  obtain ⟨w, blank, whole⟩ := exists_append_trimStart cs.reverse
  refine ⟨w.reverse, fun c mem => blank c (List.mem_reverse.1 mem), ?_⟩
  rw [trimEnd, ← List.reverse_append, ← whole, List.reverse_reverse]

/-- A trimmed text has no blanks at its ends. -/
lemma isTight_trim (cs : List Char) : IsTight (trim cs) where
  first := by
    intro c head
    obtain ⟨w, _, whole⟩ := exists_trimEnd_append (trimStart cs)
    have start : (trimStart cs).head? = some c := by
      rw [whole, List.head?_append, show (trimEnd (trimStart cs)).head? = some c from head]
      rfl
    exact head_trimStart start
  last := by
    intro c last
    rw [trim, trimEnd, List.getLast?_reverse] at last
    exact head_trimStart last

/-- A text is left alone exactly if it has no blanks at its ends. -/
lemma trim_eq_self_iff : trim cs = cs ↔ IsTight cs :=
  ⟨fun same => same ▸ isTight_trim cs, fun tight => trim_eq_self tight.first tight.last⟩

instance : DecidablePred IsTight := fun _ => decidable_of_iff _ trim_eq_self_iff

/-- Nothing is left of blanks. -/
lemma trim_of_allBlank (blank : AllBlank cs) : trim cs = [] := by
  rw [trim, trimStart_eq_nil_iff.2 blank]
  rfl

/-- Trimming leaves the core of a text. -/
lemma trim_eq_iff : trim cs = core ↔ IsCore core cs := by
  constructor
  · rintro rfl
    obtain ⟨w, blank, whole⟩ := exists_append_trimStart cs
    obtain ⟨w', blank', whole'⟩ := exists_trimEnd_append (trimStart cs)
    refine ⟨isTight_trim cs, w, w', blank, blank', ?_⟩
    rw [List.append_assoc, trim, ← whole', ← whole]
  · rintro ⟨tight, w, w', blank, blank', rfl⟩
    rw [List.append_assoc, trim, trimStart_append blank]
    cases core with
    | nil => exact trim_of_allBlank blank'
    | cons c core =>
      -- The text behind the white space begins like its core.
      have first : ∀ d, (c :: core ++ w').head? = some d → isBlank d = false := tight.first
      rw [trimStart_eq_self first, trimEnd_append blank']
      have kept := trim_eq_self_iff.2 tight
      rwa [trim, trimStart_eq_self tight.first] at kept

/-- Nothing is left of blanks only. -/
lemma trim_eq_nil_iff : trim cs = [] ↔ AllBlank cs := by
  refine ⟨fun empty => ?_, trim_of_allBlank⟩
  obtain ⟨_, w, w', blank, blank', rfl⟩ := trim_eq_iff.1 empty
  intro c mem
  rw [List.append_nil] at mem
  exact (List.mem_append.1 mem).elim (blank c) (blank' c)

/-- A text is not all blank exactly if a character of it is none. -/
lemma not_allBlank_iff : ¬AllBlank cs ↔ ∃ c ∈ cs, isBlank c = false := by
  simp [AllBlank]

/-- What is no blank is not among blanks. -/
lemma AllBlank.not_mem (blank : AllBlank cs) (dark : isBlank c = false) : c ∉ cs := by
  intro mem
  rw [blank c mem] at dark
  cases dark

/-- The core of a text is part of it. -/
lemma IsCore.subset (isCore : IsCore core cs) : core ⊆ cs := by
  obtain ⟨_, w, w', _, _, rfl⟩ := isCore
  intro c mem
  exact List.mem_append_left _ (List.mem_append_right _ mem)

end StreamRelay.Text
