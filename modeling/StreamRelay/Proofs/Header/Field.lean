import StreamRelay.Header.Field
import StreamRelay.Proofs.Text.Parts

/-!
# How header fields are read and written

A field is written as its name, a colon and its value, with white space around each of the two as
one likes. The first colon of a text is the one that counts, so that a name has no colon, and a
value may have some.

Main statements: what is read of a text is the field that it is a written form of
(`parse_eq_ok_iff`), so that a text is read exactly if there is a name before its first colon, and
what was read is read again from each of its written forms (`reads_and_written`).
-/

namespace StreamRelay.Header

open Text (AllBlank IsTight IsCore isBlank)

/-! ## Written forms -/

/-- White space around the parts of a field. -/
structure Spacing where
  beforeName : List Char := []
  afterName : List Char := []
  beforeValue : List Char := []
  afterValue : List Char := []
  blank : ∀ w ∈ [beforeName, afterName, beforeValue, afterValue], AllBlank w := by decide

/-- One blank before the value, as one is used to. -/
def Spacing.usual : Spacing := { beforeValue := [' '] }

namespace Field

def written (f : Field) (s : Spacing) : String :=
  String.ofList (s.beforeName ++ f.name.toList ++ s.afterName ++
    ':' :: (s.beforeValue ++ f.value.toList ++ s.afterValue))

/-- Whether a field has a name that can stand before a colon, and no white space around its parts.
-/
structure IsPlain (f : Field) : Prop where
  named : f.name ≠ ""
  lacks : ':' ∉ f.name.toList
  name : IsTight f.name.toList
  value : IsTight f.value.toList

example : written ⟨"Referer", "https://portal.example/"⟩ .usual =
    "Referer: https://portal.example/" := by
  decide

/-! ## Reading -/

variable {raw : String} {f : Field} {front back : List Char} {e : ParseError}

/-- A text without a colon is refused for that. -/
lemma parse_of_lacks (lacks : ':' ∉ raw.toList) : parse raw = .error (.noColon raw) := by
  simp only [parse, Text.dropWhile_of_not_mem lacks]

/-- A text with nothing but blanks in front of the colon is refused for that. -/
lemma parse_of_blank (whole : raw.toList = front ++ ':' :: back) (blank : AllBlank front) :
    parse raw = .error (.noName raw) := by
  have lacks : ':' ∉ front := blank.not_mem (by decide)
  simp only [parse, whole, Text.dropWhile_of_first lacks, Text.takeWhile_of_first lacks,
    Text.trim_of_allBlank blank]
  rfl

/-- A text with a name in front of the colon is read, without the blanks around its parts. -/
lemma parse_of_named (whole : raw.toList = front ++ ':' :: back) (lacks : ':' ∉ front)
    (named : ¬AllBlank front) :
    parse raw = .ok ⟨String.ofList (Text.trim front), String.ofList (Text.trim back)⟩ := by
  have some_ : (Text.trim front).isEmpty = false := by
    rw [← Bool.not_eq_true, List.isEmpty_iff, Text.trim_eq_nil_iff]
    exact named
  simp only [parse, whole, Text.dropWhile_of_first lacks, Text.takeWhile_of_first lacks, some_]
  rfl

/-- A text is one of the three kinds that reading tells apart. -/
lemma kinds (raw : String) :
    ':' ∉ raw.toList ∨ (∃ front back, raw.toList = front ++ ':' :: back ∧ AllBlank front) ∨
      ∃ front back, raw.toList = front ++ ':' :: back ∧ ':' ∉ front ∧ ¬AllBlank front := by
  rcases Text.eq_or_exists_first ':' raw.toList with lacks | ⟨front, back, whole, lacks⟩
  · exact .inl lacks
  · by_cases blank : AllBlank front
    · exact .inr (.inl ⟨front, back, whole, blank⟩)
    · exact .inr (.inr ⟨front, back, whole, lacks, blank⟩)

/-- What is read are the cores of what stands before and behind the first colon. -/
lemma parse_eq_ok_iff_of_first (whole : raw.toList = front ++ ':' :: back) (lacks : ':' ∉ front) :
    parse raw = .ok f ↔
      f.name ≠ "" ∧ IsCore f.name.toList front ∧ IsCore f.value.toList back := by
  rw [← Text.trim_eq_iff, ← Text.trim_eq_iff]
  by_cases blank : AllBlank front
  · rw [parse_of_blank whole blank, Text.trim_of_allBlank blank]
    constructor
    · intro read
      cases read
    · rintro ⟨named, name, _⟩
      exact absurd (String.toList_eq_nil_iff.1 name.symm) named
  · rw [parse_of_named whole lacks blank]
    constructor
    · intro read
      cases read
      refine ⟨?_, by simp, by simp⟩
      rw [ne_eq, ← String.toList_eq_nil_iff, String.toList_ofList, Text.trim_eq_nil_iff]
      exact blank
    · rintro ⟨_, name, value⟩
      rw [name, value, String.ofList_toList, String.ofList_toList]

/-- A field is written with its blanks around name and value. -/
lemma toList_written (f : Field) (s : Spacing) :
    (f.written s).toList = (s.beforeName ++ f.name.toList ++ s.afterName) ++
      ':' :: (s.beforeValue ++ f.value.toList ++ s.afterValue) :=
  String.toList_ofList

/-- The first colon of a written form is the one behind the name. -/
lemma IsPlain.not_mem_front (plain : f.IsPlain) (s : Spacing) :
    ':' ∉ s.beforeName ++ f.name.toList ++ s.afterName := by
  have dark : isBlank ':' = false := by decide
  have before : ':' ∉ s.beforeName := (s.blank _ (by simp)).not_mem dark
  have after : ':' ∉ s.afterName := (s.blank _ (by simp)).not_mem dark
  simp only [List.mem_append, not_or]
  exact ⟨⟨before, plain.lacks⟩, after⟩

/-- What is read of a text is the field that it is a written form of. -/
lemma parse_eq_ok_iff : parse raw = .ok f ↔ f.IsPlain ∧ ∃ s, raw = f.written s := by
  constructor
  · intro read
    rcases Text.eq_or_exists_first ':' raw.toList with lacks | ⟨front, back, whole, lacks⟩
    · rw [parse_of_lacks lacks] at read
      cases read
    · obtain ⟨named, name, value⟩ := (parse_eq_ok_iff_of_first whole lacks).1 read
      have plain : f.IsPlain := ⟨named, fun mem => lacks (name.subset mem), name.1, value.1⟩
      obtain ⟨_, w₁, w₂, blank₁, blank₂, rfl⟩ := name
      obtain ⟨_, w₃, w₄, blank₃, blank₄, rfl⟩ := value
      refine ⟨plain, ⟨w₁, w₂, w₃, w₄, by simp [blank₁, blank₂, blank₃, blank₄]⟩, ?_⟩
      rw [← String.toList_inj, whole, toList_written]
  · rintro ⟨plain, s, rfl⟩
    refine (parse_eq_ok_iff_of_first (toList_written f s) (plain.not_mem_front s)).2 ?_
    refine ⟨plain.named, ⟨plain.name, s.beforeName, s.afterName, ?_, ?_, rfl⟩,
      ⟨plain.value, s.beforeValue, s.afterValue, ?_, ?_, rfl⟩⟩
    all_goals exact s.blank _ (by simp)

/-- A text can be read exactly if there is more than blanks in front of its first colon. -/
lemma exists_parse_eq_ok_iff : (∃ f, parse raw = .ok f) ↔ ∃ front back,
    raw.toList = front ++ ':' :: back ∧ ':' ∉ front ∧ ∃ c ∈ front, isBlank c = false := by
  constructor
  · rintro ⟨f, read⟩
    rcases kinds raw with lacks | ⟨front, back, whole, blank⟩ | ⟨front, back, whole, lacks, named⟩
    · rw [parse_of_lacks lacks] at read
      cases read
    · rw [parse_of_blank whole blank] at read
      cases read
    · exact ⟨front, back, whole, lacks, Text.not_allBlank_iff.1 named⟩
  · rintro ⟨front, back, whole, lacks, named⟩
    exact ⟨_, parse_of_named whole lacks (Text.not_allBlank_iff.2 named)⟩

/-- A text is refused exactly if it has no colon or nothing but blanks in front of one. -/
lemma parse_eq_error_iff : parse raw = .error e ↔
    e = .noColon raw ∧ ':' ∉ raw.toList ∨
      e = .noName raw ∧ ∃ front back, raw.toList = front ++ ':' :: back ∧ AllBlank front := by
  constructor
  · intro refused
    rcases kinds raw with lacks | ⟨front, back, whole, blank⟩ | ⟨front, back, whole, lacks, named⟩
    · rw [parse_of_lacks lacks] at refused
      cases refused
      exact .inl ⟨rfl, lacks⟩
    · rw [parse_of_blank whole blank] at refused
      cases refused
      exact .inr ⟨rfl, front, back, whole, blank⟩
    · rw [parse_of_named whole lacks named] at refused
      cases refused
  · rintro (⟨rfl, lacks⟩ | ⟨rfl, front, back, whole, blank⟩)
    · exact parse_of_lacks lacks
    · exact parse_of_blank whole blank

/-- What is promised of reading a text. -/
structure Reads (raw : String) : Prop where
  /-- It is read exactly if it has a colon, and before the first one something else than white
  space, -/
  accepted : (∃ f, parse raw = .ok f) ↔ ∃ front back,
    raw.toList = front ++ ':' :: back ∧ ':' ∉ front ∧ ∃ c ∈ front, isBlank c = false
  /-- and else refused for what it lacks. -/
  refused : ∀ e, parse raw = .error e ↔
    e = .noColon raw ∧ ':' ∉ raw.toList ∨
      e = .noName raw ∧ ∃ front back, raw.toList = front ++ ':' :: back ∧ AllBlank front
  /-- What is read is all that stands before and behind the first colon, but for the white space
  around it. -/
  parts : ∀ f front back, parse raw = .ok f → raw.toList = front ++ ':' :: back → ':' ∉ front →
    IsCore f.name.toList front ∧ IsCore f.value.toList back
  /-- It is a field that the text is a written form of, -/
  plain : ∀ f, parse raw = .ok f → f.IsPlain ∧ ∃ s, raw = f.written s
  /-- and that is read again from any other written form. -/
  again : ∀ f, parse raw = .ok f → ∀ s, parse (f.written s) = .ok f

/-- Reading accepts what has a name before a colon, and takes back whatever writing has done to a
field. -/
theorem reads_and_written :
    (∀ raw, Reads raw) ∧ ∀ f : Field, f.IsPlain → ∀ s, parse (f.written s) = .ok f := by
  have written : ∀ f : Field, f.IsPlain → ∀ s, parse (f.written s) = .ok f :=
    fun f plain s => parse_eq_ok_iff.2 ⟨plain, s, rfl⟩
  refine ⟨fun raw => ?_, written⟩
  exact {
    accepted := exists_parse_eq_ok_iff
    refused := fun e => parse_eq_error_iff
    parts := fun f front back read whole lacks =>
      ((parse_eq_ok_iff_of_first whole lacks).1 read).2
    plain := fun f read => parse_eq_ok_iff.1 read
    again := fun f read s => written f (parse_eq_ok_iff.1 read).1 s }

/-- A field whose value has colons and white space within, between all sorts of white space. -/
theorem reads_and_written_wide :
    let f : Field := ⟨"X-Note", "a: b\u2003:"⟩
    let s : Spacing := { beforeName := ['\u3000', '\t'], afterName := ['\u0085'],
                         beforeValue := ['\u00a0'], afterValue := ['\u2028', ' '] }
    f.IsPlain ∧ parse (f.written s) = .ok f ∧ Reads (f.written s) := by
  intro f s
  have plain : f.IsPlain := {
    named := by decide
    lacks := by decide
    name := by decide
    value := by decide }
  exact ⟨plain, reads_and_written.2 f plain s, reads_and_written.1 _⟩

end Field

end StreamRelay.Header
