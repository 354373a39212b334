import Mathlib.Data.List.Forall2
import StreamRelay.Resolution.Phrases

/-!
# How phrases are spelled

A phrase is looked for in the lower-case form of a text, where characters may have changed and one
may have become two. What is found there can be read off the text itself: it is the phrase in small
and capital letters of ASCII, with a Kelvin sign for any `k`. That `İ` begins with an `i` in its
lower-case form does not matter, since a dot follows there, and no phrase ends with an `i`.

Main statements: a phrase is found exactly where it is spelled (`occursIn_lowercase_iff`),
lower-case forms spell a phrase only as it is (`eq_of_forall₂_spells`), and no phrase is found
across a character that stands for none of its own (`mentionsFailure_foreign`).
-/

namespace StreamRelay

namespace Text

/-- Whether a character of a text stands for the character `a` of a phrase: it is `a` in either case
of ASCII, or the Kelvin sign for `k`. -/
def Spells (a c : Char) : Prop := c = a ∨ c = a.toUpper ∨ a = 'k' ∧ c = '\u212A'

instance (a c : Char) : Decidable (Spells a c) :=
  inferInstanceAs (Decidable (c = a ∨ c = a.toUpper ∨ a = 'k' ∧ c = '\u212A'))

/-- Whether a text has ASCII characters only, none of which is a capital letter. -/
def IsSmall (cs : List Char) : Prop := ∀ a ∈ cs, a.toNat < 0x80 ∧ a.toLower = a

instance (cs : List Char) : Decidable (IsSmall cs) :=
  decidable_of_iff (cs.all fun a => a.toNat < 0x80 && a.toLower == a) (by simp [IsSmall])

variable {a c x : Char} {p w cs : List Char}

/-- What holds of all characters of ASCII, by their numbers, holds of each. -/
lemma of_ascii {P : Char → Prop} (all : ∀ n < 0x80, P (Char.ofNat n)) (ascii : c.toNat < 0x80) :
    P c := by
  rw [← Char.ofNat_toNat c]
  exact all _ ascii

/-- The capital letter of a character of ASCII is of ASCII, and has the same small letter. -/
lemma toUpper_of_ascii (ascii : a.toNat < 0x80) :
    a.toUpper.toNat < 0x80 ∧ a.toUpper.toLower = a.toLower := by
  have upper : ∀ n < 0x80, (Char.ofNat n).toUpper.toNat < 0x80 ∧
      (Char.ofNat n).toUpper.toLower = (Char.ofNat n).toLower := by decide
  exact of_ascii (P := fun a => a.toUpper.toNat < 0x80 ∧ a.toUpper.toLower = a.toLower) upper ascii

/-- A character beyond ASCII has no capital letter here. -/
lemma toUpper_of_not_ascii (high : 0x80 ≤ a.toNat) : a.toUpper = a := by
  refine dif_neg ?_
  rintro ⟨_, low⟩
  exact absurd (Nat.lt_of_le_of_lt high (Nat.lt_of_le_of_lt low (by decide))) (Nat.lt_irrefl _)

/-- The small letter of a character of ASCII is of ASCII, and is its own small letter. -/
lemma toLower_of_ascii (ascii : a.toNat < 0x80) :
    a.toLower.toNat < 0x80 ∧ a.toLower.toLower = a.toLower := by
  have lower : ∀ n < 0x80, (Char.ofNat n).toLower.toNat < 0x80 ∧
      (Char.ofNat n).toLower.toLower = (Char.ofNat n).toLower := by decide
  exact of_ascii (P := fun a => a.toLower.toNat < 0x80 ∧ a.toLower.toLower = a.toLower) lower ascii

/-- A capital letter and the Kelvin sign have the small letter that they stand for as their form. -/
lemma lowercaseChar_of_spells (ascii : a.toNat < 0x80) (small : a.toLower = a)
    (spells : Spells a c) : lowercaseChar c = [a] := by
  rcases spells with rfl | rfl | ⟨rfl, rfl⟩
  · rw [lowercaseChar_of_ascii ascii, small]
  · obtain ⟨ascii', same⟩ := toUpper_of_ascii ascii
    rw [lowercaseChar_of_ascii ascii', same, small]
  · decide +kernel

/-- But for `İ`, each character has one character as its form, and spells it if that is of ASCII. -/
lemma exists_lowercaseChar (c : Char) (other : c ≠ '\u0130') :
    ∃ x, lowercaseChar c = [x] ∧ (x.toNat < 0x80 → Spells x c) := by
  have either : ∀ n < 0x80, Spells (Char.ofNat n).toLower (Char.ofNat n) := by decide
  have single : ∃ x, lowercaseChar c = [x] := by
    unfold lowercaseChar
    split
    · exact ⟨_, rfl⟩
    · split <;> exact ⟨_, rfl⟩
  obtain ⟨x, form⟩ := single
  refine ⟨x, form, ?_⟩
  intro ascii
  have mem : x ∈ lowercaseChar c := by rw [form]; exact List.mem_singleton_self x
  rcases eq_of_lowercase_ascii mem ascii with ⟨ascii', rfl⟩ | ⟨rfl, rfl⟩ | ⟨dotted, _⟩
  · exact of_ascii (P := fun c => Spells c.toLower c) either ascii'
  · exact .inr (.inr ⟨rfl, rfl⟩)
  · exact absurd dotted other

/-- Every character of what spells a text spells one of that. -/
lemma exists_spelled (spells : List.Forall₂ Spells p w) (mem : c ∈ w) : ∃ a ∈ p, Spells a c := by
  induction spells with
  | nil => exact absurd mem List.not_mem_nil
  | cons head _ ih =>
    rcases List.mem_cons.1 mem with rfl | mem
    · exact ⟨_, List.mem_cons_self .., head⟩
    · obtain ⟨a, here, spells⟩ := ih mem
      exact ⟨a, List.mem_cons_of_mem _ here, spells⟩

/-- What spells a small text has it as its lower-case form. -/
lemma lowercase_of_spells (small : IsSmall p) (spells : List.Forall₂ Spells p w) :
    lowercase w = p := by
  induction spells with
  | nil => rfl
  | cons head _ ih =>
    obtain ⟨⟨ascii, low⟩, small⟩ := List.forall_mem_cons.1 small
    rw [lowercase_cons, lowercaseChar_of_spells ascii low head, ih small, List.singleton_append]

/-- The dot above is not of ASCII. -/
lemma not_isSmall_dot (small : IsSmall ('\u0307' :: p)) : False :=
  absurd (small _ (List.mem_cons_self ..)).1 (by decide)

/-- A lower-case form begins with a small text only where it is spelled. -/
lemma exists_of_isPrefix_lowercase (small : IsSmall p) (last : p.getLast? ≠ some 'i')
    (front : p <+: lowercase cs) : ∃ w v, cs = w ++ v ∧ List.Forall₂ Spells p w := by
  induction p generalizing cs with
  | nil => exact ⟨[], cs, rfl, .nil⟩
  | cons a p ih =>
    obtain ⟨⟨ascii, low⟩, small⟩ := List.forall_mem_cons.1 small
    cases cs with
    | nil => cases List.prefix_nil.1 front
    | cons c cs =>
      rw [lowercase_cons] at front
      by_cases dotted : c = '\u0130'
      · -- A phrase that begins at `İ` would go on with the dot.
        subst dotted
        have form : lowercaseChar '\u0130' = ['i', '\u0307'] := rfl
        rw [form, List.cons_append, List.cons_prefix_cons] at front
        obtain ⟨begins, front⟩ := front
        cases p with
        | nil => exact absurd (congrArg some begins) last
        | cons b p =>
          obtain ⟨rfl, _⟩ := List.cons_prefix_cons.1 front
          exact (not_isSmall_dot small).elim
      · obtain ⟨x, form, spells⟩ := exists_lowercaseChar c dotted
        rw [form, List.singleton_append, List.cons_prefix_cons] at front
        obtain ⟨rfl, front⟩ := front
        have last' : p.getLast? ≠ some 'i' := by
          intro ends
          refine last ?_
          rw [List.getLast?_cons, ends, Option.getD_some]
        obtain ⟨w, v, rfl, rest⟩ := ih small last' front
        exact ⟨c :: w, v, rfl, .cons (spells ascii) rest⟩

/-- What does not begin at a character begins behind it, since it does not begin with a dot. -/
lemma occursIn_lowercase_of_cons (small : IsSmall p) (nonempty : p ≠ [])
    (found : occursIn p (lowercase (c :: cs)) = true) (front : ¬ p <+: lowercase (c :: cs)) :
    occursIn p (lowercase cs) = true := by
  have front' : p.isPrefixOf (lowercase (c :: cs)) = false := by
    rw [← Bool.not_eq_true, List.isPrefixOf_iff_prefix]
    exact front
  by_cases dotted : c = '\u0130'
  · subst dotted
    have form : lowercase ('\u0130' :: cs) = 'i' :: '\u0307' :: lowercase cs := rfl
    rw [form] at found front'
    rw [occursIn, front', Bool.false_or, occursIn, Bool.or_eq_true] at found
    rcases found with inside | later
    · cases p with
      | nil => exact absurd rfl nonempty
      | cons b p =>
        obtain ⟨rfl, _⟩ := List.cons_prefix_cons.1 (List.isPrefixOf_iff_prefix.1 inside)
        exact (not_isSmall_dot small).elim
    · exact later
  · obtain ⟨x, form, _⟩ := exists_lowercaseChar c dotted
    rw [lowercase_cons, form, List.singleton_append] at found front'
    rw [occursIn, front', Bool.false_or] at found
    exact found

/-- A small text is found in a lower-case form exactly where it is spelled. -/
theorem occursIn_lowercase_iff (small : IsSmall p) (nonempty : p ≠ [])
    (last : p.getLast? ≠ some 'i') :
    occursIn p (lowercase cs) = true ↔ ∃ u w v, cs = u ++ w ++ v ∧ List.Forall₂ Spells p w := by
  constructor
  · intro found
    induction cs with
    | nil => exact absurd (List.isEmpty_iff.1 found) nonempty
    | cons c cs ih =>
      by_cases front : p <+: lowercase (c :: cs)
      · obtain ⟨w, v, whole, spells⟩ := exists_of_isPrefix_lowercase small last front
        exact ⟨[], w, v, whole, spells⟩
      · have later := occursIn_lowercase_of_cons small nonempty found front
        obtain ⟨u, w, v, rfl, spells⟩ := ih later
        exact ⟨c :: u, w, v, rfl, spells⟩
  · rintro ⟨u, w, v, rfl, spells⟩
    have whole : occursIn p p = true := occursIn_iff.2 ⟨[], [], by simp⟩
    rw [lowercase_append, lowercase_append, lowercase_of_spells small spells]
    exact occursIn_append whole _ _

/-- A character and its capital letter have the same lower-case form. -/
lemma lowercaseChar_toUpper (c : Char) : lowercaseChar c.toUpper = lowercaseChar c := by
  by_cases ascii : c.toNat < 0x80
  · obtain ⟨ascii', same⟩ := toUpper_of_ascii ascii
    rw [lowercaseChar_of_ascii ascii', lowercaseChar_of_ascii ascii, same]
  · rw [toUpper_of_not_ascii (Nat.le_of_not_lt ascii)]

/-- A text and the text in capital letters have the same lower-case form. -/
lemma lowercase_map_toUpper (cs : List Char) : lowercase (cs.map Char.toUpper) = lowercase cs := by
  induction cs with
  | nil => rfl
  | cons c cs ih => rw [List.map_cons, lowercase_cons, lowercase_cons, lowercaseChar_toUpper, ih]

/-- Whether a character is neither a capital letter of ASCII nor the Kelvin sign. -/
def IsLowered (x : Char) : Prop := (x.toNat < 0x80 → x.toLower = x) ∧ x ≠ '\u212A'

/-- No row of the case table leads to the Kelvin sign. -/
lemma caseRows_kelvin : ∀ r ∈ caseRows,
    r.last + r.shift < 0x212A ∨ 0x212A < r.first + r.shift := by
  decide +kernel

/-- A character that was made of a number has it, unless the number is none of a character. -/
lemma toNat_eq_of_ofNat {n : Nat} (form : Char.ofNat n = c) (nonzero : c ≠ '\x00') :
    c.toNat = n := by
  by_cases valid : n.isValidChar
  · rw [← form, toNat_ofNat valid]
  · rw [Char.ofNat, dif_neg valid] at form
    exact absurd form.symm nonzero

/-- The Kelvin sign is in no lower-case form. -/
lemma ne_kelvin_of_mem_lowercaseChar (mem : x ∈ lowercaseChar c) : x ≠ '\u212A' := by
  rintro rfl
  have form : ('\u212A' : Char) ∉ lowercaseChar '\u212A' := by decide +kernel
  have other : c ≠ '\u212A' := by
    rintro rfl
    exact form mem
  unfold lowercaseChar at mem
  split at mem
  · next ascii =>
    have ascii' := (toLower_of_ascii ascii).1
    rw [← List.mem_singleton.1 mem] at ascii'
    exact absurd ascii' (by decide)
  · split at mem
    · exact absurd mem (by decide)
    · split at mem
      · next r found =>
        have covers := List.find?_some found
        have bounds := caseRows_kelvin r (List.mem_of_find?_eq_some found)
        simp only [CaseRow.covers, Bool.and_eq_true, decide_eq_true_eq] at covers
        have code := toNat_eq_of_ofNat (List.mem_singleton.1 mem).symm (by decide)
        have kelvin : ('\u212A' : Char).toNat = 0x212A := rfl
        omega
      · exact other (List.mem_singleton.1 mem).symm

/-- The characters of a lower-case form are lowered. -/
lemma isLowered_of_mem_lowercaseChar (mem : x ∈ lowercaseChar c) : IsLowered x := by
  refine ⟨?_, ne_kelvin_of_mem_lowercaseChar mem⟩
  intro ascii
  rcases eq_of_lowercase_ascii mem ascii with ⟨ascii', rfl⟩ | ⟨_, rfl⟩ | ⟨_, rfl⟩
  · exact (toLower_of_ascii ascii').2
  · rfl
  · rfl

/-- The characters of the lower-case form of a text are lowered. -/
lemma isLowered_of_mem_lowercaseText (mem : x ∈ lowercaseText cs) : IsLowered x := by
  suffices after : ∀ before, ∀ x ∈ lowercaseAfter before cs, IsLowered x from after [] x mem
  clear mem
  induction cs with
  | nil => exact fun _ _ mem => absurd mem List.not_mem_nil
  | cons c cs ih =>
    intro before x mem
    rw [lowercaseAfter, List.mem_append] at mem
    rcases mem with here | later
    · split at here
      · -- Either form of a sigma.
        rw [List.mem_singleton.1 here, lowercaseSigma]
        split <;> exact ⟨fun ascii => absurd ascii (by decide), by decide⟩
      · exact isLowered_of_mem_lowercaseChar here
    · exact ih _ x later

/-- What is lowered spells a small letter only if it is that letter. -/
lemma eq_of_spells (ascii : a.toNat < 0x80) (small : a.toLower = a) (lowered : IsLowered x)
    (spells : Spells a x) : x = a := by
  obtain ⟨low, kelvin⟩ := lowered
  rcases spells with rfl | rfl | ⟨_, rfl⟩
  · rfl
  · obtain ⟨ascii', same⟩ := toUpper_of_ascii ascii
    rw [← low ascii', same, small]
  · exact absurd rfl kelvin

/-- What is lowered spells a small text only if it is that text. -/
lemma eq_of_forall₂_spells (small : IsSmall p) (lowered : ∀ x ∈ w, IsLowered x)
    (spells : List.Forall₂ Spells p w) : w = p := by
  induction spells with
  | nil => rfl
  | cons head _ ih =>
    obtain ⟨⟨ascii, low⟩, small⟩ := List.forall_mem_cons.1 small
    obtain ⟨here, lowered⟩ := List.forall_mem_cons.1 lowered
    rw [eq_of_spells ascii low here head, ih small lowered]

/-- To search a text that is lowered already it need not be lowered. -/
lemma occursIn_lowercase_of_isLowered (small : IsSmall p) (nonempty : p ≠ [])
    (last : p.getLast? ≠ some 'i') (lowered : ∀ x ∈ cs, IsLowered x) :
    occursIn p (lowercase cs) = occursIn p cs := by
  rw [Bool.eq_iff_iff, occursIn_lowercase_iff small nonempty last, occursIn_iff]
  constructor
  · rintro ⟨u, w, v, rfl, spells⟩
    have within : ∀ x ∈ w, IsLowered x := fun x mem =>
      lowered x (List.mem_append_left v (List.mem_append_right u mem))
    have same := eq_of_forall₂_spells small within spells
    exact ⟨u, v, by rw [same]⟩
  · rintro ⟨u, v, rfl⟩
    exact ⟨u, p, v, rfl, List.forall₂_same.2 fun a _ => .inl rfl⟩

end Text

namespace Resolution

variable {p : String} {c : Char}

/-- All phrases are small, are not empty, and do not end with an i. -/
lemma shape_phrases : ∀ p ∈ phrases,
    Text.IsSmall p.toList ∧ p.toList ≠ [] ∧ p.toList.getLast? ≠ some 'i' := by
  decide +kernel

/-- Whether a character stands for none of those that phrases are made of. -/
def IsForeign (c : Char) : Prop := ∀ p ∈ phrases, ∀ a ∈ p.toList, ¬ Text.Spells a c

/-- No character beyond ASCII is one that phrases are made of, but for the Kelvin sign. -/
lemma isForeign_of_not_ascii (high : 0x80 ≤ c.toNat) (other : c ≠ '\u212A') : IsForeign c := by
  intro p mem a here spells
  obtain ⟨ascii, _⟩ := (shape_phrases p mem).1 a here
  rcases spells with rfl | rfl | ⟨_, kelvin⟩
  · exact absurd ascii (Nat.not_lt.2 high)
  · exact absurd (Text.toUpper_of_ascii ascii).1 (Nat.not_lt.2 high)
  · exact other kelvin

/-- A phrase is found in a text exactly where it is spelled. -/
theorem mentionsFailure_iff (text : String) :
    mentionsFailure text = true ↔
      ∃ p ∈ phrases, ∃ u w v, text.toList = u ++ w ++ v ∧ List.Forall₂ Text.Spells p.toList w := by
  rw [mentionsFailure_eq, List.any_eq_true]
  apply exists_congr
  intro p
  apply and_congr_right
  intro mem
  obtain ⟨small, nonempty, last⟩ := shape_phrases p mem
  exact Text.occursIn_lowercase_iff small nonempty last

/-- What is found in a text is found in every text around it. -/
theorem mentionsFailure_append (u v : String) {text : String}
    (found : mentionsFailure text = true) : mentionsFailure (u ++ text ++ v) = true := by
  obtain ⟨p, mem, a, w, b, whole, spells⟩ := (mentionsFailure_iff text).1 found
  refine (mentionsFailure_iff _).2 ⟨p, mem, u.toList ++ a, w, b ++ v.toList, ?_, spells⟩
  simp [whole]

/-- No phrase is found across a foreign character. -/
theorem mentionsFailure_foreign (foreign : IsForeign c) (u v : String) :
    mentionsFailure (u ++ String.singleton c ++ v) = (mentionsFailure u || mentionsFailure v) := by
  have split : (u ++ String.singleton c ++ v).toList = u.toList ++ c :: v.toList := by simp
  rw [Bool.eq_iff_iff, Bool.or_eq_true]
  constructor
  · intro found
    obtain ⟨p, mem, a, w, b, whole, spells⟩ := (mentionsFailure_iff _).1 found
    have lacks : c ∉ w := by
      intro here
      obtain ⟨x, within, spelled⟩ := Text.exists_spelled spells here
      exact foreign p mem x within spelled
    have inside : Text.occursIn w (u.toList ++ c :: v.toList) = true :=
      Text.occursIn_iff.2 ⟨a, b, split.symm.trans whole⟩
    rw [Text.occursIn_append_cons lacks, Bool.or_eq_true, Text.occursIn_iff, Text.occursIn_iff]
      at inside
    rcases inside with ⟨a, b, left⟩ | ⟨a, b, right⟩
    · exact .inl ((mentionsFailure_iff u).2 ⟨p, mem, a, w, b, left, spells⟩)
    · exact .inr ((mentionsFailure_iff v).2 ⟨p, mem, a, w, b, right, spells⟩)
  · rintro (left | right)
    · have found := mentionsFailure_append "" (String.singleton c ++ v) left
      rwa [String.empty_append, ← String.append_assoc] at found
    · have found := mentionsFailure_append (u ++ String.singleton c) "" right
      rwa [String.append_empty] at found

/-- A phrase is found in the lower-case form of a text exactly if it is found in the text. -/
theorem mentionsFailure_lowercaseText (text : String) :
    mentionsFailure (String.ofList (Text.lowercaseText text.toList)) = mentionsFailure text := by
  rw [mentionsFailure_eq, mentionsFailure, String.toList_ofList, Bool.eq_iff_iff, List.any_eq_true,
    List.any_eq_true]
  apply exists_congr
  intro p
  apply and_congr_right
  intro mem
  obtain ⟨small, nonempty, last⟩ := shape_phrases p mem
  rw [Text.occursIn_lowercase_of_isLowered small nonempty last
    fun x => Text.isLowered_of_mem_lowercaseText]

/-- A phrase is found in a text in capital letters exactly if it is found in the text. -/
theorem mentionsFailure_map_toUpper (text : String) :
    mentionsFailure (text.map Char.toUpper) = mentionsFailure text := by
  rw [mentionsFailure_eq, mentionsFailure_eq, String.toList_map, Text.lowercase_map_toUpper]

/-- A text tells of a failed look-up exactly if it has a run of characters in which those of a
phrase are spelled one by one, as capitals or small letters or by a Kelvin sign for a `k`. No other
character has a part in that, none outside ASCII in particular: a text is found to tell of it across
one only if a part beside that character does. So nothing changes if a text is lowered first, or if
the letters of ASCII in it are made capitals, and what a text tells is told by every text around it.
-/
theorem found_as_spelled :
    (∀ text, mentionsFailure text = true ↔
      ∃ p ∈ phrases, ∃ u w v, text.toList = u ++ w ++ v ∧ List.Forall₂ Text.Spells p.toList w) ∧
    (∀ c, IsForeign c → ∀ u v,
      mentionsFailure (u ++ String.singleton c ++ v) = (mentionsFailure u || mentionsFailure v)) ∧
    (∀ c, 0x80 ≤ c.toNat → c ≠ '\u212A' → IsForeign c) ∧
    (∀ text,
      mentionsFailure (String.ofList (Text.lowercaseText text.toList)) = mentionsFailure text) ∧
    (∀ text, mentionsFailure (text.map Char.toUpper) = mentionsFailure text) ∧
    ∀ u text v, mentionsFailure text = true → mentionsFailure (u ++ text ++ v) = true := by
  refine ⟨mentionsFailure_iff, ?foreign, ?other, ?lowered, ?capital, ?around⟩
  case foreign => exact fun c foreign => mentionsFailure_foreign foreign
  case other => exact fun c => isForeign_of_not_ascii
  case lowered => exact mentionsFailure_lowercaseText
  case capital => exact mentionsFailure_map_toUpper
  case around => exact fun u text v found => mentionsFailure_append u v found

/-- `İ` is no `i` of a phrase, and what a part of a text tells is told by the text. -/
theorem found_as_spelled_dotted :
    IsForeign '\u0130' ∧
      mentionsFailure ("getaddr" ++ String.singleton '\u0130' ++ "nfo failed") = false ∧
      mentionsFailure ("no video: " ++ "Dns_Error" ++ " at 12\u00B0") = true := by
  obtain ⟨-, across, other, -, -, around⟩ := found_as_spelled
  have foreign := other '\u0130' (by decide) (by decide)
  have left : mentionsFailure "getaddr" = false := by decide +kernel
  have right : mentionsFailure "nfo failed" = false := by decide +kernel
  have middle : mentionsFailure "Dns_Error" = true := by decide +kernel
  refine ⟨foreign, ?_, around _ _ _ middle⟩
  rw [across _ foreign, left, right]
  rfl

end Resolution

end StreamRelay
