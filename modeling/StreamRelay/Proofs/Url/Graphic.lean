import Mathlib.Tactic.Lemma
import StreamRelay.Network

/-!
# What the text of a URL is made of

The parts of a URL are kept in their encoded form, and an address is written with digits, letters and
signs. The text of a URL that names its host by an address is therefore made of visible characters
of ASCII alone.

Main statement: this holds of the text that a request is sent to, whatever text the URL is read from
(`graphic_chars_requested`).
-/

namespace StreamRelay

namespace Text

/-- Whether a character is one of the visible ones of ASCII. -/
def isGraphic (c : Char) : Bool := 0x20 < c.toNat && c.toNat < 0x7F

/-- Whether a text is made of visible characters of ASCII. -/
def Graphic (cs : List Char) : Prop := ∀ c ∈ cs, isGraphic c = true

instance : DecidablePred Graphic := fun _ => decidable_of_iff _ List.all_eq_true

variable {c : Char} {cs ds : List Char}

/-- There is nothing in an empty text that is not visible. -/
lemma Graphic.nil : Graphic [] := by
  intro c mem
  cases mem

/-- A text is made of visible characters exactly if both its parts are. -/
lemma graphic_append : Graphic (cs ++ ds) ↔ Graphic cs ∧ Graphic ds := by
  constructor
  · intro both
    refine ⟨?_, ?_⟩
    · intro c mem
      exact both c (List.mem_append_left _ mem)
    · intro c mem
      exact both c (List.mem_append_right _ mem)
  · rintro ⟨first, second⟩ c mem
    rcases List.mem_append.1 mem with mem | mem
    · exact first c mem
    · exact second c mem

/-- A text is made of visible characters exactly if its first one is and the others are. -/
lemma graphic_cons : Graphic (c :: cs) ↔ isGraphic c = true ∧ Graphic cs := by
  simp [Graphic]

/-- Visible characters behind visible ones are visible. -/
lemma Graphic.append (first : Graphic cs) (second : Graphic ds) : Graphic (cs ++ ds) :=
  graphic_append.2 ⟨first, second⟩

/-- A visible character in front of visible ones is visible with them. -/
lemma Graphic.cons (head : isGraphic c = true) (tail : Graphic cs) : Graphic (c :: cs) :=
  graphic_cons.2 ⟨head, tail⟩

/-- Visible parts are joined to visible characters by a visible separator. -/
lemma Graphic.intercalate {sep : List Char} {parts : List (List Char)} (sep_graphic : Graphic sep)
    (graphic : ∀ p ∈ parts, Graphic p) : Graphic (sep.intercalate parts) := by
  induction parts with
  | nil => exact .nil
  | cons p ps ih =>
    obtain ⟨head, tail⟩ := List.forall_mem_cons.1 graphic
    cases ps with
    | nil =>
      rw [List.intercalate_singleton]
      exact head
    | cons q qs =>
      rw [List.intercalate_cons_cons]
      exact (head.append sep_graphic).append (ih tail)

end Text

open Text

namespace Percent

/-- Where all characters but the visible ones of ASCII are encoded, only these are left. -/
lemma graphic_encode {set : Char → Bool} (all : ∀ c, isGraphic c = false → set c = true)
    (cs : List Char) : Graphic (encode set cs) := by
  intro c mem
  rcases isPlain_of_mem_encode mem with plain | written
  · cases graphic : isGraphic c with
    | true => rfl
    | false =>
      rw [all c graphic] at plain
      cases plain
  · have digits : Graphic "%0123456789ABCDEF".toList := by decide
    exact digits c written

/-- A character that is not visible is a blank or counts as a control character. -/
lemma isControl_of_not_isGraphic {c : Char} (other : isGraphic c = false) :
    c = ' ' ∨ isControl c = true := by
  by_cases blank : c.toNat = 0x20
  · left
    rw [← Char.ofNat_toNat c, blank]
  · right
    simp only [isGraphic, isControl, Bool.and_eq_false_iff, Bool.or_eq_true, decide_eq_true_eq,
      decide_eq_false_iff_not] at other ⊢
    omega

/-- A character that is not visible is encoded in a fragment. -/
lemma inFragment_of_not_isGraphic {c : Char} (other : isGraphic c = false) :
    inFragment c = true := by
  rcases isControl_of_not_isGraphic other with rfl | control
  · rfl
  · simp [inFragment, control]

/-- A character that is not visible is encoded in a path. -/
lemma inPath_of_not_isGraphic {c : Char} (other : isGraphic c = false) : inPath c = true := by
  simp [inPath, inFragment_of_not_isGraphic other]

/-- A character that is not visible is encoded in credentials. -/
lemma inUserInfo_of_not_isGraphic {c : Char} (other : isGraphic c = false) :
    inUserInfo c = true := by
  simp [inUserInfo, inPath_of_not_isGraphic other]

/-- A character that is not visible is encoded in a query. -/
lemma inQuery_of_not_isGraphic {c : Char} (other : isGraphic c = false) : inQuery c = true := by
  rcases isControl_of_not_isGraphic other with rfl | control
  · rfl
  · simp [inQuery, control]

/-- A character that is not visible is encoded in the query of a special scheme. -/
lemma inSpecialQuery_of_not_isGraphic {c : Char} (other : isGraphic c = false) :
    inSpecialQuery c = true := by
  simp [inSpecialQuery, inQuery_of_not_isGraphic other]

end Percent

/-! ## Numbers and addresses -/

/-- Every digit of a number is visible. -/
lemma isGraphic_digitChar (n : Nat) : isGraphic n.digitChar = true := by
  have digits : ∀ n < 16, isGraphic n.digitChar = true := by decide
  by_cases small : n < 16
  · exact digits n small
  · have star : n.digitChar = '*' := by simp (disch := omega) only [Nat.digitChar, if_neg]
    rw [star]
    rfl

/-- Digits that are put in front of visible characters leave these visible. -/
lemma graphic_toDigitsCore (base fuel n : Nat) {ds : List Char} (graphic : Graphic ds) :
    Graphic (Nat.toDigitsCore base fuel n ds) := by
  induction fuel generalizing n ds with
  | zero => exact graphic
  | succ fuel ih =>
    have grown : Graphic ((n % base).digitChar :: ds) := graphic.cons (isGraphic_digitChar _)
    rw [Nat.toDigitsCore]
    split
    · exact grown
    · exact ih _ grown

/-- The digits of a number are visible in any base. -/
lemma graphic_toDigits (base n : Nat) : Graphic (Nat.toDigits base n) :=
  graphic_toDigitsCore base (n + 1) n .nil

/-- A number is written in visible characters. -/
lemma graphic_toString (n : Nat) : Graphic (toString n).toList := by
  rw [show (toString n).toList = Nat.toDigits 10 n from Nat.toList_repr]
  exact graphic_toDigits 10 n

/-- An address of four bytes is written in visible characters. -/
lemma V4.graphic_text (a : V4) : Graphic a.text.toList := by
  rw [text, String.toList_intercalate]
  apply Graphic.intercalate
  · decide
  · intro p mem
    obtain ⟨s, mem', rfl⟩ := List.mem_map.1 mem
    obtain ⟨n, _, rfl⟩ := List.mem_map.1 mem'
    exact graphic_toString n

/-- Groups joined by colons are written in visible characters. -/
lemma V6.graphic_joined (gs : List Nat) : Graphic (joined gs) := by
  apply Graphic.intercalate
  · decide
  · intro p mem
    obtain ⟨n, _, rfl⟩ := List.mem_map.1 mem
    exact graphic_toDigits 16 n

/-- The groups of a long address are written in visible characters. -/
lemma V6.graphic_groupText (a : V6) : Graphic a.groupText.toList := by
  have colons : Graphic [':', ':'] := by decide
  rw [groupText, String.toList_ofList]
  unfold compressed
  split
  split
  · exact ((graphic_joined _).append colons).append (graphic_joined _)
  · exact graphic_joined _

/-- A host that is an address is written in visible characters. -/
lemma Host.graphic_text_address (a : Address) : Graphic (Host.text (.address a)) := by
  cases a with
  | v4 a => exact a.graphic_text
  | v6 a zone =>
    have closing : Graphic [']'] := by decide
    exact (a.graphic_groupText.append closing).cons rfl

namespace Url

/-! ## Paths and what follows them -/

variable {special : Bool} {done segments : List (List Char)} {u : Url} {cs : List Char}

/-- A segment is encoded to visible characters. -/
lemma graphic_encode_inPath (cs : List Char) : Graphic (Percent.encode Percent.inPath cs) :=
  Percent.graphic_encode (fun _ => Percent.inPath_of_not_isGraphic) cs

/-- The segments of a path are visible once it has been followed up and down. -/
lemma graphic_resolveSegments (before : ∀ p ∈ done, Graphic p) :
    ∀ p ∈ resolveSegments done segments, Graphic p := by
  have empty : Graphic [] := .nil
  induction segments generalizing done with
  | nil =>
    intro p mem
    exact before p (List.mem_reverse.1 mem)
  | cons s rest ih =>
    have above : ∀ p ∈ (if done.head?.any isDrive then done else done.drop 1), Graphic p := by
      intro p mem
      split at mem
      · exact before p mem
      · exact before p (List.mem_of_mem_drop mem)
    simp only [resolveSegments]
    split
    · apply ih
      split
      · exact List.forall_mem_cons.2 ⟨empty, above⟩
      · exact above
    · split
      · apply ih
        split
        · exact List.forall_mem_cons.2 ⟨empty, before⟩
        · exact before
      · apply ih
        exact List.forall_mem_cons.2 ⟨graphic_encode_inPath s, before⟩

/-- A path of visible segments is written in visible characters. -/
lemma graphic_text_segments (graphic : ∀ p ∈ segments, Graphic p) :
    Graphic (UrlPath.segments segments).text := by
  intro c mem
  obtain ⟨p, part, mem⟩ := List.mem_flatMap.1 mem
  exact (graphic p part).cons rfl c mem

/-- A path is read into visible characters, whatever text it is read from. -/
lemma graphic_text_pathOf (special : Bool) (cs : List Char) :
    Graphic (pathOf special cs).text := by
  unfold pathOf
  split
  · cases special <;> decide
  · apply graphic_text_segments
    apply graphic_resolveSegments
    intro p mem
    cases mem

/-- Whether the parts of a URL around its host are written with visible characters. -/
structure Written (u : Url) : Prop where
  user : Graphic u.user
  password : Graphic u.password
  path : Graphic u.path.text
  query : ∀ q ∈ u.query, Graphic q
  fragment : ∀ f ∈ u.fragment, Graphic f

/-- What follows the authority of a URL is read into visible characters. -/
lemma Written.withRest {toPath : List Char → UrlPath} (user : Graphic u.user)
    (password : Graphic u.password) (path : ∀ cs, Graphic (toPath cs).text) (cs : List Char) :
    (u.withRest toPath cs).Written where
  user := user
  password := password
  path := path _
  query q mem := by
    simp only [Url.withRest] at mem
    split at mem
    · cases mem
      apply Percent.graphic_encode
      intro c other
      split
      · exact Percent.inSpecialQuery_of_not_isGraphic other
      · exact Percent.inQuery_of_not_isGraphic other
    · cases mem
  fragment f mem := by
    simp only [Url.withRest] at mem
    split at mem
    · cases mem
      exact Percent.graphic_encode (fun _ => Percent.inFragment_of_not_isGraphic) _
    · cases mem

/-- Credentials are read into visible characters. -/
lemma graphic_splitUser (credentials : Option (List Char)) :
    Graphic ((credentials.map splitUser).getD ([], [])).1 ∧
      Graphic ((credentials.map splitUser).getD ([], [])).2 := by
  cases credentials with
  | none => exact ⟨.nil, .nil⟩
  | some cs =>
    constructor <;> exact Percent.graphic_encode (fun _ => Percent.inUserInfo_of_not_isGraphic) _

/-- A URL with an authority is read into visible characters, -/
lemma Written.of_ofAuthority? {scheme : List Char} (parsed : ofAuthority? scheme cs = some u) :
    u.Written := by
  simp only [ofAuthority?] at parsed
  split at parsed
  · cases parsed
  · split at parsed
    all_goals
      obtain ⟨host, _, parsed⟩ := Option.bind_eq_some_iff.1 parsed
      obtain ⟨port, _, parsed⟩ := Option.bind_eq_some_iff.1 parsed
      cases parsed
      obtain ⟨user, password⟩ := graphic_splitUser _
      exact .withRest user password (graphic_text_pathOf _) _

/-- A URL of a file is read into visible characters. -/
lemma Written.of_ofFile? (parsed : ofFile? cs = some u) : u.Written := by
  have base : ∀ (u : Url) cs, u.user = [] → u.password = [] →
      (u.withRest (pathOf true) cs).Written := by
    intro u cs user password
    have nothing : Graphic [] := .nil
    exact .withRest (user ▸ nothing) (password ▸ nothing) (graphic_text_pathOf true) cs
  simp only [ofFile?] at parsed
  split at parsed
  · split at parsed
    · split at parsed
      · cases parsed
        exact base _ _ rfl rfl
      · split at parsed
        · cases parsed
          exact base _ _ rfl rfl
        · obtain ⟨host, _, parsed⟩ := Option.bind_eq_some_iff.1 parsed
          cases parsed
          exact base _ _ rfl rfl
    · cases parsed
      exact base _ _ rfl rfl
  · cases parsed
    exact base _ _ rfl rfl

/-- A URL with a special scheme is read into visible characters. -/
lemma Written.of_parse? {text : String} (parsed : parse? text = some u)
    (special : isSpecial u.scheme = true) : u.Written := by
  obtain ⟨⟨scheme, rest⟩, _, parsed⟩ := Option.bind_eq_some_iff.1 parsed
  simp only at parsed
  split at parsed
  · exact .of_ofFile? parsed
  · split at parsed
    · exact .of_ofAuthority? parsed
    · next plain =>
      split at parsed
      · exact .of_ofAuthority? parsed
      · cases parsed
        exact .withRest .nil .nil (graphic_text_pathOf false) _
      · -- A flat path may hold a blank, but no scheme with such paths is special.
        cases parsed
        exact absurd special plain

/-- A port is written in visible characters. -/
lemma graphic_port (p : Option UInt16) :
    Graphic (p.elim [] (fun p => ':' :: (toString p).toList)) := by
  cases p with
  | none => exact .nil
  | some p => exact (graphic_toString p.toNat).cons rfl

/-- The credentials of a URL are written in visible characters. -/
lemma Written.graphic_credentials (written : u.Written) : Graphic u.credentials := by
  unfold credentials
  split
  · exact .nil
  · refine (written.user.append ?_).append (by decide)
    split
    · exact .nil
    · exact written.password.cons rfl

/-- A part with its mark is written in visible characters, if it is there. -/
lemma graphic_elim {part : Option (List Char)} {mark : Char} (visible : isGraphic mark = true)
    (graphic : ∀ cs ∈ part, Graphic cs) : Graphic (part.elim [] (mark :: ·)) := by
  cases part with
  | none => exact .nil
  | some cs => exact (graphic cs rfl).cons visible

/-- A URL whose host is an address is written in visible characters. -/
lemma Written.graphic_chars {a : Address} (written : u.Written) (scheme : Graphic u.scheme)
    (host : u.host = some (.address a)) : Graphic u.chars := by
  have authority : Graphic u.authority := by
    simp only [Url.authority, host]
    have slashes : Graphic ['/', '/'] := by decide
    exact ((slashes.append written.graphic_credentials).append
      (Host.graphic_text_address a)).append (graphic_port u.port)
  have colon : Graphic [':'] := by decide
  have query : Graphic (u.query.elim [] ('?' :: ·)) := graphic_elim rfl written.query
  have fragment : Graphic (u.fragment.elim [] ('#' :: ·)) := graphic_elim rfl written.fragment
  exact ((((scheme.append colon).append authority).append written.path).append query).append
    fragment

/-- The text that a request is sent to is made of visible characters of ASCII, if it names its host
by an address. -/
theorem graphic_chars_requested {text : String} {a : Address} (parsed : parse? text = some u)
    (sendable : u.isRequestable = true) (host : u.host = some (.address a)) :
    Graphic u.requested.chars := by
  have scheme : u.scheme = ['h', 't', 't', 'p'] ∨ u.scheme = ['h', 't', 't', 'p', 's'] := by
    simp only [isRequestable, Bool.and_eq_true] at sendable
    simpa using sendable.1.1
  have special : isSpecial u.scheme = true ∧ Graphic u.scheme := by
    rcases scheme with scheme | scheme
    · rw [scheme]
      decide
    · rw [scheme]
      decide
  have written := Written.of_parse? parsed special.1
  unfold requested
  split
  · exact Written.graphic_chars { written with user := .nil, password := .nil } special.2 host
  · exact written.graphic_chars special.2 host

end Url

end StreamRelay
