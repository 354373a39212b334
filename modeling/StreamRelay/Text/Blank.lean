/-!
# White space

The characters with the Unicode property `White_Space`, and trimming by them. Trimming keeps a text
with white space at neither end (`trim_eq_self`), and takes away white space put around a text
(`trimStart_append`, `trimEnd_append`).
-/

namespace StreamRelay.Text

/-- The characters with the Unicode property `White_Space`. -/
def isBlank (c : Char) : Bool :=
  let n := c.toNat
  (0x09 ≤ n && n ≤ 0x0D) || n == 0x20 || n == 0x85 || n == 0xA0 || n == 0x1680 ||
    (0x2000 ≤ n && n ≤ 0x200A) || n == 0x2028 || n == 0x2029 || n == 0x202F || n == 0x205F ||
    n == 0x3000

/-- A text without the white space it begins with. -/
def trimStart (cs : List Char) : List Char := cs.dropWhile isBlank

/-- A text without the white space it ends with. -/
def trimEnd (cs : List Char) : List Char := (trimStart cs.reverse).reverse

/-- A text without the white space around it. -/
def trim (cs : List Char) : List Char := trimEnd (trimStart cs)

/-- A text of white space only. -/
def AllBlank (cs : List Char) : Prop := ∀ c ∈ cs, isBlank c = true

/-- White space in front of a text is taken away. -/
theorem trimStart_append {w : List Char} (h : AllBlank w) (cs : List Char) :
    trimStart (w ++ cs) = trimStart cs := by
  induction w with
  | nil => rfl
  | cons c w ih =>
    have hc : isBlank c = true := h c (by simp)
    have hw : AllBlank w := fun d hd => h d (by simp [hd])
    simpa [trimStart, List.dropWhile_cons, hc] using ih hw

/-- White space behind a text is taken away. -/
theorem trimEnd_append {w : List Char} (h : AllBlank w) (cs : List Char) :
    trimEnd (cs ++ w) = trimEnd cs := by
  have hr : AllBlank w.reverse := fun c hc => h c (by simpa using hc)
  simp [trimEnd, trimStart_append hr]

/-- A text of white space only trims to the empty text. -/
theorem trimStart_eq_nil_iff {cs : List Char} : trimStart cs = [] ↔ AllBlank cs := by
  induction cs with
  | nil => simp [trimStart, AllBlank]
  | cons c cs ih =>
    cases hc : isBlank c with
    | true =>
      have : trimStart (c :: cs) = trimStart cs := by simp [trimStart, hc]
      rw [this, ih]
      simp [AllBlank, hc]
    | false => simp [trimStart, hc, AllBlank]

/-- A text that does not begin with white space keeps its start. -/
theorem trimStart_eq_self {cs : List Char} (h : ∀ c, cs.head? = some c → isBlank c = false) :
    trimStart cs = cs := by
  cases cs with
  | nil => rfl
  | cons c cs => simp [trimStart, h c rfl]

/-- What trimming the start leaves does not begin with white space. -/
theorem head_trimStart {cs : List Char} {c : Char} (h : (trimStart cs).head? = some c) :
    isBlank c = false := by
  induction cs with
  | nil => simp [trimStart] at h
  | cons d cs ih =>
    cases hd : isBlank d with
    | true =>
      have : trimStart (d :: cs) = trimStart cs := by simp [trimStart, hd]
      exact ih (this ▸ h)
    | false =>
      simp [trimStart, hd] at h
      exact h ▸ hd

/-- A text with white space at neither end is its own trimmed form. -/
theorem trim_eq_self {cs : List Char} (first : ∀ c, cs.head? = some c → isBlank c = false)
    (last : ∀ c, cs.getLast? = some c → isBlank c = false) : trim cs = cs := by
  have hr : trimStart cs.reverse = cs.reverse :=
    trimStart_eq_self (fun c hc => last c (by simpa using hc))
  rw [trim, trimStart_eq_self first, trimEnd, hr, List.reverse_reverse]

end StreamRelay.Text
