/-!
# Byte strings

Byte strings, their text, their lines and their pieces.

Main statements: the pieces of a byte string join to it again (`flatten_pieces`), none is empty or
longer than the given size (`length_of_mem_pieces`), and there are as many as the length asks for
(`length_pieces`). The lines of a byte string that ends with a line feed do not depend on what comes
after it (`lines_append`). A text can be read back from its UTF-8 form (`text?_ofText`).
-/

namespace StreamRelay

/-- A byte string. -/
abbrev Bytes := List UInt8

namespace Bytes

/-- The UTF-8 form of a text. -/
def ofText (s : String) : Bytes := s.toUTF8.toList

/-- The text whose UTF-8 form a byte string is, if there is one. -/
def text? (bs : Bytes) : Option String := String.fromUTF8? bs.toByteArray

/-- Reading a byte array into a list from an index on. -/
theorem toList_loop (bs : ByteArray) (i : Nat) (front : List UInt8) :
    ByteArray.toList.loop bs i front = front.reverse ++ bs.data.toList.drop i := by
  fun_induction ByteArray.toList.loop bs i front with
  | case1 i front within ih =>
    have within' : i < bs.data.toList.length := within
    have at_ : bs.get! i = bs.data.toList[i] := by simp [ByteArray.get!, within]
    rw [ih, List.drop_eq_getElem_cons within', List.reverse_cons, List.append_assoc, at_]
    rfl
  | case2 i front beyond =>
    rw [List.drop_eq_nil_of_le (Nat.le_of_not_lt beyond), List.append_nil]

/-- A text can be read back from its UTF-8 form. -/
theorem text?_ofText (s : String) : text? (ofText s) = some s := by
  have bytes : (ofText s).toByteArray = s.toByteArray := by
    apply ByteArray.ext
    apply Array.toList_inj.1
    rw [List.toList_data_toByteArray, ofText, ByteArray.toList, toList_loop]
    rfl
  rw [text?, bytes, String.fromUTF8?, dif_pos s.isValidUTF8]
  rfl

/-- The byte that ends a line. -/
def lineFeed : UInt8 := 10

/-- The byte that is no part of a line when it stands right before the line feed. -/
def carriageReturn : UInt8 := 13

/-- A line without the carriage return that it ends with; lines are held back to front. -/
def dropReturn : Bytes → Bytes
  | [] => []
  | b :: line => if b = carriageReturn then line else b :: line

/-- The lines of a byte string after the start `line` of the current one, held back to front. -/
def linesAfter (line : Bytes) : Bytes → List Bytes
  | [] => if line.isEmpty then [] else [line.reverse]
  | b :: bs =>
    if b = lineFeed then (dropReturn line).reverse :: linesAfter [] bs
    else linesAfter (b :: line) bs

/-- The lines of a byte string: they end at line feeds, a carriage return before a line feed is no
part of its line, and what follows the last line feed is a line unless it is empty. -/
def lines (bs : Bytes) : List Bytes := linesAfter [] bs

/-- What stands before a line feed is cut into lines on its own. -/
theorem linesAfter_append (line as bs : Bytes) :
    linesAfter line (as ++ lineFeed :: bs) = linesAfter line (as ++ [lineFeed]) ++ lines bs := by
  induction as generalizing line with
  | nil => simp [linesAfter, lines]
  | cons a as ih =>
    by_cases h : a = lineFeed
    · simp [linesAfter, h, ih]
    · simp [linesAfter, h, ih]

/-- The lines of a byte string that ends with a line feed do not depend on what follows. -/
theorem lines_append (as bs : Bytes) :
    lines (as ++ [lineFeed] ++ bs) = lines (as ++ [lineFeed]) ++ lines bs := by
  simpa [lines] using linesAfter_append [] as bs

/-- The consecutive pieces of `size` bytes that a byte string is made of; the last may be shorter.
-/
def pieces (size : Nat) (bs : Bytes) : List Bytes :=
  if _h : bs = [] ∨ size = 0 then [] else bs.take size :: pieces size (bs.drop size)
termination_by bs.length
decreasing_by
  have := List.length_pos_iff.2 (fun e => _h (.inl e))
  simp only [List.length_drop]
  omega

/-- Nothing has no pieces. -/
@[simp] theorem pieces_nil (size : Nat) : pieces size [] = [] := by
  simp [pieces]

/-- A byte string that is not empty starts with a piece of it. -/
theorem pieces_of_ne_nil {size : Nat} (pos : 0 < size) {bs : Bytes} (ne : bs ≠ []) :
    pieces size bs = bs.take size :: pieces size (bs.drop size) := by
  rw [pieces, dif_neg]
  rintro (h | h)
  · exact ne h
  · omega

/-- The pieces of a byte string join to it again. -/
theorem flatten_pieces {size : Nat} (pos : 0 < size) (bs : Bytes) :
    (pieces size bs).flatten = bs := by
  fun_induction pieces size bs with
  | case1 bs h =>
    rcases h with rfl | h
    · rfl
    · omega
  | case2 bs h ih => simp [ih]

/-- No piece is empty or longer than the given size. -/
theorem length_of_mem_pieces {size : Nat} {bs p : Bytes} (mem : p ∈ pieces size bs) :
    0 < p.length ∧ p.length ≤ size := by
  fun_induction pieces size bs with
  | case1 bs h => simp at mem
  | case2 bs h ih =>
    rcases List.mem_cons.1 mem with rfl | mem
    · have := List.length_pos_iff.2 (fun e => h (.inl e))
      simp only [List.length_take]
      omega
    · exact ih mem

/-- There are as many pieces as the length divided by the size, rounded up. -/
theorem length_pieces {size : Nat} (pos : 0 < size) (bs : Bytes) :
    (pieces size bs).length = (bs.length + size - 1) / size := by
  fun_induction pieces size bs with
  | case1 bs h =>
    rcases h with rfl | h
    · simp only [List.length_nil, Nat.zero_add]
      exact (Nat.div_eq_of_lt (by omega)).symm
    · omega
  | case2 bs h ih =>
    have len := List.length_pos_iff.2 (fun e => h (.inl e))
    simp only [List.length_cons, ih, List.length_drop]
    by_cases le : bs.length ≤ size
    · rw [Nat.div_eq_of_lt (by omega)]
      exact (Nat.div_eq_of_lt_le (by omega) (by omega)).symm
    · rw [show bs.length + size - 1 = bs.length - size + size - 1 + size by omega,
        Nat.add_div_right _ pos]

end Bytes

end StreamRelay
